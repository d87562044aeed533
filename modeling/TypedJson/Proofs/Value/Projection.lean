import TypedJson.Proofs.Graph.Reordering
import TypedJson.Proofs.Value.Family
import TypedJson.Proofs.Value.Fields
import TypedJson.Proofs.Value.IntegerText
import TypedJson.Proofs.Value.TimestampText

/-!
# Encoding after decoding is a projection

What a type decodes to is encoded again, and decoding and encoding once more gives the same JSON
value. `encode_decode_projection` states it for accepted graphs with distinct property names, whose
transformations are those of integers in texts and whose unions are discriminable. The induction is
on the level of the value and, within a level, from the members of a union to the union.
-/

namespace TypedJson.TypeGraph

open Outcome Ordered

/-- Encoding a value of a type gives a JSON value that decodes and encodes to itself. On the way
only a missing value becomes one. -/
def Stable (g : TypeGraph) (t : TypeRef) (x : Value) : Prop :=
  ∃ w y, g.encode t x = .ok w ∧ g.decode t w = .ok y ∧ g.encode t y = .ok w ∧ y.isNone = x.isNone

variable {g : TypeGraph} {t : TypeRef} {k : Kind} {v x : Value}

/-- A kind that decodes and encodes a value to itself is stable on it. -/
theorem stable_of_fixed (hdecode : g.decode t x = .ok x) (hencode : g.encode t x = .ok x) :
    g.Stable t x :=
  ⟨x, x, hencode, hdecode, hencode, rfl⟩

variable (hg : g.Accepted) (hx : g.OnlyIntegerTexts)
include hg hx

/-! ## Single values -/

/-- The type of all values decodes and encodes each of them to itself. -/
theorem convert_any (hk : g.kind? t = some .any) (v : Value) :
    g.decode t v = .ok v ∧ g.encode t v = .ok v := by
  rw [decode_byKind hg hx hk rfl, decodeByKind, encode_byKind hg hx hk rfl, encodeByKind,
    kindOf_eq hk]
  exact ⟨rfl, rfl⟩

/-- An integer is stable as an integer. -/
theorem stable_integer (hk : g.kind? t = some .integer) (i : Int) : g.Stable t (.int i) := by
  apply stable_of_fixed
  · rw [decode_byKind hg hx hk rfl, decodeByKind, kindOf_eq hk]
    rfl
  · rw [encode_byKind hg hx hk rfl, encodeByKind, kindOf_eq hk]
    rfl

/-- What a kind without parts decodes to is stable. -/
theorem stable_of_simple (hk : g.kind? t = some k)
    (hsimple : k ∈ [Kind.null, .bool, .integer, .double, .text]) (h : g.decode t v = .ok x) :
    g.Stable t x := by
  have hne : k.isDigits = false := by
    simp only [List.mem_cons, List.not_mem_nil, or_false] at hsimple
    obtain rfl | rfl | rfl | rfl | rfl := hsimple <;> rfl
  have hfixed : g.decode t x = .ok x ∧ g.encode t x = .ok x := by
    rw [decode_byKind hg hx hk hne, decodeByKind, kindOf_eq hk] at h ⊢
    rw [encode_byKind hg hx hk hne, encodeByKind, kindOf_eq hk]
    simp only [List.mem_cons, List.not_mem_nil, or_false] at hsimple
    obtain rfl | rfl | rfl | rfl | rfl := hsimple
    all_goals cases v <;> first | (cases h; exact ⟨rfl, rfl⟩) | cases h
  exact stable_of_fixed hfixed.1 hfixed.2

/-- A decoded case of an enumeration is stable. -/
theorem stable_enumeration {e : Enumeration} (hk : g.kind? t = some (.enumeration e))
    (h : g.decode t v = .ok x) : g.Stable t x := by
  have hrule (w : Value) : g.decode t w = e.decode w ∧ g.encode t w = e.encode w := by
    rw [decode_byKind hg hx hk rfl, decodeByKind, encode_byKind hg hx hk rfl, encodeByKind,
      kindOf_eq hk]
    exact ⟨rfl, rfl⟩
  rw [(hrule v).1] at h
  cases v with
  | str s =>
      rw [Enumeration.decode] at h
      split at h
      · rename_i hcase
        cases h
        have hencode : g.encode t (.enumCase e.name s) = .ok (.str s) := by
          rw [(hrule _).2]
          exact if_pos rfl
        have hdecode : g.decode t (.str s) = .ok (.enumCase e.name s) := by
          rw [(hrule _).1]
          exact if_pos hcase
        exact ⟨.str s, .enumCase e.name s, hencode, hdecode, hencode, rfl⟩
      · cases h
  | none | bool | int | float | list | dict | dateTime | enumCase | object => cases h

/-- A decoded timestamp is stable: what it loses below microseconds is not written. -/
theorem stable_dateTime (hk : g.kind? t = some (.formatted .dateTime)) (h : g.decode t v = .ok x) :
    g.Stable t x := by
  have hencode (time : Timestamp) : g.encode t (.dateTime time) = .ok (.str time.text) := by
    rw [encode_byKind hg hx hk rfl, encodeByKind, kindOf_eq hk]
    rfl
  have hdecode (s : String) : g.decode t (.str s) = parseTimestamp s := by
    rw [decode_byKind hg hx hk rfl, decodeByKind, kindOf_eq hk]
    rfl
  cases v with
  | str s =>
      rw [hdecode, parseTimestamp] at h
      split at h
      · rename_i time hparse
        cases h
        have hread := Timestamp.parse?_text (Timestamp.parse?_wellFormed hparse)
        refine ⟨.str time.text, .dateTime time.truncated, hencode time, ?_, ?_, rfl⟩
        · rw [hdecode, parseTimestamp, hread]
        · rw [hencode, Timestamp.text_truncated]
      · cases h
  | none | bool | int | float | list | dict | dateTime | enumCase | object =>
      rw [decode_byKind hg hx hk rfl, decodeByKind, kindOf_eq hk] at h
      cases h

/-- A decoded integer in a text is stable. -/
theorem stable_integerText (hk : g.kind? t = some (.formatted .integerText))
    (h : g.decode t v = .ok x) : g.Stable t x := by
  obtain ⟨⟨s, i, -, hparse, rfl⟩, hrule⟩ := decode_integerText hg hx hk h
  refine ⟨.str (toString i), .int i, hrule _ _, ?_, hrule _ _, rfl⟩
  have hread := Integer.parse?_toString (Integer.parse?_bounds hparse)
  rw [decode, hrule, convertDigits, parseInteger, hread]

/-! ## Lists, dicts and objects -/

omit hg hx in
/-- Items that are encoded, decoded and encoded again are so as a list. -/
theorem mapM_stable {α β : Type} {e : α → Outcome β} {d : β → Outcome α} {l : List α}
    (h : ∀ a ∈ l, ∃ b c, e a = .ok b ∧ d b = .ok c ∧ e c = .ok b) :
    ∃ bs cs, l.mapM e = .ok bs ∧ bs.mapM d = .ok cs ∧ cs.mapM e = .ok bs := by
  simp only [mapM_eq_ok]
  induction l with
  | nil => exact ⟨[], [], .nil, .nil, .nil⟩
  | cons a l ih =>
      obtain ⟨⟨b, c, hb, hc, hb'⟩, hl⟩ := List.forall_mem_cons.1 h
      obtain ⟨bs, cs, hbs, hcs, hbs'⟩ := ih hl
      exact ⟨b :: bs, c :: cs, .cons hb hbs, .cons hc hcs, .cons hb' hbs'⟩

/-- A decoded list is stable if its items are. -/
theorem stable_array {items : TypeRef} (hk : g.kind? t = some (.array items))
    (hpart : ∀ w y : Value, w.depth < v.depth → g.decode items w = .ok y → g.Stable items y)
    (h : g.decode t v = .ok x) : g.Stable t x := by
  have hrule (w : Value) : g.decode t w = convertItems (g.decode items) w ∧
      g.encode t w = convertItems (g.encode items) w := by
    rw [decode_byKind hg hx hk rfl, decodeByKind, encode_byKind hg hx hk rfl, encodeByKind,
      kindOf_eq hk]
    exact ⟨rfl, rfl⟩
  rw [(hrule v).1] at h
  cases v with
  | list vs =>
      obtain ⟨xs, hxs, rfl⟩ := map_eq_ok.1 h
      have hstable : ∀ y ∈ xs, g.Stable items y := by
        intro y hy
        obtain ⟨w, hw, hwy⟩ := exists_of_mapM hxs hy
        exact hpart w y (Nat.lt_succ_of_le (Value.depth_le_items hw)) hwy
      -- The items go forth and back one by one, and so does the list.
      obtain ⟨ws, ys, hws, hys, hws'⟩ := mapM_stable (e := g.encode items) (d := g.decode items)
        fun y hy => by
          obtain ⟨w, z, hw, hz, hw', -⟩ := hstable y hy
          exact ⟨w, z, hw, hz, hw'⟩
      refine ⟨.list ws, .list ys, ?_, ?_, ?_, rfl⟩
      · rw [(hrule _).2]
        exact map_eq_ok.2 ⟨ws, hws, rfl⟩
      · rw [(hrule _).1]
        exact map_eq_ok.2 ⟨ys, hys, rfl⟩
      · rw [(hrule _).2]
        exact map_eq_ok.2 ⟨ws, hws', rfl⟩
  | none | bool | int | float | str | dict | dateTime | enumCase | object => cases h

/-- A decoded dict is stable if its values are. -/
theorem stable_map {values : TypeRef} (hk : g.kind? t = some (.map values))
    (hpart : ∀ w y : Value, w.depth < v.depth → g.decode values w = .ok y → g.Stable values y)
    (h : g.decode t v = .ok x) : g.Stable t x := by
  have hrule (w : Value) : g.decode t w = convertEntries (g.decode values) w ∧
      g.encode t w = convertEntries (g.encode values) w := by
    rw [decode_byKind hg hx hk rfl, decodeByKind, encode_byKind hg hx hk rfl, encodeByKind,
      kindOf_eq hk]
    exact ⟨rfl, rfl⟩
  rw [(hrule v).1] at h
  cases v with
  | dict entries =>
      obtain ⟨xs, hxs, rfl⟩ := map_eq_ok.1 h
      have hstable : ∀ y ∈ xs, g.Stable values y.2 := by
        intro y hy
        obtain ⟨entry, hentry, hwy⟩ := exists_of_mapM hxs hy
        obtain ⟨z, hz, rfl⟩ := map_eq_ok.1 hwy
        exact hpart entry.2 z (Nat.lt_succ_of_le (Value.depth_le_entries hentry)) hz
      obtain ⟨ws, ys, hws, hys, hws'⟩ := mapM_stable
        (e := fun entry : String × Value =>
          (g.encode values entry.2).map fun value => (entry.1, value))
        (d := fun entry : String × Value =>
          (g.decode values entry.2).map fun value => (entry.1, value))
        fun y hy => by
          obtain ⟨w, z, hw, hz, hw', -⟩ := hstable y hy
          exact ⟨(y.1, w), (y.1, z), map_eq_ok.2 ⟨w, hw, rfl⟩, map_eq_ok.2 ⟨z, hz, rfl⟩,
            map_eq_ok.2 ⟨w, hw', rfl⟩⟩
      refine ⟨.dict ws, .dict ys, ?_, ?_, ?_, rfl⟩
      · rw [(hrule _).2]
        exact map_eq_ok.2 ⟨ws, hws, rfl⟩
      · rw [(hrule _).1]
        exact map_eq_ok.2 ⟨ys, hys, rfl⟩
      · rw [(hrule _).2]
        exact map_eq_ok.2 ⟨ws, hws', rfl⟩
  | none | bool | int | float | str | list | dateTime | enumCase | object => cases h

/-- A member of a union decodes a missing value to a missing value or not at all. -/
theorem decode_none (hk : g.kind? t = some k) (hunion : k.isUnion = false)
    (h : g.decode t .none = .ok x) : x = .none := by
  by_cases hany : k = .any
  · subst hany
    rw [(convert_any hg hx hk .none).1] at h
    cases h
    rfl
  · obtain ⟨heq | ⟨-, heq⟩, -⟩ := decode_family hg hx hk hany hunion h
    · have hnull : k = .null := by
        cases k with
        | null => rfl
        | any => exact absurd rfl hany
        | union => cases hunion
        | bool | integer | double | text | array | map | record | enumeration | formatted =>
            cases heq
      subst hnull
      rw [decode_byKind hg hx hk rfl, decodeByKind, kindOf_eq hk] at h
      cases h
      rfl
    · cases heq

/-- A type that admits null decodes a missing value to a missing value. -/
theorem decode_none_of_isNullable (h : g.isNullable t) : g.decode t .none = .ok .none := by
  have hnull {m : TypeRef} (hm : g.kind? m = some .null) : g.decode m .none = .ok .none := by
    rw [decode_byKind hg hx hm rfl, decodeByKind, kindOf_eq hm]
    rfl
  rw [isNullable] at h
  split at h
  · exact hnull ‹_›
  · rename_i members hk
    obtain ⟨m, hm, hmnull⟩ := List.any_eq_true.1 h
    have hmkind : g.kind? m = some .null := by
      rw [isNull, kindHolds] at hmnull
      split at hmnull
      · rename_i k hk
        rw [hk, of_decide_eq_true hmnull]
      · cases hmnull
    have hsettled : ∀ m' ∈ members, (g.decode m' .none).Settled := fun m' hm' =>
      settled_convert hg hx (hg.refs hk m' hm') .decode .none
    rw [decode_byKind hg hx hk rfl, decodeByKind, kindOf_eq hk]
    refine firstSuccess_ranked hsettled (hg.ranked hk) hm (hnull hmkind) (fun m' hm' y hy => ?_) 0
    obtain ⟨k', hk'⟩ := kind?_isSome (hg.refs hk m' hm')
    have hunion := (hg.members hk).2 m' hm'
    rw [kindHolds_eq hk'] at hunion
    exact .inl (decode_none hg hx hk' hunion hy)
  · cases h

/-- A field whose value is stable is left out again, or encoded to the same entry again. -/
theorem encodeField_stable (h : g.Stable t x) :
    ∃ a z, encodeField g.isNullable g.encode t x = .ok a ∧ g.decode t (a.getD .none) = .ok z ∧
      encodeField g.isNullable g.encode t z = .ok a := by
  obtain ⟨w, y, hw, hy, hw', hnone⟩ := h
  by_cases hskip : x.isNone && g.isNullable t
  · obtain ⟨-, hnullable⟩ := Bool.and_eq_true_iff.1 hskip
    refine ⟨none, .none, if_pos hskip, decode_none_of_isNullable hg hx hnullable, if_pos ?_⟩
    rw [hnullable]
    rfl
  · refine ⟨some w, y, ?_, hy, ?_⟩
    · rw [encodeField, if_neg hskip, hw]
      rfl
    · rw [encodeField, hnone, if_neg hskip, hw']
      rfl

/-- A decoded object is stable if the fields of its properties are. -/
theorem stable_record {r : Record} (hk : g.kind? t = some (.record r))
    (hnames : (r.properties.map Property.name).Nodup)
    (hpart : ∀ p ∈ r.properties, ∀ w y : Value, w.depth < v.depth →
      g.decode p.type w = .ok y → g.Stable p.type y)
    (h : g.decode t v = .ok x) : g.Stable t x := by
  have hdecode (entries : List (String × Value)) : g.decode t (.dict entries)
      = (decodeFields g.decode r.properties entries []).map (.object r.name) := by
    rw [decode_byKind hg hx hk rfl, decodeByKind, kindOf_eq hk]
    rfl
  have hencode (fields : List (String × Value)) : g.encode t (.object r.name fields)
      = (encodeFields g.isNullable g.encode r.properties fields []).map .dict := by
    rw [encode_byKind hg hx hk rfl, encodeByKind, kindOf_eq hk]
    exact if_pos rfl
  cases v with
  | dict given =>
      rw [hdecode] at h
      obtain ⟨fields, hfields, rfl⟩ := map_eq_ok.1 h
      obtain ⟨hfields, -⟩ := decodeFields_ok hnames hfields
      -- every property goes forth and back on its own
      have hproperty : ∀ p ∈ r.properties, ∃ a z,
          encodeField g.isNullable g.encode p.type (valueOf p.name fields) = .ok a ∧
            g.decode p.type (a.getD .none) = .ok z ∧
            encodeField g.isNullable g.encode p.type z = .ok a := by
        intro p hp
        obtain ⟨y, hy, hfind⟩ := hfields p hp
        have hvalue : valueOf p.name fields = y := by rw [valueOf, hfind, Option.getD_some]
        have hdepth : (valueOf p.name given).depth < (Value.dict given).depth := by
          rw [valueOf]
          cases hgiven : find? p.name given with
          | none => exact Nat.succ_pos _
          | some w => exact Nat.lt_succ_of_le (Value.depth_le_entries (mem_of_find? hgiven))
        rw [hvalue]
        exact encodeField_stable hg hx (hpart p hp _ y hdepth hy)
      obtain ⟨entries, hentries⟩ := encodeFields_exists [] hnames fun p hp => by
        obtain ⟨a, -, ha, -⟩ := hproperty p hp
        exact ⟨a, ha⟩
      obtain ⟨hwritten, -⟩ := encodeFields_ok hnames hentries
      have hread : ∀ p ∈ r.properties, ∃ z, g.decode p.type (valueOf p.name entries) = .ok z ∧
          encodeField g.isNullable g.encode p.type z
            = encodeField g.isNullable g.encode p.type (valueOf p.name fields) := by
        intro p hp
        obtain ⟨a, z, ha, hz, ha'⟩ := hproperty p hp
        obtain ⟨b, hb, hfind⟩ := hwritten p hp
        rw [ha] at hb
        cases hb
        refine ⟨z, ?_, ha'.trans ha.symm⟩
        rw [valueOf, hfind, find?, Option.or_none]
        exact hz
      obtain ⟨fields', hfields'⟩ := decodeFields_exists [] hnames fun p hp => by
        obtain ⟨z, hz, -⟩ := hread p hp
        exact ⟨z, hz⟩
      have hagain : encodeFields g.isNullable g.encode r.properties fields' [] = .ok entries := by
        rw [← hentries]
        refine encodeFields_congr hnames fun p hp => ?_
        obtain ⟨z, hz, hsame⟩ := hread p hp
        obtain ⟨z', hz', hfind⟩ := (decodeFields_ok hnames hfields').1 p hp
        rw [hz] at hz'
        cases hz'
        rw [← hsame, valueOf, hfind, Option.getD_some]
      refine ⟨.dict entries, .object r.name fields', ?_, ?_, ?_, rfl⟩
      · rw [hencode]
        exact map_eq_ok.2 ⟨entries, hentries, rfl⟩
      · rw [hdecode]
        exact map_eq_ok.2 ⟨fields', hfields', rfl⟩
      · rw [hencode]
        exact map_eq_ok.2 ⟨entries, hagain, rfl⟩
  | none | bool | int | float | str | list | dateTime | enumCase | object =>
      rw [decode_byKind hg hx hk rfl, decodeByKind, kindOf_eq hk] at h
      cases h

/-! ## Unions -/

/-- A union is converted by its members in order. -/
theorem convert_union {ms : List TypeRef} (hk : g.kind? t = some (.union ms)) (v : Value) :
    g.decode t v = firstSuccess (fun m => g.decode m v) 0 ms ∧
      g.encode t v = firstSuccess (fun m => g.encode m v) 0 ms := by
  rw [decode_byKind hg hx hk rfl, decodeByKind, encode_byKind hg hx hk rfl, encodeByKind,
    kindOf_eq hk]
  exact ⟨rfl, rfl⟩

/-- A union with the type of all values leaves every value that it decodes as it is. -/
theorem stable_any_union {ms : List TypeRef} (hk : g.kind? t = some (.union ms))
    (hall : ∀ m ∈ ms, g.kind? m = some .any ∨ g.kind? m = some .null)
    (h : g.decode t v = .ok x) : g.Stable t x := by
  have hmember {m : TypeRef} (hm : m ∈ ms) (w : Value) :
      (∀ y, g.decode m w = .ok y → y = w ∧ g.encode m w = .ok w) ∧
        ∀ y, g.encode m w = .ok y → y = w := by
    obtain hkind | hkind := hall m hm
    · rw [(convert_any hg hx hkind w).1, (convert_any hg hx hkind w).2]
      exact ⟨fun y h => ⟨(Except.ok.inj h).symm, rfl⟩, fun y h => (Except.ok.inj h).symm⟩
    · rw [decode_byKind hg hx hkind rfl, decodeByKind, encode_byKind hg hx hkind rfl,
        encodeByKind, kindOf_eq hkind]
      cases w with
      | none =>
          exact ⟨fun y h => ⟨(Except.ok.inj h).symm, rfl⟩, fun y h => (Except.ok.inj h).symm⟩
      | bool | int | float | str | list | dict | dateTime | enumCase | object =>
          constructor <;> rintro y ⟨⟩
  rw [(convert_union hg hx hk v).1] at h
  obtain ⟨m, hm, hrun⟩ := exists_of_firstSuccess h
  obtain ⟨rfl, hencode⟩ := (hmember hm v).1 x hrun
  apply stable_of_fixed
  · rw [(convert_union hg hx hk x).1, h]
  · rw [(convert_union hg hx hk x).2]
    exact firstSuccess_ranked (fun m' hm' => settled_convert hg hx (hg.refs hk m' hm') .encode x)
      (hg.ranked hk) hm hencode (fun m' hm' y hy => .inl ((hmember hm' x).2 y hy)) 0

section Rivals

variable {ms : List TypeRef} {m m' : TypeRef} {k' : Kind} {w w' y y' : Value}
  (hd : g.Discriminable ms) (hm : m ∈ ms) (hm' : m' ∈ ms)
  (hk : g.kind? m = some k) (hk' : g.kind? m' = some k')
  (hany : k ≠ .any) (hany' : k' ≠ .any) (hunion : k.isUnion = false) (hunion' : k'.isUnion = false)
include hd hm hm' hk hk' hany hany' hunion hunion'

/-- Two members that encode a value encode it alike, or the one that writes digits ranks behind. -/
theorem encode_rival (h : g.encode m x = .ok w) (h' : g.encode m' x = .ok w')
    (hdigits : k = .formatted .integerText → k' ≠ .integer) : w' = w ∨ g.rank m < g.rank m' := by
  have hsame (hfamily : k.family = k'.family) : w' = w := by
    obtain rfl | ⟨rfl, hne⟩ := hd.eq_or_kind hm hm' hk hk' hunion hfamily
    · rw [h] at h'
      exact (Except.ok.inj h').symm
    · rw [encode, convert_congr hg hx hk hk' hne, ← encode, h'] at h
      exact Except.ok.inj h
  obtain ⟨hfamily | ⟨rfl, hint⟩, -⟩ := encode_family hg hx hk hany hunion h
  · obtain ⟨hfamily' | ⟨rfl, hint'⟩, -⟩ := encode_family hg hx hk' hany' hunion' h'
    · exact .inl (hsame (hfamily.symm.trans hfamily'))
    · right
      have hinteger : k = .integer := family_integer (hfamily.symm.trans hint')
      rw [rank, rank, hk, hk', hinteger]
      decide
  · obtain ⟨hfamily' | ⟨rfl, -⟩, -⟩ := encode_family hg hx hk' hany' hunion' h'
    · exact absurd (family_integer (hfamily'.symm.trans hint)) (hdigits rfl)
    · exact .inl (hsame rfl)

/-- Two members that decode what the first one encoded decode it alike, or the one that widens
integers ranks behind. -/
theorem decode_rival (h : g.encode m x = .ok w) (hy : g.decode m w = .ok y)
    (hy' : g.decode m' w = .ok y') : y' = y ∨ g.rank m < g.rank m' := by
  obtain ⟨-, hwritten⟩ := encode_family hg hx hk hany hunion h
  obtain ⟨hfamily | ⟨rfl, hint⟩, -⟩ := decode_family hg hx hk' hany' hunion' hy'
  · obtain rfl | ⟨rfl, hne⟩ := hd.eq_or_kind hm hm' hk hk' hunion (hwritten.symm.trans hfamily)
    · rw [hy] at hy'
      exact .inl (Except.ok.inj hy').symm
    · rw [decode, convert_congr hg hx hk hk' hne, ← decode, hy'] at hy
      exact .inl (Except.ok.inj hy)
  · right
    have hinteger : k = .integer := family_integer (hwritten.symm.trans hint)
    rw [rank, rank, hk, hk', hinteger]
    decide

end Rivals

/-- A discriminable union is stable on a value if a member is that integers do not go before. -/
theorem stable_of_member {ms : List TypeRef} {m : TypeRef} (hk : g.kind? t = some (.union ms))
    (hd : g.Discriminable ms) (hany : ∀ m ∈ ms, g.kind? m ≠ some .any) (hm : m ∈ ms)
    (hdigits : g.kind? m = some (.formatted .integerText) → ∀ m' ∈ ms, g.kind? m' ≠ some .integer)
    (h : g.Stable m x) : g.Stable t x := by
  obtain ⟨w, y, hw, hy, hw', hnone⟩ := h
  obtain ⟨k, hmk⟩ := kind?_isSome (hg.refs hk m hm)
  have hunion : ∀ m ∈ ms, ∀ k, g.kind? m = some k → k ≠ .any ∧ k.isUnion = false := by
    intro m hm k hmk
    refine ⟨fun hk => hany m hm (hk ▸ hmk), ?_⟩
    have hunion := (hg.members hk).2 m hm
    rwa [kindHolds_eq hmk] at hunion
  have hencode (x : Value) (hw : g.encode m x = .ok w) : g.encode t x = .ok w := by
    rw [(convert_union hg hx hk x).2]
    refine firstSuccess_ranked
      (fun m' hm' => settled_convert hg hx (hg.refs hk m' hm') .encode x)
      (hg.ranked hk) hm hw (fun m' hm' w' hw' => ?_) 0
    obtain ⟨k', hmk'⟩ := kind?_isSome (hg.refs hk m' hm')
    exact encode_rival hg hx hd hm hm' hmk hmk' (hunion m hm k hmk).1 (hunion m' hm' k' hmk').1
      (hunion m hm k hmk).2 (hunion m' hm' k' hmk').2 hw hw'
      fun hdig hint => hdigits (hdig ▸ hmk) m' hm' (hint ▸ hmk')
  refine ⟨w, y, hencode x hw, ?_, hencode y hw', hnone⟩
  rw [(convert_union hg hx hk w).1]
  refine firstSuccess_ranked
    (fun m' hm' => settled_convert hg hx (hg.refs hk m' hm') .decode w)
    (hg.ranked hk) hm hy (fun m' hm' y' hy' => ?_) 0
  obtain ⟨k', hmk'⟩ := kind?_isSome (hg.refs hk m' hm')
  exact decode_rival hg hx hd hm hm' hmk hmk' (hunion m hm k hmk).1 (hunion m' hm' k' hmk').1
    (hunion m hm k hmk).2 (hunion m' hm' k' hmk').2 hw hy hy'

/-- A discriminable union is stable on what it decodes if its members are. -/
theorem stable_union {ms : List TypeRef} (hk : g.kind? t = some (.union ms))
    (hd : g.Discriminable ms)
    (hmember : ∀ m ∈ ms, ∀ y, g.decode m v = .ok y → g.Stable m y)
    (h : g.decode t v = .ok x) : g.Stable t x := by
  by_cases hany : ∃ m ∈ ms, g.kind? m = some .any
  · obtain ⟨m, hm, hkind⟩ := hany
    exact stable_any_union hg hx hk (hd.any m hm hkind) h
  · have hany : ∀ m ∈ ms, g.kind? m ≠ some .any := fun m hm hkind => hany ⟨m, hm, hkind⟩
    rw [(convert_union hg hx hk v).1] at h
    obtain ⟨m, hm, hrun⟩ := exists_of_firstSuccess h
    by_cases hdigits : g.kind? m = some (.formatted .integerText) ∧
        ∃ m' ∈ ms, g.kind? m' = some .integer
    · -- the integer of a text is encoded as a member of the integers
      obtain ⟨hmk, m', hm', hmk'⟩ := hdigits
      obtain ⟨⟨_, i, -, -, rfl⟩, -⟩ := decode_integerText hg hx hmk hrun
      refine stable_of_member hg hx hk hd hany hm' (fun hkind => ?_) (stable_integer hg hx hmk' i)
      rw [hmk'] at hkind
      cases hkind
    · refine stable_of_member hg hx hk hd hany hm (fun hmk m' hm' hmk' => ?_) (hmember m hm x hrun)
      exact hdigits ⟨hmk, m', hm', hmk'⟩

/-! ## All types -/

/-- The names of the properties are distinct in every record. -/
def DistinctProperties (g : TypeGraph) : Prop :=
  ∀ t r, g.kind? t = some (.record r) → (r.properties.map Property.name).Nodup

/-- The members of every union are told apart by JSON shapes. -/
def DiscriminableUnions (g : TypeGraph) : Prop :=
  ∀ t ms, g.kind? t = some (.union ms) → g.Discriminable ms

/-- Everything that decodes is stable, if property names are distinct and unions discriminable. -/
theorem stable_of_decode (hp : g.DistinctProperties) (hu : g.DiscriminableUnions)
    (h : g.decode t v = .ok x) : g.Stable t x := by
  induction hreach : g.reach t v using Nat.strongRecOn generalizing t v x with
  | ind bound ih =>
      subst hreach
      obtain ⟨k, hk⟩ := kind?_of_convert h
      have hpart (r : TypeRef) (w y : Value) (hw : w.depth < v.depth)
          (hy : g.decode r w = .ok y) : g.Stable r y :=
        ih _ (g.reach_part r hw) hy rfl
      cases k with
      | any =>
          obtain ⟨hdecode, hencode⟩ := convert_any hg hx hk x
          exact stable_of_fixed hdecode hencode
      | null | bool | integer | double | text =>
          exact stable_of_simple hg hx hk (by simp) h
      | array items => exact stable_array hg hx hk (hpart items) h
      | map values => exact stable_map hg hx hk (hpart values) h
      | record r => exact stable_record hg hx hk (hp t r hk) (fun p _ => hpart p.type) h
      | enumeration e => exact stable_enumeration hg hx hk h
      | union ms =>
          refine stable_union hg hx hk (hu t ms hk) (fun m hm y hy => ?_) h
          exact ih _ (hg.reach_member hk hm) hy rfl
      | formatted format =>
          cases format with
          | dateTime => exact stable_dateTime hg hx hk h
          | integerText => exact stable_integerText hg hx hk h

omit hg hx in
/-- Encoding what was decoded, then decoding and encoding once more, gives the same JSON value. -/
theorem encode_decode_projection {types : Array Node} {topLevels : List TopLevel}
    (hmake : make types topLevels = .ok g) (hp : g.DistinctProperties) (hx : g.OnlyIntegerTexts)
    (hu : g.DiscriminableUnions) (t : TypeRef) (v x : Value) (h : g.decode t v = .ok x) :
    ∃ w y, g.encode t x = .ok w ∧ g.decode t w = .ok y ∧ g.encode t y = .ok w := by
  obtain ⟨w, y, hw, hy, hw', -⟩ := stable_of_decode (accepted_of_make hmake) hx hp hu h
  exact ⟨w, y, hw, hy, hw'⟩

omit hg hx

/-- A record of a count, which a text may stand for, and of the record behind it. -/
def countGraph : TypeGraph where
  types := #[⟨.null, none⟩, ⟨.integer, none⟩, ⟨.text, none⟩,
    ⟨.formatted .integerText, some (Builder.integerTextTransformation ⟨2⟩ ⟨1⟩)⟩,
    ⟨.union [⟨1⟩, ⟨3⟩], none⟩, ⟨.union [⟨0⟩, ⟨6⟩], none⟩,
    ⟨.record ⟨"Count", [⟨"count", ⟨4⟩, none⟩, ⟨"next", ⟨5⟩, none⟩], none⟩, none⟩]
  topLevels := [⟨"Counts", ⟨6⟩⟩]

/-- The types of counts have distinct property names, transformations of integers in texts only,
and discriminable unions. -/
theorem countGraph_fits : countGraph.DistinctProperties ∧ countGraph.OnlyIntegerTexts ∧
    countGraph.DiscriminableUnions := by
  refine ⟨?_, ?_, ?_⟩
  · rintro ⟨_ | _ | _ | _ | _ | _ | _ | i⟩ r h
    any_goals cases h
    decide
  · rintro ⟨_ | _ | _ | _ | _ | _ | _ | i⟩ x h
    any_goals cases h
    exact ⟨rfl, ⟨2⟩, ⟨1⟩, rfl, rfl, rfl⟩
  · rintro ⟨_ | _ | _ | _ | _ | _ | _ | i⟩ ms h
    any_goals cases h
    · exact ⟨by decide, by decide, by decide, by decide⟩
    · exact ⟨by decide, by decide, by decide, by decide⟩

/-- The record of a count from a text is encoded with an integer, which is decoded again. -/
theorem encode_decode_projection_count :
    make countGraph.types countGraph.topLevels = .ok countGraph ∧
      ∃ w y, countGraph.encode ⟨6⟩ (.object "Count" [("count", .int 12), ("next", .none)]) = .ok w ∧
        countGraph.decode ⟨6⟩ w = .ok y ∧ countGraph.encode ⟨6⟩ y = .ok w := by
  have hmake : make countGraph.types countGraph.topLevels = .ok countGraph :=
    make_eq_self rfl (by decide)
  obtain ⟨hp, hx, hu⟩ := countGraph_fits
  refine ⟨hmake, encode_decode_projection hmake hp hx hu ⟨6⟩ (.dict [("count", .str "12")]) _ ?_⟩
  rfl

end TypedJson.TypeGraph
