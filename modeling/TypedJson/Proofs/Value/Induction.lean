import TypedJson.Proofs.Value.Projection

/-!
# Induction on conversions

What carries over from the conversions of the parts of a value, and of the value itself as the
members of a union, holds of all conversions. `decode_induction` and `encode_induction` say so for
accepted graphs whose transformations are those of integers in texts. `EncodeStep` lists what
encoding by the rules of a kind does, as `DecodeStep` does for decoding. `find?_decodeFields`,
`forall_decodeFields` and `forall_encodeFields` take the fields of records apart even where property
names repeat. Encoding keeps the properties that pass between a value and its parts
(`hereditary_of_encode`).
-/

namespace TypedJson

open Ordered Outcome

/-! ## Fields under repeated names -/

section Fields

variable {f : TypeRef → Value → Outcome Value} {nullable : TypeRef → Bool} {props : List Property}
  {entries fields acc : List (String × Value)}

/-- Decoding fields leaves the fields of other names as they are. -/
theorem find?_decodeFields_of_not_mem {name : String} (hname : name ∉ props.map Property.name)
    (h : decodeFields f props entries acc = .ok fields) : find? name fields = find? name acc := by
  induction props generalizing entries acc with
  | nil =>
      cases h
      rfl
  | cons p rest ih =>
      rw [decodeFields, bind_eq_ok] at h
      obtain ⟨a, -, h⟩ := h
      obtain ⟨hne, hname⟩ := not_or.1 (mt List.mem_cons.2 hname)
      rw [ih hname h, find?_insertEntry_of_ne hne]

/-- The field of a property is decoded from the entry of its name. Where names repeat, the entry is
gone for the last property of the name, and the field is decoded from none. -/
theorem find?_decodeFields {p : Property} (hp : p ∈ props)
    (h : decodeFields f props entries acc = .ok fields) :
    ∃ y, find? p.name fields = some y ∧
      (f p.type (valueOf p.name entries) = .ok y ∨ ∃ q ∈ props, f q.type .none = .ok y) := by
  induction props generalizing entries acc p with
  | nil => exact absurd hp List.not_mem_nil
  | cons first rest ih =>
      rw [decodeFields, bind_eq_ok] at h
      obtain ⟨a, ha, h⟩ := h
      have hgone {q : Property} (hq : q.name = first.name) :
          valueOf q.name (erase first.name entries) = .none := by
        rw [valueOf, hq, find?_erase_self]
        rfl
      by_cases hrest : p.name ∈ rest.map Property.name
      · -- A property behind the first one has the name, and decodes the field.
        obtain ⟨q, hq, hname⟩ : ∃ q ∈ rest, q.name = p.name := List.mem_map.1 hrest
        obtain ⟨y, hfind, hy⟩ := ih hq h
        refine ⟨y, hname ▸ hfind, ?_⟩
        by_cases hfirst : p.name = first.name
        · right
          rcases hy with hy | ⟨q', hq', hy⟩
          · exact ⟨q, List.mem_cons_of_mem _ hq, hgone (hname.trans hfirst) ▸ hy⟩
          · exact ⟨q', List.mem_cons_of_mem _ hq', hy⟩
        · have hp : p ∈ rest := (List.mem_cons.1 hp).resolve_left fun heq => hfirst (heq ▸ rfl)
          obtain ⟨z, hfind', hz⟩ := ih hp h
          obtain rfl : y = z := by
            rw [hname, hfind'] at hfind
            exact (Option.some.inj hfind).symm
          rcases hz with hz | ⟨q', hq', hz⟩
          · left
            rwa [valueOf, find?_erase_of_ne hfirst] at hz
          · exact .inr ⟨q', List.mem_cons_of_mem _ hq', hz⟩
      · obtain rfl : p = first := (List.mem_cons.1 hp).resolve_right fun hp =>
          hrest (List.mem_map_of_mem hp)
        refine ⟨a, ?_, .inl ha⟩
        rw [find?_decodeFields_of_not_mem hrest h, find?_insertEntry_self]

/-- A field of a decoded object has the name of a property. -/
theorem exists_property_of_find? {name : String} {y : Value}
    (h : decodeFields f props entries [] = .ok fields) (hfind : find? name fields = some y) :
    ∃ p ∈ props, p.name = name := by
  by_contra hnone
  have hname : name ∉ props.map Property.name := fun hmem => hnone (List.mem_map.1 hmem)
  rw [find?_decodeFields_of_not_mem hname h] at hfind
  cases hfind

/-- The keys of a decoded object are the names of the properties. -/
theorem keys_decodeFields (hnames : (props.map Property.name).Nodup)
    (hfresh : ∀ p ∈ props, p.name ∉ acc.map Prod.fst)
    (h : decodeFields f props entries acc = .ok fields) :
    (fields.map Prod.fst).Perm (props.map Property.name ++ acc.map Prod.fst) := by
  induction props generalizing entries acc with
  | nil =>
      cases h
      exact .refl _
  | cons p rest ih =>
      obtain ⟨hp, hnames⟩ := List.nodup_cons.1 hnames
      obtain ⟨hpfresh, hrest⟩ := List.forall_mem_cons.1 hfresh
      rw [decodeFields, bind_eq_ok] at h
      obtain ⟨a, -, h⟩ := h
      have hkeys : ((insertEntry p.name a acc).map Prod.fst).Perm (p.name :: acc.map Prod.fst) :=
        keys_insertEntry hpfresh
      refine (ih hnames (fun q hq hmem => ?_) h).trans ?_
      · rcases List.mem_cons.1 (hkeys.subset hmem) with heq | hmem
        · exact hp (heq ▸ List.mem_map_of_mem hq)
        · exact hrest q hq hmem
      · exact (hkeys.append_left _).trans List.perm_middle

/-- What is looked up in a table is missing or there. -/
theorem valueOf_eq_or (name : String) (table : List (String × Value)) :
    valueOf name table = .none ∨ find? name table = some (valueOf name table) := by
  rw [valueOf]
  cases find? name table with
  | none => exact .inl rfl
  | some y => exact .inr rfl

/-- What is missing in a dict, or there, nests less deep than the dict. -/
theorem Value.depth_lt_of_find? {name : String} {v : Value}
    (h : v = .none ∨ find? name entries = some v) : v.depth < (Value.dict entries).depth := by
  rcases h with rfl | hfind
  · exact Nat.succ_pos _
  · exact Nat.lt_succ_of_le (Value.depth_le_entries (mem_of_find? hfind))

/-- The fields of a decoded object satisfy what the decodings of the entries satisfy, those of
missing entries among them. -/
theorem forall_decodeFields {Q : Value → Prop} (hacc : ∀ field ∈ acc, Q field.2)
    (hentry : ∀ p ∈ props, ∀ v y, v = .none ∨ find? p.name entries = some v →
      f p.type v = .ok y → Q y)
    (h : decodeFields f props entries acc = .ok fields) : ∀ field ∈ fields, Q field.2 := by
  induction props generalizing entries acc with
  | nil =>
      cases h
      exact hacc
  | cons p rest ih =>
      rw [decodeFields, bind_eq_ok] at h
      obtain ⟨y, hy, h⟩ := h
      obtain ⟨hp, hrest⟩ := List.forall_mem_cons.1 hentry
      refine ih ?_ (fun q hq v y hv => hrest q hq v y (hv.imp_right find?_of_erase)) h
      intro field hfield
      rcases mem_insertEntry hfield with rfl | hfield
      · exact hp _ y (valueOf_eq_or p.name entries) hy
      · exact hacc field hfield

/-- The values of an encoded dict satisfy what the encodings of the fields satisfy, those of missing
fields among them. -/
theorem forall_encodeFields {Q : Value → Prop} (hacc : ∀ entry ∈ acc, Q entry.2)
    (hfield : ∀ p ∈ props, ∀ y w, y = .none ∨ find? p.name fields = some y →
      f p.type y = .ok w → Q w)
    (h : encodeFields nullable f props fields acc = .ok entries) :
    ∀ entry ∈ entries, Q entry.2 := by
  induction props generalizing fields acc with
  | nil =>
      cases h
      exact hacc
  | cons p rest ih =>
      rw [encodeFields_cons, bind_eq_ok] at h
      obtain ⟨a, ha, h⟩ := h
      obtain ⟨hp, hrest⟩ := List.forall_mem_cons.1 hfield
      refine ih ?_ (fun q hq y w hy => hrest q hq y w (hy.imp_right find?_of_erase)) h
      cases a with
      | none => exact hacc
      | some w =>
          have hw : f p.type (valueOf p.name fields) = .ok w := by
            rw [encodeField] at ha
            split at ha
            · cases ha
            · obtain ⟨z, hz, hzw⟩ := map_eq_ok.1 ha
              cases hzw
              exact hz
          intro entry hentry
          rcases mem_insertEntry hentry with rfl | hentry
          · exact hp _ w (valueOf_eq_or p.name fields) hw
          · exact hacc entry hentry

end Fields

/-! ## Hereditary properties -/

/-- The property holds of none and of texts, of a list or a dict just if it holds of all values in
it, and of an object only if it holds of all fields. -/
structure Value.Hereditary (Q : Value → Prop) : Prop where
  none : Q .none
  str : ∀ s, Q (.str s)
  list : ∀ {items : List Value}, Q (.list items) ↔ ∀ item ∈ items, Q item
  dict : ∀ {entries : List (String × Value)}, Q (.dict entries) ↔ ∀ entry ∈ entries, Q entry.2
  fields : ∀ {record : String} {fields : List (String × Value)}, Q (.object record fields) →
    ∀ field ∈ fields, Q field.2

/-- A hereditary property that all values in a table have holds of what is missing in it, or
there. -/
theorem Value.Hereditary.of_find? {Q : Value → Prop} (hQ : Hereditary Q) {name : String} {v : Value}
    {table : List (String × Value)} (htable : ∀ entry ∈ table, Q entry.2)
    (h : v = .none ∨ find? name table = some v) : Q v := by
  rcases h with rfl | hfind
  · exact hQ.none
  · exact htable _ (mem_of_find? hfind)

/-! ## Steps of encoding -/

/-- A value of a kind, what it is encoded to, and the conversions of parts and members that this
takes. -/
inductive EncodeStep (nullable : TypeRef → Bool) (f : TypeRef → Value → Outcome Value) :
    Kind → Value → Value → Prop
  | any (x : Value) : EncodeStep nullable f .any x x
  | null : EncodeStep nullable f .null .none .none
  | bool (b : Bool) : EncodeStep nullable f .bool (.bool b) (.bool b)
  | integer (i : Int) : EncodeStep nullable f .integer (.int i) (.int i)
  | double (x : Binary64) : EncodeStep nullable f .double (.float x) (.float x)
  | text (s : String) : EncodeStep nullable f .text (.str s) (.str s)
  | array {t : TypeRef} {items results : List Value}
      (h : List.Forall₂ (fun x w => f t x = .ok w) items results) :
      EncodeStep nullable f (.array t) (.list items) (.list results)
  | map {t : TypeRef} {entries results : List (String × Value)}
      (h : List.Forall₂ (fun entry result => f t entry.2 = .ok result.2) entries results) :
      EncodeStep nullable f (.map t) (.dict entries) (.dict results)
  | record {r : Record} {fields entries : List (String × Value)}
      (h : encodeFields nullable f r.properties fields [] = .ok entries) :
      EncodeStep nullable f (.record r) (.object r.name fields) (.dict entries)
  | enumeration (e : Enumeration) (case : String) :
      EncodeStep nullable f (.enumeration e) (.enumCase e.name case) (.str case)
  | union {ms : List TypeRef} {m : TypeRef} {x w : Value} (hm : m ∈ ms) (h : f m x = .ok w) :
      EncodeStep nullable f (.union ms) x w
  | dateTime (time : Timestamp) :
      EncodeStep nullable f (.formatted .dateTime) (.dateTime time) (.str time.text)

namespace TypeGraph

variable {g : TypeGraph} {t : TypeRef} {k : Kind} {v x w : Value}

/-- Encoding by kind takes such a step. -/
theorem encodeStep_of_encodeByKind {f : TypeRef → Value → Outcome Value} (hk : g.kind? t = some k)
    (h : g.encodeByKind f x t = .ok w) : EncodeStep g.isNullable f k x w := by
  rw [encodeByKind, kindOf_eq hk] at h
  cases k with
  | any => cases h; exact .any x
  | null => cases x <;> cases h; exact .null
  | bool => cases x <;> cases h; exact .bool _
  | integer => cases x <;> cases h; exact .integer _
  | double => cases x <;> cases h; exact .double _
  | text => cases x <;> cases h; exact .text _
  | array items =>
      cases x with
      | list values =>
          obtain ⟨results, hresults, rfl⟩ := map_eq_ok.1 h
          exact .array (mapM_eq_ok.1 hresults)
      | none | bool | int | float | str | dict | dateTime | enumCase | object => cases h
  | map values =>
      cases x with
      | dict entries =>
          obtain ⟨results, hresults, rfl⟩ := map_eq_ok.1 h
          refine .map ((mapM_eq_ok.1 hresults).imp fun entry result hresult => ?_)
          obtain ⟨z, hz, rfl⟩ := map_eq_ok.1 hresult
          exact hz
      | none | bool | int | float | str | list | dateTime | enumCase | object => cases h
  | record r =>
      cases x with
      | object name fields =>
          change (if name = r.name then _ else _) = _ at h
          split at h
          · rename_i hname
            obtain ⟨entries, hentries, rfl⟩ := map_eq_ok.1 h
            subst hname
            exact .record hentries
          · cases h
      | none | bool | int | float | str | list | dict | dateTime | enumCase => cases h
  | enumeration e =>
      cases x with
      | enumCase name case =>
          change e.encode (.enumCase name case) = .ok w at h
          rw [Enumeration.encode] at h
          split at h
          · rename_i hname
            cases h
            subst hname
            exact .enumeration e case
          · cases h
      | none | bool | int | float | str | list | dict | dateTime | object => cases h
  | union ms =>
      obtain ⟨m, hm, hrun⟩ := exists_of_firstSuccess h
      exact .union hm hrun
  | formatted format =>
      cases format with
      | dateTime =>
          cases x with
          | dateTime time => cases h; exact .dateTime time
          | none | bool | int | float | str | list | dict | enumCase | object => cases h
      | integerText => cases h

/-! ## Induction -/

section Induction

variable (hg : g.Accepted) (hx : g.OnlyIntegerTexts)
include hg hx

/-- A property of decodings holds if it holds of integers in texts and passes from the decodings of
parts and members to that of a value. -/
theorem decode_induction {motive : TypeRef → Value → Value → Prop}
    (digits : ∀ {t : TypeRef} {s : String} {i : Int}, g.kind? t = some (.formatted .integerText) →
      Integer.parse? s = some i → (∀ d w, g.convert d t w = convertDigits d w) →
      motive t (.str s) (.int i))
    (byKind : ∀ {t : TypeRef} {k : Kind} {v x : Value}, g.kind? t = some k → k.isDigits = false →
      g.decode t v = .ok x → DecodeStep g.decode k v x →
      (∀ r w y, w.depth < v.depth → g.decode r w = .ok y → motive r w y) →
      (∀ ms, k = .union ms → ∀ m ∈ ms, ∀ y, g.decode m v = .ok y → motive m v y) → motive t v x)
    (h : g.decode t v = .ok x) : motive t v x := by
  induction hreach : g.reach t v using Nat.strongRecOn generalizing t v x with
  | ind bound ih =>
      subst hreach
      obtain ⟨k, hk⟩ := kind?_of_convert h
      by_cases hdigits : k.isDigits
      · obtain rfl := eq_of_isDigits hdigits
        obtain ⟨⟨s, i, rfl, hparse, rfl⟩, hrule⟩ := decode_integerText hg hx hk h
        exact digits hk hparse hrule
      · have hne : k.isDigits = false := Bool.eq_false_iff.2 hdigits
        have hstep : DecodeStep g.decode k v x :=
          decodeStep_of_decodeByKind hk (decode_byKind hg hx hk hne v ▸ h)
        refine byKind hk hne h hstep (fun r w y hw hy => ih _ (g.reach_part r hw) hy rfl) ?_
        rintro ms rfl m hm y hy
        exact ih _ (hg.reach_member hk hm) hy rfl

/-- An integer in a text is encoded from an integer. -/
theorem encode_integerText (hk : g.kind? t = some (.formatted .integerText))
    (h : g.encode t x = .ok w) : ∃ i, x = .int i ∧ w = .str (toString i) := by
  rcases convert_integerText hg hx hk .encode x with heq | heq
  · rw [encode, heq] at h
    cases x with
    | int i =>
        cases h
        exact ⟨i, rfl, rfl⟩
    | none | bool | float | str | list | dict | dateTime | enumCase | object => cases h
  · rw [encode, heq] at h
    cases h

/-- Encoding a type that is no integer in a text takes a step by its kind. -/
theorem encodeStep_of_encode (hk : g.kind? t = some k) (hne : k.isDigits = false)
    (h : g.encode t x = .ok w) : EncodeStep g.isNullable g.encode k x w :=
  encodeStep_of_encodeByKind hk (encode_byKind hg hx hk hne x ▸ h)

/-- A property of encodings holds if it holds of integers in texts and passes from the encodings of
parts and members to that of a value. -/
theorem encode_induction {motive : TypeRef → Value → Value → Prop}
    (digits : ∀ (t : TypeRef) (i : Int), motive t (.int i) (.str (toString i)))
    (byKind : ∀ {t : TypeRef} {k : Kind} {x w : Value}, g.kind? t = some k →
      g.encode t x = .ok w → EncodeStep g.isNullable g.encode k x w →
      (∀ r y z, y.depth < x.depth → g.encode r y = .ok z → motive r y z) →
      (∀ ms, k = .union ms → ∀ m ∈ ms, ∀ z, g.encode m x = .ok z → motive m x z) → motive t x w)
    (h : g.encode t x = .ok w) : motive t x w := by
  induction hreach : g.reach t x using Nat.strongRecOn generalizing t x w with
  | ind bound ih =>
      subst hreach
      obtain ⟨k, hk⟩ := kind?_of_convert h
      by_cases hdigits : k.isDigits
      · obtain rfl := eq_of_isDigits hdigits
        obtain ⟨i, rfl, rfl⟩ := encode_integerText hg hx hk h
        exact digits t i
      · have hstep : EncodeStep g.isNullable g.encode k x w :=
          encodeStep_of_encode hg hx hk (Bool.eq_false_iff.2 hdigits) h
        refine byKind hk h hstep (fun r y z hy hz => ih _ (g.reach_part r hy) hz rfl) ?_
        rintro ms rfl m hm z hz
        exact ih _ (hg.reach_member hk hm) hz rfl

/-- A missing value is decoded to a missing value or not at all. -/
theorem eq_none_of_decode (h : g.decode t .none = .ok x) : x = .none := by
  refine decode_induction hg hx (motive := fun _ v x => v = .none → x = .none) ?_ ?_ h rfl
  · rintro _ _ _ - - - ⟨⟩
  · rintro _ _ _ _ - - - hstep - hmember rfl
    cases hstep with
    | any | null => rfl
    | union hm h => exact hmember _ rfl _ hm _ h rfl

/-- Encoding keeps hereditary properties of values. -/
theorem hereditary_of_encode {Q : Value → Prop} (hQ : Value.Hereditary Q)
    (h : g.encode t x = .ok w) : Q x → Q w := by
  refine encode_induction hg hx (motive := fun _ x w => Q x → Q w) ?_ ?_ h
  · intro t i _
    exact hQ.str _
  · intro t k x w _ _ hstep hpart hmember hQx
    cases hstep with
    | any | null | bool | integer | double | text => exact hQx
    | dateTime time => exact hQ.str _
    | enumeration e case => exact hQ.str case
    | array hitems =>
        refine hQ.list.2 fun z hz => ?_
        obtain ⟨y, hy, hyz⟩ := exists_of_forall₂ hitems hz
        exact hpart _ y z (Value.depth_lt_list hy) hyz (hQ.list.1 hQx y hy)
    | map hentries =>
        refine hQ.dict.2 fun entry hentry => ?_
        obtain ⟨given, hgiven, hrun⟩ := exists_of_forall₂ hentries hentry
        exact hpart _ given.2 entry.2 (Value.depth_lt_dict hgiven) hrun (hQ.dict.1 hQx given hgiven)
    | record hfields =>
        refine hQ.dict.2 (forall_encodeFields (List.forall_mem_nil _) (fun p _ y z hy hz => ?_) hfields)
        exact hpart _ y z (Value.depth_lt_of_find? hy) hz (hQ.of_find? (hQ.fields hQx) hy)
    | union hm hrun => exact hmember _ rfl _ hm _ hrun hQx

end Induction

end TypeGraph

end TypedJson
