import TypedJson.Proofs.Value.Projection

/-!
# Encoding integers in texts without a check

Generated code writes whatever it is given for an integer in a text as a text, where encoding asks
for an integer. `encodeUnchecked` is encoding without that check. It differs from encoding where a
union tries a member of integers in texts on the value of a member behind it, and nowhere else
(`encodeUnchecked_eq`): if no union does, what was decoded is encoded alike, and encoding does not
fail on it. The induction is on the bound, with one statement for decoded values and another one for
values that a union tries a member on.
-/

namespace TypedJson

open Ordered Outcome

/-! ## Outcomes -/

namespace Outcome

variable {α β : Type} {r s : Outcome α}

/-- The conversion does not fail on its value. -/
def Unfailing (r : Outcome α) : Prop :=
  ∀ e, r ≠ .error (.failed e)

/-- A value is no failure. -/
theorem unfailing_ok (a : α) : Unfailing (.ok a) := nofun

/-- Conversions one behind the other do not fail if none of them does. -/
theorem Unfailing.bind {f : α → Outcome β} (h : r.Unfailing) (hf : ∀ a, (f a).Unfailing) :
    (r >>= f).Unfailing := by
  cases r with
  | ok a => exact hf a
  | error stop =>
      rintro e ⟨⟩
      exact h e rfl

/-- A mapped conversion does not fail if the conversion does not. -/
theorem Unfailing.map (h : r.Unfailing) (f : α → β) : Unfailing (r.map f) := by
  cases r with
  | ok a => exact unfailing_ok _
  | error stop =>
      rintro e ⟨⟩
      exact h e rfl

/-- The conversion of items does not fail if that of none of them does. -/
theorem unfailing_mapM {f : α → Outcome β} {items : List α} (h : ∀ a ∈ items, (f a).Unfailing) :
    (items.mapM f).Unfailing := by
  induction items with
  | nil => exact unfailing_ok _
  | cons a items ih =>
      rw [List.forall_mem_cons] at h
      rw [List.mapM_cons]
      exact h.1.bind fun _ => (ih h.2).bind fun _ => unfailing_ok _

/-- Both conversions have the same outcome, or both fail. -/
def Alike (r s : Outcome α) : Prop :=
  r = s ∨ (∃ e, r = .error (.failed e)) ∧ ∃ e, s = .error (.failed e)

/-- Composition respects the likeness of outcomes. -/
theorem alike_congruence : Congruence @Alike where
  refl _ := .inl rfl
  bind := by
    rintro α β x y f g (rfl | ⟨⟨e, rfl⟩, e', rfl⟩) hf
    · cases x with
      | error stop => exact .inl rfl
      | ok a => exact hf a rfl
    · exact .inr ⟨⟨e, rfl⟩, e', rfl⟩
  recover := by
    rintro α x y z w (rfl | ⟨⟨e, rfl⟩, e', rfl⟩) hz
    · rw [recover.eq_def, recover.eq_def]
      split
      · exact hz
      · exact .inl rfl
    · exact hz

/-- A union whose members do alike up to one that does not fail does alike, and does not fail
either. -/
theorem firstSuccess_alike {f g : β → Outcome Value} {front back : List β} {b : β}
    (hfront : ∀ b ∈ front, (f b).Alike (g b)) (hb : f b = g b) (hunfailing : (g b).Unfailing)
    (tried : Nat) :
    firstSuccess f tried (front ++ b :: back) = firstSuccess g tried (front ++ b :: back) ∧
      (firstSuccess g tried (front ++ b :: back)).Unfailing := by
  -- A conversion that does not fail on the value is never recovered from.
  have hstop {r s : Outcome Value} (hr : r.Unfailing) : r.recover s = r := by
    rw [recover.eq_def]
    split
    · exact absurd rfl (hr _)
    · rfl
  induction front generalizing tried with
  | nil =>
      rw [List.nil_append, firstSuccess_cons, firstSuccess_cons, hb, hstop hunfailing,
        hstop hunfailing]
      exact ⟨rfl, hunfailing⟩
  | cons c front ih =>
      rw [List.forall_mem_cons] at hfront
      rw [List.cons_append, firstSuccess_cons, firstSuccess_cons]
      rcases hfront.1 with hc | ⟨⟨e, he⟩, e', he'⟩
      · rw [hc]
        by_cases hfails : (g c).Unfailing
        · rw [hstop hfails, hstop hfails]
          exact ⟨rfl, hfails⟩
        · obtain ⟨e, he⟩ : ∃ e, g c = .error (.failed e) := by
            simpa [Unfailing] using hfails
          rw [he]
          exact ih hfront.2 (tried + 1)
      · rw [he, he']
        exact ih hfront.2 (tried + 1)

end Outcome

/-! ## Values -/

/-- The value is made of JSON data. -/
inductive Value.Plain : Value → Prop
  | none : Plain .none
  | bool (b : Bool) : Plain (.bool b)
  | int (i : Int) : Plain (.int i)
  | float (x : Binary64) : Plain (.float x)
  | str (s : String) : Plain (.str s)
  | list {items : List Value} (h : ∀ v ∈ items, v.Plain) : Plain (.list items)
  | dict {entries : List (String × Value)} (h : ∀ entry ∈ entries, entry.2.Plain) :
      Plain (.dict entries)

mutual
/-- What JSON is read into is made of JSON data. -/
theorem Value.plain_ofJson : ∀ document : Json, (Value.ofJson document).Plain
  | .null => .none
  | .bool b => .bool b
  | .int i => by
      unfold Value.ofJson
      split
      · exact .int i
      · exact .float _
  | .float x => .float x
  | .text s => .str s
  | .list items => .list (plain_ofJsonItems items)
  | .object members =>
      .dict fun _ hentry => plain_ofJsonMembers members _ (mem_of_mem_ofEntries hentry)
  | .unreadable => .none

/-- So are the values of items. -/
theorem Value.plain_ofJsonItems : ∀ items : List Json, ∀ v ∈ Value.ofJsonItems items, v.Plain
  | [] => List.forall_mem_nil _
  | item :: rest => List.forall_mem_cons.2 ⟨plain_ofJson item, plain_ofJsonItems rest⟩

/-- So are the values of members. -/
theorem Value.plain_ofJsonMembers : ∀ members : List (String × Json),
    ∀ entry ∈ Value.ofJsonMembers members, entry.2.Plain
  | [] => List.forall_mem_nil _
  | (_, value) :: rest =>
      List.forall_mem_cons.2 ⟨plain_ofJson value, plain_ofJsonMembers rest⟩
end

/-- What is looked up in a dict of JSON data is JSON data. -/
theorem Value.plain_valueOf {entries : List (String × Value)}
    (h : ∀ entry ∈ entries, entry.2.Plain) (key : String) : (valueOf key entries).Plain := by
  rw [valueOf]
  cases hfind : find? key entries with
  | none => exact .none
  | some v => exact h _ (mem_of_find? hfind)

namespace TypeGraph

variable {g : TypeGraph} {t : TypeRef} {k : Kind} {v x : Value}

/-- The value is one that the type has decoded JSON data to. -/
def Decoded (g : TypeGraph) (t : TypeRef) (x : Value) : Prop :=
  ∃ n v, Value.Plain v ∧ g.convertWithin n .decode t v = .ok x

/-- The objects in the value, apart from those in other objects, are ones that records have decoded
JSON data to. -/
inductive Genuine (g : TypeGraph) : Value → Prop
  | plain {v : Value} (h : v.Plain) : Genuine g v
  | dateTime (time : Timestamp) : Genuine g (.dateTime time)
  | enumCase (enumeration case : String) : Genuine g (.enumCase enumeration case)
  | list {items : List Value} (h : ∀ v ∈ items, Genuine g v) : Genuine g (.list items)
  | dict {entries : List (String × Value)} (h : ∀ entry ∈ entries, Genuine g entry.2) :
      Genuine g (.dict entries)
  | object {t : TypeRef} {r : Record} {n : Nat} {entries fields : List (String × Value)}
      (hk : g.kind? t = some (.record r)) (hentries : ∀ entry ∈ entries, entry.2.Plain)
      (h : decodeFields (g.convertWithin n .decode) r.properties entries [] = .ok fields) :
      Genuine g (.object r.name fields)

/-- The items of a genuine list are genuine. -/
theorem Genuine.items {items : List Value} (h : g.Genuine (.list items)) :
    ∀ v ∈ items, g.Genuine v := by
  cases h with
  | plain h =>
      cases h with
      | list h => exact fun v hv => .plain (h v hv)
  | list h => exact h

/-- The values of a genuine dict are genuine. -/
theorem Genuine.entries {entries : List (String × Value)} (h : g.Genuine (.dict entries)) :
    ∀ entry ∈ entries, g.Genuine entry.2 := by
  cases h with
  | plain h =>
      cases h with
      | dict h => exact fun entry hentry => .plain (h entry hentry)
  | dict h => exact h

/-- A genuine object is one that a record has decoded. -/
theorem Genuine.exists_record {name : String} {fields : List (String × Value)}
    (h : g.Genuine x) (hx : x = .object name fields) :
    ∃ t r n entries, g.kind? t = some (.record r) ∧ r.name = name ∧
      (∀ entry ∈ entries, Value.Plain entry.2) ∧
      decodeFields (g.convertWithin n .decode) r.properties entries [] = .ok fields := by
  cases h with
  | plain h => subst hx; cases h
  | object hk hentries h => cases hx; exact ⟨_, _, _, _, hk, rfl, hentries, h⟩
  | dateTime | enumCase | list | dict => cases hx

/-- A bounded decoding of a type without a transformation is a step by its kind. -/
theorem exists_decodeStep {n : Nat} (ht : g.transformation? t = none)
    (h : g.convertWithin (n + 1) .decode t v = .ok x) :
    ∃ k, g.kind? t = some k ∧ DecodeStep (g.convertWithin n .decode) k v x := by
  rw [convertWithin_succ, convertStep_byKind ht] at h
  change g.decodeByKind (g.convertWithin n .decode) v t = .ok x at h
  cases hk : g.kind? t with
  | none =>
      rw [decodeByKind, kindOf, hk] at h
      cases h
  | some k => exact ⟨k, rfl, decodeStep_of_decodeByKind hk h⟩

/-- A type without a transformation has decoded its values by such a step. -/
theorem Decoded.step (h : g.Decoded t x) (ht : g.transformation? t = none) :
    ∃ k n v, g.kind? t = some k ∧ Value.Plain v ∧ DecodeStep (g.convertWithin n .decode) k v x := by
  obtain ⟨n, v, hv, h⟩ := h
  cases n with
  | zero => cases h
  | succ n =>
      obtain ⟨k, hk, h⟩ := exists_decodeStep ht h
      exact ⟨k, n, v, hk, hv, h⟩

/-- The transformation of integers in texts has decoded integers. -/
theorem Decoded.digits (h : g.Decoded t x) (hx : g.OnlyIntegerTexts) {transformation : Transformation}
    (ht : g.transformation? t = some transformation) : ∃ i, x = .int i := by
  obtain ⟨n, v, hv, h⟩ := h
  cases n with
  | zero => cases h
  | succ n =>
      rw [convertWithin_succ, convertStep_digits hx ht] at h
      cases v with
      | str s =>
          rw [convertDigits, parseInteger] at h
          split at h <;> cases h
          exact ⟨_, rfl⟩
      | none | bool | int | float | list | dict | dateTime | enumCase | object => cases h

/-- What was decoded from JSON data is genuine. -/
theorem Decoded.genuine (h : g.Decoded t x) (hx : g.OnlyIntegerTexts) : g.Genuine x := by
  obtain ⟨n, v, hv, h⟩ := h
  induction n generalizing t v x with
  | zero => cases h
  | succ n ih =>
      cases ht : g.transformation? t with
      -- Only integers in texts have transformations, and these decode to integers.
      | some transformation =>
          obtain ⟨i, rfl⟩ := Decoded.digits ⟨_, v, hv, h⟩ hx ht
          exact .plain (.int i)
      | none =>
          obtain ⟨k, hk, hstep⟩ := exists_decodeStep ht h
          cases hstep with
          | any => exact .plain hv
          | null => exact .plain .none
          | bool b => exact .plain (.bool b)
          | integer i => exact .plain (.int i)
          | double => exact .plain (.float _)
          | float x => exact .plain (.float x)
          | text s => exact .plain (.str s)
          | array hitems =>
              cases hv with
              | list hv =>
                  refine .list fun w hw => ?_
                  obtain ⟨value, hvalue, hrun⟩ := exists_of_forall₂ hitems hw
                  exact ih value (hv value hvalue) hrun
          | map hentries =>
              cases hv with
              | dict hv =>
                  refine .dict fun result hresult => ?_
                  obtain ⟨entry, hentry, hrun⟩ := exists_of_forall₂ hentries hresult
                  exact ih entry.2 (hv entry hentry) hrun
          | record hfields =>
              cases hv with
              | dict hv => exact .object hk hv hfields
          | enumeration e s => exact .enumCase e.name s
          | union hm hmember => exact ih v hv hmember
          | dateTime s time => exact .dateTime time

end TypeGraph

/-! ## Encoding -/

/-- If the value is an object, it has a field for each property of the record. -/
def Record.covers (r : Record) : Value → Bool
  | .object _ fields => r.properties.all fun p => (find? p.name fields).isSome
  | _ => true

namespace TypeGraph

/-- Encode a value of a type, with a given conversion of its parts and of union members. Whatever
stands for an integer in a text is written as a text, and an object has to have the fields that are
asked for. -/
def uncheckedStep (g : TypeGraph) (text : Value → String) (f : TypeRef → Value → Outcome Value)
    (t : TypeRef) (v : Value) : Outcome Value :=
  if (g.transformation? t).isSome then .ok (.str (text v))
  else
    match g.kind? t with
    | some (.record r) => if r.covers v then g.encodeByKind f v t else .shape r.name v
    | _ => g.encodeByKind f v t

/-- Encode a value of a type so, by way of at most `depth` types that lie within one another. -/
def encodeUnchecked (g : TypeGraph) (text : Value → String) : Nat → TypeRef → Value → Outcome Value
  | 0, t, _ => .error (.endless t)
  | depth + 1, t, v => g.uncheckedStep text (encodeUnchecked g text depth) t v

/-- The value, or a part of it that stands in lists and dicts only, is encoded as an integer in a
text when it is tried as the type. -/
inductive ReachesDigits (g : TypeGraph) : TypeRef → Value → Prop
  | digits {t : TypeRef} {v : Value} (hk : g.kind? t = some (.formatted .integerText)) :
      ReachesDigits g t v
  | items {t items : TypeRef} {values : List Value} {v : Value}
      (hk : g.kind? t = some (.array items)) (hv : v ∈ values) (h : ReachesDigits g items v) :
      ReachesDigits g t (.list values)
  | values {t values : TypeRef} {entries : List (String × Value)} {entry : String × Value}
      (hk : g.kind? t = some (.map values)) (hentry : entry ∈ entries)
      (h : ReachesDigits g values entry.2) : ReachesDigits g t (.dict entries)
  | member {t m : TypeRef} {ms : List TypeRef} {v : Value} (hk : g.kind? t = some (.union ms))
      (hm : m ∈ ms) (h : ReachesDigits g m v) : ReachesDigits g t v

/-- No union tries a member of integers in texts on what a member behind it has decoded. -/
def DigitsLast (g : TypeGraph) : Prop :=
  ∀ t ms, g.kind? t = some (.union ms) →
    ms.Pairwise fun m m' => ∀ x, g.Decoded m' x → ¬ g.ReachesDigits m x

/-- The labels of records are distinct. -/
def DistinctLabels (g : TypeGraph) : Prop :=
  ∀ t t' r r', g.kind? t = some (.record r) → g.kind? t' = some (.record r') → r.name = r'.name →
    t = t'

variable {g : TypeGraph} {t : TypeRef} {k : Kind} {v x : Value} {text : Value → String}
  {f f' : TypeRef → Value → Outcome Value}

/-- Kinds that refer to no other types encode without them. -/
theorem encodeByKind_flat (hk : g.kind? t = some k) (hrefs : kindRefs k = []) :
    g.encodeByKind f x t = g.encodeByKind f' x t := by
  refine encodeByKind_rel eq_congruence hk (fun r hr => ?_) ?_
  · rw [hrefs] at hr
    cases hr
  · rintro ms rfl m hm
    have hnone : ms = [] := hrefs
    rw [hnone] at hm
    cases hm

/-- Types other than records are encoded by kind without a check as with it, apart from parts and
members. -/
theorem uncheckedStep_byKind (ht : g.transformation? t = none) (hk : g.kind? t = some k)
    (hrecord : k.isRecord = false) : g.uncheckedStep text f t v = g.encodeByKind f v t := by
  rw [uncheckedStep, ht, hk]
  cases k with
  | record r => cases hrecord
  | any | null | bool | integer | double | text | array | map | enumeration | union | formatted =>
      rfl

/-- Records encode objects that have all fields without a check as with it, apart from the
fields. -/
theorem uncheckedStep_record (ht : g.transformation? t = none) {r : Record}
    (hk : g.kind? t = some (.record r)) :
    g.uncheckedStep text f t v = if r.covers v then g.encodeByKind f v t else .shape r.name v := by
  rw [uncheckedStep, ht, hk]
  rfl

/-- A record encodes its objects field by field. -/
theorem encodeByKind_object {r : Record} (hk : g.kind? t = some (.record r))
    (fields : List (String × Value)) : g.encodeByKind f (.object r.name fields) t =
      (encodeFields g.isNullable f r.properties fields []).map .dict := by
  rw [encodeByKind, kindOf_eq hk]
  exact if_pos rfl

/-- A record encodes its objects only. -/
theorem encodeByKind_other {r : Record} (hk : g.kind? t = some (.record r))
    (hx : ∀ fields, x ≠ .object r.name fields) : g.encodeByKind f x t = .shape r.name x := by
  rw [encodeByKind, kindOf_eq hk]
  cases x with
  | object name fields =>
      refine if_neg ?_
      rintro rfl
      exact hx fields rfl
  | none | bool | int | float | str | list | dict | dateTime | enumCase => rfl

/-- So it does without a check. -/
theorem uncheckedStep_other (ht : g.transformation? t = none) {r : Record}
    (hk : g.kind? t = some (.record r)) (hx : ∀ fields, x ≠ .object r.name fields) :
    g.uncheckedStep text f t x = .shape r.name x := by
  rw [uncheckedStep_record ht hk, encodeByKind_other hk hx]
  exact ite_self _

/-- A decoded object has a field for each property, which is what was decoded for it. -/
theorem decoded_fields (hp : g.DistinctProperties) {r : Record} {n : Nat}
    {entries fields : List (String × Value)} (hk : g.kind? t = some (.record r))
    (hentries : ∀ entry ∈ entries, entry.2.Plain)
    (h : decodeFields (g.convertWithin n .decode) r.properties entries [] = .ok fields) :
    r.covers (.object r.name fields) ∧
      ∀ p ∈ r.properties, g.Decoded p.type (valueOf p.name fields) := by
  obtain ⟨hfields, -⟩ := decodeFields_ok (hp t r hk) h
  refine ⟨List.all_eq_true.2 fun p hp => ?_, fun p hp => ?_⟩
  · obtain ⟨a, -, ha⟩ := hfields p hp
    rw [ha]
    rfl
  · obtain ⟨a, hdecode, ha⟩ := hfields p hp
    rw [valueOf, ha]
    exact ⟨n, _, Value.plain_valueOf hentries p.name, hdecode⟩

/-- Encoding fields does not fail if the encoding of none of them does. -/
theorem unfailing_encodeFields {nullable : TypeRef → Bool} {props : List Property}
    {fields acc : List (String × Value)} (hnames : (props.map Property.name).Nodup)
    (h : ∀ p ∈ props, (f p.type (valueOf p.name fields)).Unfailing) :
    (encodeFields nullable f props fields acc).Unfailing := by
  induction props generalizing fields acc with
  | nil => exact unfailing_ok _
  | cons p rest ih =>
      obtain ⟨hfresh, hnames⟩ := List.nodup_cons.1 hnames
      obtain ⟨hp, hrest⟩ := List.forall_mem_cons.1 h
      rw [encodeFields_cons]
      refine Unfailing.bind ?_ fun value => ih hnames fun q hq => ?_
      · rw [encodeField]
        split
        · exact unfailing_ok _
        · exact hp.map some
      · rw [valueOf_erase hfresh hq]
        exact hrest q hq

section Steps

variable (hp : g.DistinctProperties)
  (hdecoded : ∀ t x, g.Decoded t x → f t x = f' t x ∧ (f' t x).Unfailing)

include hp hdecoded

/-- A decoded object is encoded alike, and encoding does not fail on it, if this holds of decoded
values of its properties. -/
theorem uncheckedStep_object (ht : g.transformation? t = none) {r : Record} {n : Nat}
    {entries fields : List (String × Value)} (hk : g.kind? t = some (.record r))
    (hentries : ∀ entry ∈ entries, entry.2.Plain)
    (h : decodeFields (g.convertWithin n .decode) r.properties entries [] = .ok fields) :
    g.uncheckedStep text f t (.object r.name fields) =
        g.encodeByKind f' (.object r.name fields) t ∧
      (g.encodeByKind f' (.object r.name fields) t).Unfailing := by
  obtain ⟨hcovers, hfields⟩ := decoded_fields hp hk hentries h
  rw [uncheckedStep_record ht hk, if_pos hcovers, encodeByKind_object hk, encodeByKind_object hk]
  refine ⟨congrArg (Except.map Value.dict) (encodeFields_rel eq_congruence (hp t r hk)
    fun p hp => ?_), (unfailing_encodeFields (hp t r hk) fun p hp => ?_).map _⟩
  · rw [encodeField, encodeField, (hdecoded _ _ (hfields p hp)).1]
  · exact (hdecoded _ _ (hfields p hp)).2

/-- A genuine value is encoded alike as a record. -/
theorem uncheckedStep_genuine_record (hl : g.DistinctLabels) (ht : g.transformation? t = none)
    {r : Record} (hk : g.kind? t = some (.record r)) (hx : g.Genuine x) :
    g.uncheckedStep text f t x = g.encodeByKind f' x t := by
  by_cases hname : ∃ fields, x = .object r.name fields
  · obtain ⟨fields, rfl⟩ := hname
    obtain ⟨t', r', n, entries, hk', hname, hentries, h⟩ := hx.exists_record rfl
    obtain rfl := hl t' t r' r hk' hk hname
    obtain rfl : r' = r := by
      rw [hk] at hk'
      cases hk'
      rfl
    exact (uncheckedStep_object hp hdecoded ht hk hentries h).1
  · have hne : ∀ fields, x ≠ .object r.name fields := fun fields h => hname ⟨fields, h⟩
    rw [uncheckedStep_other ht hk hne, encodeByKind_other hk hne]

variable (hgenuine : ∀ t x, g.Genuine x → ¬ g.ReachesDigits t x → (f t x).Alike (f' t x))

include hgenuine

/-- A genuine value is encoded alike as a type that does not reach integers in texts with it, if
this holds of its parts, and of the value itself as a member. -/
theorem uncheckedStep_genuine (hl : g.DistinctLabels) (ht : g.transformation? t = none)
    (hx : g.Genuine x) (h : ¬ g.ReachesDigits t x) :
    (g.uncheckedStep text f t x).Alike (g.encodeByKind f' x t) := by
  cases hk : g.kind? t with
  | none =>
      rw [uncheckedStep, ht, hk]
      show (g.encodeByKind f x t).Alike _
      rw [encodeByKind, encodeByKind, kindOf, hk]
      exact .inl rfl
  | some k =>
      cases k with
      | record r => exact .inl (uncheckedStep_genuine_record hp hdecoded hl ht hk hx)
      | array items =>
          rw [uncheckedStep_byKind ht hk rfl, encodeByKind, encodeByKind, kindOf_eq hk]
          refine alike_congruence.convertItems ?_
          rintro values rfl w hw
          exact hgenuine _ _ (hx.items w hw) fun hitem => h (.items hk hw hitem)
      | map values =>
          rw [uncheckedStep_byKind ht hk rfl, encodeByKind, encodeByKind, kindOf_eq hk]
          refine alike_congruence.convertEntries ?_
          rintro entries rfl entry hentry
          exact hgenuine _ _ (hx.entries entry hentry) fun hvalue => h (.values hk hentry hvalue)
      -- Members are tried on the value itself, so that none of them may reach integers in texts.
      | union ms =>
          rw [uncheckedStep_byKind ht hk rfl, encodeByKind, encodeByKind, kindOf_eq hk]
          exact alike_congruence.firstSuccess
            (fun m hm => hgenuine m x hx fun hmember => h (.member hk hm hmember)) 0
      | formatted format =>
          cases format with
          | dateTime =>
              rw [uncheckedStep_byKind ht hk rfl]
              exact .inl (encodeByKind_flat hk rfl)
          | integerText => exact absurd (.digits hk) h
      | any | null | bool | integer | double | text | enumeration =>
          rw [uncheckedStep_byKind ht hk rfl]
          exact .inl (encodeByKind_flat hk rfl)

/-- A decoded value is encoded alike, and encoding does not fail on it, if this holds of its parts,
and of the value itself as the member that has decoded it. -/
theorem uncheckedStep_decoded (hx : g.OnlyIntegerTexts) (hd : g.DigitsLast)
    (ht : g.transformation? t = none) (h : g.Decoded t x) :
    g.uncheckedStep text f t x = g.encodeByKind f' x t ∧ (g.encodeByKind f' x t).Unfailing := by
  obtain ⟨k, n, v, hk, hv, hstep⟩ := h.step ht
  -- Kinds without parts are encoded without further conversions, so that both ways are the same.
  have hflat (hrefs : kindRefs k = []) (hok : ∃ w, g.encodeByKind f' x t = .ok w) :
      g.encodeByKind f x t = g.encodeByKind f' x t ∧ (g.encodeByKind f' x t).Unfailing := by
    obtain ⟨w, hw⟩ := hok
    refine ⟨encodeByKind_flat hk hrefs, ?_⟩
    rw [hw]
    exact unfailing_ok w
  by_cases hrecord : k.isRecord
  · cases hstep with
    | record hfields =>
        cases hv with
        | dict hv => exact uncheckedStep_object hp hdecoded ht hk hv hfields
    | any | null | bool | integer | double | float | text | array | map | enumeration | union
    | dateTime => cases hrecord
  · rw [uncheckedStep_byKind ht hk (Bool.eq_false_iff.2 hrecord)]
    cases hstep with
    | record => exact absurd rfl hrecord
    | any | null | bool | integer | float | double | text | dateTime =>
        exact hflat rfl ⟨_, by rw [encodeByKind, kindOf_eq hk]; rfl⟩
    | enumeration e s =>
        refine hflat rfl ⟨.str s, ?_⟩
        rw [encodeByKind, kindOf_eq hk]
        exact if_pos rfl
    | @array s items results hitems =>
        have hencode (f : TypeRef → Value → Outcome Value) :
            g.encodeByKind f (.list results) t = convertItems (f s) (.list results) := by
          rw [encodeByKind, kindOf_eq hk]
          rfl
        have hparts (w : Value) (hw : w ∈ results) : f s w = f' s w ∧ (f' s w).Unfailing := by
          obtain ⟨value, hvalue, hrun⟩ := exists_of_forall₂ hitems hw
          cases hv with
          | list hv => exact hdecoded s w ⟨n, value, hv value hvalue, hrun⟩
        rw [hencode, hencode]
        refine ⟨eq_congruence.convertItems ?_, (unfailing_mapM fun w hw => (hparts w hw).2).map _⟩
        rintro _ ⟨⟩ w hw
        exact (hparts w hw).1
    | @map s entries results hentries =>
        have hencode (f : TypeRef → Value → Outcome Value) :
            g.encodeByKind f (.dict results) t = convertEntries (f s) (.dict results) := by
          rw [encodeByKind, kindOf_eq hk]
          rfl
        have hparts (result : String × Value) (hresult : result ∈ results) :
            f s result.2 = f' s result.2 ∧ (f' s result.2).Unfailing := by
          obtain ⟨entry, hentry, hrun⟩ := exists_of_forall₂ hentries hresult
          cases hv with
          | dict hv => exact hdecoded s result.2 ⟨n, entry.2, hv entry hentry, hrun⟩
        rw [hencode, hencode]
        refine ⟨eq_congruence.convertEntries ?_,
          (unfailing_mapM fun result hresult => (hparts result hresult).2.map _).map _⟩
        rintro _ ⟨⟩ result hresult
        exact (hparts result hresult).1
    | @union ms m _ _ hm hmember =>
        have hencode (f : TypeRef → Value → Outcome Value) :
            g.encodeByKind f x t = firstSuccess (fun m => f m x) 0 ms := by
          rw [encodeByKind, kindOf_eq hk]
          rfl
        have hx' : g.Decoded m x := ⟨n, v, hv, hmember⟩
        obtain ⟨front, back, rfl⟩ := List.append_of_mem hm
        obtain ⟨-, -, hfront⟩ := List.pairwise_append.1 (hd t _ hk)
        obtain ⟨heq, hunfailing⟩ := hdecoded m x hx'
        rw [hencode, hencode]
        refine firstSuccess_alike (f := fun m => f m x) (g := fun m => f' m x) (fun b hb => ?_) heq
          hunfailing 0
        exact hgenuine b x (h.genuine hx) (hfront b hb m List.mem_cons_self x hx')

end Steps

/-- Without the check, a decoded value is encoded as with it, and encoding does not fail on it, if
no union tries integers in texts on the values of members behind them. -/
theorem encodeUnchecked_eq (hp : g.DistinctProperties) (hl : g.DistinctLabels)
    (hx : g.OnlyIntegerTexts) (hd : g.DigitsLast) (htext : ∀ i, text (.int i) = toString i) (n : Nat)
    (h : g.Decoded t x) :
    g.encodeUnchecked text n t x = g.convertWithin n .encode t x ∧
      (g.convertWithin n .encode t x).Unfailing := by
  -- Decoded values need the first statement for the members of unions that did not decode them.
  suffices hboth : (∀ t x, g.Genuine x → ¬ g.ReachesDigits t x →
      (g.encodeUnchecked text n t x).Alike (g.convertWithin n .encode t x)) ∧
      ∀ t x, g.Decoded t x → g.encodeUnchecked text n t x = g.convertWithin n .encode t x ∧
        (g.convertWithin n .encode t x).Unfailing from hboth.2 t x h
  clear h
  induction n with
  | zero =>
      refine ⟨fun t x _ _ => .inl rfl, fun t x _ => ⟨rfl, ?_⟩⟩
      rintro e ⟨⟩
  | succ n ih =>
      obtain ⟨hgenuine, hdecoded⟩ := ih
      refine ⟨fun t x hgen hreach => ?_, fun t x h => ?_⟩
      · rw [encodeUnchecked, convertWithin_succ]
        cases ht : g.transformation? t with
        | some transformation => exact absurd (.digits (hx t transformation ht).1) hreach
        | none =>
            rw [convertStep_byKind ht]
            exact uncheckedStep_genuine hp hdecoded hgenuine hl ht hgen hreach
      · rw [encodeUnchecked, convertWithin_succ]
        cases ht : g.transformation? t with
        | some transformation =>
            obtain ⟨i, rfl⟩ := h.digits hx ht
            rw [convertStep_digits hx ht, uncheckedStep, ht, htext]
            exact ⟨rfl, unfailing_ok _⟩
        | none =>
            rw [convertStep_byKind ht]
            exact uncheckedStep_decoded hp hdecoded hgenuine hx hd ht h

end TypeGraph

end TypedJson
