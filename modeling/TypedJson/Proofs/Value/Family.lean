import TypedJson.Proofs.Value.Recursion

/-!
# Families of kinds

The JSON shapes tell kinds apart up to a few families. `decode_family` and `encode_family` say which
values the members of a family take and give, and `Discriminable` unions are those whose members are
told apart that way. `firstSuccess_ranked` finds the result of a union from one member that succeeds
and the rivals in front of it.
-/

namespace TypedJson

/-- What JSON shapes tell of a kind. -/
inductive Family where
  | null
  | bool
  | integer
  | double
  | textual
  | tabular
  | array
  | any
  | union
  deriving DecidableEq, Repr

/-- The family of a kind. -/
def Kind.family : Kind → Family
  | .null => .null
  | .bool => .bool
  | .integer => .integer
  | .double => .double
  | .text => .textual
  | .enumeration _ => .textual
  | .formatted _ => .textual
  | .record _ => .tabular
  | .map _ => .tabular
  | .array _ => .array
  | .any => .any
  | .union _ => .union

/-- The family of the kinds that a value can belong to, texts apart that became integers. -/
def Value.family : Value → Family
  | .none => .null
  | .bool _ => .bool
  | .int _ => .integer
  | .float _ => .double
  | .str _ => .textual
  | .dateTime _ => .textual
  | .enumCase _ _ => .textual
  | .dict _ => .tabular
  | .object _ _ => .tabular
  | .list _ => .array

/-- The kind is that of integers in texts. -/
def Kind.isDigits : Kind → Bool
  | .formatted .integerText => true
  | _ => false

/-- Only one kind is that of integers in texts. -/
theorem eq_of_isDigits {k : Kind} (h : k.isDigits) : k = .formatted .integerText := by
  cases k with
  | formatted format =>
      cases format with
      | integerText => rfl
      | dateTime => cases h
  | any | null | bool | integer | double | text | array | map | record | enumeration | union =>
      cases h

/-- Only one kind is of the family of integers. -/
theorem family_integer {k : Kind} (h : k.family = .integer) : k = .integer := by
  cases k <;> first | rfl | cases h

namespace TypeGraph

open Outcome

variable {g : TypeGraph} {t : TypeRef} {k : Kind} {v w x : Value}

/-! ## Conversion by the rules of a kind -/

section Rules

variable (hg : g.Accepted) (hx : g.OnlyIntegerTexts)
include hx

/-- Only integers in texts have a transformation. -/
theorem OnlyIntegerTexts.transformation?_none (hk : g.kind? t = some k)
    (hne : k.isDigits = false) : g.transformation? t = none := by
  cases h : g.transformation? t with
  | none => rfl
  | some x =>
      have hkind := (hx t x h).1
      rw [hk] at hkind
      cases hkind
      cases hne

include hg

/-- A type that is no integer in a text is decoded by the rules of its kind. -/
theorem decode_byKind (hk : g.kind? t = some k) (hne : k.isDigits = false) (v : Value) :
    g.decode t v = g.decodeByKind g.decode v t := by
  rw [decode, convert_eq hg hx (index_lt_of_kind? hk),
    convertStep_byKind (hx.transformation?_none hk hne)]
  rfl

/-- A type that is no integer in a text is encoded by the rules of its kind. -/
theorem encode_byKind (hk : g.kind? t = some k) (hne : k.isDigits = false) (v : Value) :
    g.encode t v = g.encodeByKind g.encode v t := by
  rw [encode, convert_eq hg hx (index_lt_of_kind? hk),
    convertStep_byKind (hx.transformation?_none hk hne)]
  rfl

/-- An integer in a text is converted by its digits, or not at all without its transformation. -/
theorem convert_integerText (hk : g.kind? t = some (.formatted .integerText)) (d : Direction)
    (v : Value) : g.convert d t v = convertDigits d v ∨
      g.convert d t v = .unsupported (.noTransformation t) := by
  rw [convert_eq hg hx (index_lt_of_kind? hk)]
  cases h : g.transformation? t with
  | some x => exact .inl (convertStep_digits hx h _ d v)
  | none =>
      right
      rw [convertStep_byKind h]
      cases d with
      | decode =>
          show g.decodeByKind _ v t = _
          rw [decodeByKind, kindOf_eq hk]
          rfl
      | encode =>
          show g.encodeByKind _ v t = _
          rw [encodeByKind, kindOf_eq hk]
          rfl

/-- An integer in a text is decoded from its digits, by its transformation. -/
theorem decode_integerText (hk : g.kind? t = some (.formatted .integerText))
    (h : g.decode t v = .ok x) :
    (∃ s i, v = .str s ∧ Integer.parse? s = some i ∧ x = .int i) ∧
      ∀ d w, g.convert d t w = convertDigits d w := by
  have hlt := index_lt_of_kind? hk
  cases htransformation : g.transformation? t with
  | none =>
      rw [decode, convert_eq hg hx hlt, convertStep_byKind htransformation] at h
      change g.decodeByKind _ v t = _ at h
      rw [decodeByKind, kindOf_eq hk] at h
      cases h
  | some transformation =>
      have hrule (d : Direction) (w : Value) : g.convert d t w = convertDigits d w := by
        rw [convert_eq hg hx hlt, convertStep_digits hx htransformation]
      refine ⟨?_, hrule⟩
      rw [decode, hrule] at h
      cases v with
      | str s =>
          rw [convertDigits, parseInteger] at h
          split at h
          · rename_i i hparse
            cases h
            exact ⟨s, i, rfl, hparse, rfl⟩
          · cases h
      | none | bool | int | float | list | dict | dateTime | enumCase | object => cases h

/-- Types of the same kind are converted alike. -/
theorem convert_congr {t' : TypeRef} (hk : g.kind? t = some k) (hk' : g.kind? t' = some k)
    (hne : k.isDigits = false) (d : Direction) (v : Value) :
    g.convert d t v = g.convert d t' v := by
  have hlookup : g.kindOf t = g.kindOf t' := by rw [kindOf_eq hk, kindOf_eq hk']
  cases d with
  | decode =>
      show g.decode t v = g.decode t' v
      rw [decode_byKind hg hx hk hne, decode_byKind hg hx hk' hne, decodeByKind, decodeByKind,
        hlookup, kindOf_eq hk']
      cases k with
      | formatted format =>
          cases format with
          | dateTime => cases v <;> rfl
          | integerText => cases hne
      | any | array | map | enumeration | union => rfl
      | null | bool | integer | double | text | record => cases v <;> rfl
  | encode =>
      show g.encode t v = g.encode t' v
      rw [encode_byKind hg hx hk hne, encode_byKind hg hx hk' hne, encodeByKind, encodeByKind,
        hlookup, kindOf_eq hk']
      cases k with
      | formatted format =>
          cases format with
          | dateTime => rfl
          | integerText => cases hne
      | any | array | map | enumeration | union => rfl
      | null | bool | integer | double | text | record => cases v <;> rfl

end Rules

/-! ## What decoding by kind does -/

/-- The result of a union is that of one of its members. -/
theorem exists_of_firstSuccess {β : Type} {run : β → Outcome Value} {branches : List β} {tried : Nat}
    (h : firstSuccess run tried branches = .ok x) : ∃ b ∈ branches, run b = .ok x := by
  induction branches generalizing tried with
  | nil => cases h
  | cons b rest ih =>
      rw [firstSuccess] at h
      split at h
      · obtain ⟨c, hc, hrun⟩ := ih h
        exact ⟨c, List.mem_cons_of_mem _ hc, hrun⟩
      · exact ⟨b, List.mem_cons_self, h⟩

/-- A value of a kind, what it is decoded to, and the conversions of parts and members that this
takes. -/
inductive DecodeStep (f : TypeRef → Value → Outcome Value) : Kind → Value → Value → Prop
  | any (v : Value) : DecodeStep f .any v v
  | null : DecodeStep f .null .none .none
  | bool (b : Bool) : DecodeStep f .bool (.bool b) (.bool b)
  | integer (i : Int) : DecodeStep f .integer (.int i) (.int i)
  | double (i : Int) : DecodeStep f .double (.int i) (.float (Binary64.ofInt i))
  | float (x : Binary64) : DecodeStep f .double (.float x) (.float x)
  | text (s : String) : DecodeStep f .text (.str s) (.str s)
  | array {t : TypeRef} {items results : List Value}
      (h : List.Forall₂ (fun v w => f t v = .ok w) items results) :
      DecodeStep f (.array t) (.list items) (.list results)
  | map {t : TypeRef} {entries results : List (String × Value)}
      (h : List.Forall₂ (fun entry result => f t entry.2 = .ok result.2) entries results) :
      DecodeStep f (.map t) (.dict entries) (.dict results)
  | record {r : Record} {entries fields : List (String × Value)}
      (h : decodeFields f r.properties entries [] = .ok fields) :
      DecodeStep f (.record r) (.dict entries) (.object r.name fields)
  | enumeration (e : Enumeration) (s : String) :
      DecodeStep f (.enumeration e) (.str s) (.enumCase e.name s)
  | union {ms : List TypeRef} {m : TypeRef} {v x : Value} (hm : m ∈ ms) (h : f m v = .ok x) :
      DecodeStep f (.union ms) v x
  | dateTime (s : String) (time : Timestamp) :
      DecodeStep f (.formatted .dateTime) (.str s) (.dateTime time)

/-- Decoding by kind takes such a step. -/
theorem decodeStep_of_decodeByKind {f : TypeRef → Value → Outcome Value} (hk : g.kind? t = some k)
    (h : g.decodeByKind f v t = .ok x) : DecodeStep f k v x := by
  rw [decodeByKind, kindOf_eq hk] at h
  cases k with
  | any => cases h; exact .any v
  | null => cases v <;> cases h; exact .null
  | bool => cases v <;> cases h; exact .bool _
  | integer => cases v <;> cases h; exact .integer _
  | double =>
      cases v <;> cases h
      · exact .double _
      · exact .float _
  | text => cases v <;> cases h; exact .text _
  | array items =>
      cases v with
      | list values =>
          obtain ⟨results, hresults, rfl⟩ := map_eq_ok.1 h
          exact .array (mapM_eq_ok.1 hresults)
      | none | bool | int | float | str | dict | dateTime | enumCase | object => cases h
  | map values =>
      cases v with
      | dict entries =>
          obtain ⟨results, hresults, rfl⟩ := map_eq_ok.1 h
          refine .map ((mapM_eq_ok.1 hresults).imp fun entry result hresult => ?_)
          obtain ⟨w, hw, rfl⟩ := map_eq_ok.1 hresult
          exact hw
      | none | bool | int | float | str | list | dateTime | enumCase | object => cases h
  | record r =>
      cases v with
      | dict entries =>
          obtain ⟨fields, hfields, rfl⟩ := map_eq_ok.1 h
          exact .record hfields
      | none | bool | int | float | str | list | dateTime | enumCase | object => cases h
  | enumeration e =>
      cases v with
      | str s =>
          change e.decode (.str s) = .ok x at h
          rw [Enumeration.decode] at h
          split at h <;> cases h
          exact .enumeration e s
      | none | bool | int | float | list | dict | dateTime | enumCase | object => cases h
  | union ms =>
      obtain ⟨m, hm, hrun⟩ := exists_of_firstSuccess h
      exact .union hm hrun
  | formatted format =>
      cases format with
      | dateTime =>
          cases v with
          | str s =>
              change parseTimestamp s = .ok x at h
              rw [parseTimestamp] at h
              split at h <;> cases h
              exact .dateTime s _
          | none | bool | int | float | list | dict | dateTime | enumCase | object => cases h
      | integerText => cases h

/-! ## What families take and give -/

section Families

variable (hg : g.Accepted) (hx : g.OnlyIntegerTexts)
include hg hx

/-- A kind decodes values of its family, and a double integers as well. The result is of its family,
apart from integers that were texts. -/
theorem decode_family (hk : g.kind? t = some k) (hany : k ≠ .any) (hunion : k.isUnion = false)
    (h : g.decode t v = .ok x) :
    (v.family = k.family ∨ k = .double ∧ v.family = .integer) ∧
      (x.family = k.family ∨ k = .formatted .integerText ∧ x.family = .integer) := by
  by_cases hdigits : k.isDigits
  · obtain rfl := eq_of_isDigits hdigits
    obtain ⟨⟨s, i, rfl, -, rfl⟩, -⟩ := decode_integerText hg hx hk h
    exact ⟨.inl rfl, .inr ⟨rfl, rfl⟩⟩
  · rw [decode_byKind hg hx hk (Bool.eq_false_iff.2 hdigits)] at h
    cases decodeStep_of_decodeByKind hk h with
    | any => exact absurd rfl hany
    | union => cases hunion
    | double => exact ⟨.inr ⟨rfl, rfl⟩, .inl rfl⟩
    | null | bool | integer | float | text | array | map | record | enumeration | dateTime =>
        exact ⟨.inl rfl, .inl rfl⟩

/-- A kind encodes values of its family, and integers in texts integers instead. The result is of
its family. -/
theorem encode_family (hk : g.kind? t = some k) (hany : k ≠ .any) (hunion : k.isUnion = false)
    (h : g.encode t x = .ok w) :
    (x.family = k.family ∨ k = .formatted .integerText ∧ x.family = .integer) ∧
      w.family = k.family := by
  by_cases hdigits : k.isDigits
  · obtain rfl := eq_of_isDigits hdigits
    obtain heq | heq := convert_integerText hg hx hk .encode x
    · rw [encode, heq] at h
      cases x with
      | int i =>
          cases h
          exact ⟨.inr ⟨rfl, rfl⟩, rfl⟩
      | none | bool | float | str | list | dict | dateTime | enumCase | object => cases h
    · rw [encode, heq] at h
      cases h
  · rw [encode_byKind hg hx hk (Bool.eq_false_iff.2 hdigits), encodeByKind, kindOf_eq hk] at h
    cases k with
    | any => exact absurd rfl hany
    | union => cases hunion
    | null | bool | integer | double | text =>
        cases x <;> first | (cases h; exact ⟨.inl rfl, rfl⟩) | cases h
    | array items =>
        cases x with
        | list xs =>
            obtain ⟨ws, -, rfl⟩ := map_eq_ok.1 h
            exact ⟨.inl rfl, rfl⟩
        | none | bool | int | float | str | dict | dateTime | enumCase | object => cases h
    | map values =>
        cases x with
        | dict entries =>
            obtain ⟨ws, -, rfl⟩ := map_eq_ok.1 h
            exact ⟨.inl rfl, rfl⟩
        | none | bool | int | float | str | list | dateTime | enumCase | object => cases h
    | record r =>
        cases x with
        | object name fields =>
            change (if name = r.name then _ else _) = _ at h
            split at h
            · obtain ⟨ws, -, rfl⟩ := map_eq_ok.1 h
              exact ⟨.inl rfl, rfl⟩
            · cases h
        | none | bool | int | float | str | list | dict | dateTime | enumCase => cases h
    | enumeration e =>
        cases x with
        | enumCase name case =>
            change e.encode (.enumCase name case) = .ok w at h
            rw [Enumeration.encode] at h
            split at h
            · cases h
              exact ⟨.inl rfl, rfl⟩
            · cases h
        | none | bool | int | float | str | list | dict | dateTime | object => cases h
    | formatted format =>
        cases format with
        | integerText => exact absurd rfl hdigits
        | dateTime =>
            cases x with
            | dateTime t =>
                cases h
                exact ⟨.inl rfl, rfl⟩
            | none | bool | int | float | str | list | dict | enumCase | object => cases h

end Families

/-! ## Unions -/

/-- A member gives the result of a union if every other member that succeeds gives the same or
ranks behind it. -/
theorem firstSuccess_ranked {run : TypeRef → Outcome Value} {ms : List TypeRef} {m : TypeRef}
    (hsettled : ∀ m' ∈ ms, (run m').Settled) (hranked : ms.Pairwise fun a b => g.rank a ≤ g.rank b)
    (hm : m ∈ ms) (hrun : run m = .ok x)
    (hrival : ∀ m' ∈ ms, ∀ y, run m' = .ok y → y = x ∨ g.rank m < g.rank m') (tried : Nat) :
    firstSuccess run tried ms = .ok x := by
  induction ms generalizing tried with
  | nil => exact absurd hm List.not_mem_nil
  | cons first rest ih =>
      obtain ⟨hfirst, hsettled⟩ := List.forall_mem_cons.1 hsettled
      obtain ⟨hbehind, hranked⟩ := List.pairwise_cons.1 hranked
      obtain ⟨hrivalFirst, hrival⟩ := List.forall_mem_cons.1 hrival
      rw [firstSuccess_cons]
      obtain ⟨y, hy⟩ | ⟨e, he⟩ := hfirst.cases
      · rw [hy]
        obtain rfl | hless := hrivalFirst y hy
        · rfl
        · -- a member behind it would rank below the first one
          obtain rfl | hm := List.mem_cons.1 hm
          · exact absurd hless (Nat.lt_irrefl _)
          · exact absurd (hbehind m hm) (Nat.not_le.2 hless)
      · rw [he]
        obtain rfl | hm := List.mem_cons.1 hm
        · rw [he] at hrun
          cases hrun
        · exact ih hsettled hranked hm hrival (tried + 1)

/-- The kind of a type is of a family. -/
def ofFamily (g : TypeGraph) (f : Family) (t : TypeRef) : Bool :=
  g.kindHolds (fun k => k.family = f) t

/-- The members of a union are told apart by JSON shapes: at most one of them is textual, at most
one is tabular, at most one is an array, and the type of all values is beside null only. -/
structure Discriminable (g : TypeGraph) (ms : List TypeRef) : Prop where
  textual : (ms.filter (g.ofFamily .textual)).length ≤ 1
  tabular : (ms.filter (g.ofFamily .tabular)).length ≤ 1
  array : (ms.filter (g.ofFamily .array)).length ≤ 1
  any : ∀ m ∈ ms, g.kind? m = some .any →
    ∀ m' ∈ ms, g.kind? m' = some .any ∨ g.kind? m' = some .null

/-- At most one member of a family is one member. -/
theorem eq_of_filter_length {p : TypeRef → Bool} {ms : List TypeRef} {m m' : TypeRef}
    (h : (ms.filter p).length ≤ 1) (hm : m ∈ ms) (hm' : m' ∈ ms) (hp : p m) (hp' : p m') :
    m = m' := by
  have hmem := List.mem_filter.2 ⟨hm, hp⟩
  have hmem' := List.mem_filter.2 ⟨hm', hp'⟩
  cases hfilter : ms.filter p with
  | nil =>
      rw [hfilter] at hmem
      exact absurd hmem List.not_mem_nil
  | cons a rest =>
      rw [hfilter, List.length_cons] at h
      have hrest : rest = [] := List.length_eq_zero_iff.1 (by omega)
      rw [hfilter, hrest, List.mem_singleton] at hmem hmem'
      rw [hmem, hmem']

/-- Members of one family in a discriminable union are the same member, or of the same kind. -/
theorem Discriminable.eq_or_kind {ms : List TypeRef} {m m' : TypeRef} {k' : Kind}
    (hd : g.Discriminable ms) (hm : m ∈ ms) (hm' : m' ∈ ms) (hk : g.kind? m = some k)
    (hk' : g.kind? m' = some k') (hunion : k.isUnion = false) (h : k.family = k'.family) :
    m = m' ∨ k = k' ∧ k.isDigits = false := by
  have hin {f : Family} (hf : k.family = f) : g.ofFamily f m ∧ g.ofFamily f m' := by
    rw [ofFamily, ofFamily, kindHolds_eq hk, kindHolds_eq hk', ← h, hf]
    exact ⟨decide_eq_true rfl, decide_eq_true rfl⟩
  cases k with
  | any | null | bool | integer | double =>
      cases k' <;> first | exact .inr ⟨rfl, rfl⟩ | cases h
  | text | enumeration | formatted =>
      exact .inl (eq_of_filter_length hd.textual hm hm' (hin rfl).1 (hin rfl).2)
  | record | map => exact .inl (eq_of_filter_length hd.tabular hm hm' (hin rfl).1 (hin rfl).2)
  | array => exact .inl (eq_of_filter_length hd.array hm hm' (hin rfl).1 (hin rfl).2)
  | union => cases hunion

end TypeGraph

end TypedJson
