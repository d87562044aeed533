import TypedJson.Graph.Builder
import TypedJson.Proofs.Value.Ending

/-!
# Conversion as a recursion on types and values

In an accepted graph whose transformations are those of integers in texts, the bound on nested types
is never met. `convert_eq` then describes conversion without any bound, by the conversions of parts
and members, and `settled_convert` says that it always gives a value or fails.
-/

namespace TypedJson.TypeGraph

open Outcome

variable {g : TypeGraph} {t : TypeRef} {v : Value}

/-- Convert a value of a type, with a given conversion of its parts and of union members. -/
def convertStep (g : TypeGraph) (f : Direction → TypeRef → Value → Outcome Value) (d : Direction)
    (t : TypeRef) (v : Value) : Outcome Value :=
  match g.transformation? t, d with
  | none, _ => g.convertByKind d (f d) v t
  | some x, .decode =>
    g.transformWith (fun d => g.convertByKind d (f d)) .decode x.transformer v x.target
  | some x, .encode => g.transformWith (fun d => g.convertByKind d (f d)) .encode x.reverse v t

/-- The bounded conversion takes one step from one bound to the next. -/
theorem convertWithin_succ (n : Nat) (d : Direction) :
    g.convertWithin (n + 1) d t v = g.convertStep (g.convertWithin n) d t v :=
  rfl

/-- The transformations of the graph are those of integers in texts. -/
def OnlyIntegerTexts (g : TypeGraph) : Prop :=
  ∀ t x, g.transformation? t = some x → g.kind? t = some (.formatted .integerText) ∧
    ∃ text integer, x = Builder.integerTextTransformation text integer ∧
      g.kind? text = some .text ∧ g.kind? integer = some .integer

/-- Convert an integer from a text or into one. -/
def convertDigits : Direction → Value → Outcome Value
  | .decode, .str s => parseInteger s
  | .decode, v => .shape "str" v
  | .encode, .int i => .ok (.str (toString i))
  | .encode, v => .shape "int" v

/-- Converting an integer from a text or into one is settled. -/
theorem settled_convertDigits (d : Direction) (v : Value) : (convertDigits d v).Settled := by
  cases d with
  | decode =>
      cases v with
      | str s => exact settled_parseInteger s
      | none | bool | int | float | list | dict | dateTime | enumCase | object =>
          exact settled_shape _ _
  | encode =>
      cases v with
      | int i => exact settled_ok _
      | none | bool | float | str | list | dict | dateTime | enumCase | object =>
          exact settled_shape _ _

/-- The transformation of integers in texts reads and writes digits, whatever the conversion of
parts is. -/
theorem convertStep_digits (hx : g.OnlyIntegerTexts) {x : Transformation}
    (ht : g.transformation? t = some x) (f : Direction → TypeRef → Value → Outcome Value)
    (d : Direction) (v : Value) : g.convertStep f d t v = convertDigits d v := by
  obtain ⟨-, text, integer, rfl, htext, hinteger⟩ := hx t x ht
  rw [convertStep.eq_def, ht]
  cases d with
  | decode =>
      show (g.decodeByKind _ v text >>= fun decoded => g.parseInto decoded integer >>= _) = _
      rw [decodeByKind, kindOf_eq htext]
      cases v with
      | str s =>
          show ((g.kindOf integer >>= _) >>= _) = _
          rw [kindOf_eq hinteger]
          show (parseInteger s >>= Except.ok) = _
          rw [convertDigits]
          cases parseInteger s <;> rfl
      | none | bool | int | float | list | dict | dateTime | enumCase | object => rfl
  | encode =>
      show (g.writeFrom v integer >>= fun written => g.encodeByKind _ written text) = _
      rw [writeFrom, kindOf_eq hinteger]
      cases v with
      | int i =>
          show g.encodeByKind _ _ text = _
          rw [encodeByKind, kindOf_eq htext]
          rfl
      | none | bool | float | str | list | dict | dateTime | enumCase | object => rfl

/-- Without a transformation a type is converted by the rules of its kind. -/
theorem convertStep_byKind (h : g.transformation? t = none)
    (f : Direction → TypeRef → Value → Outcome Value) (d : Direction) (v : Value) :
    g.convertStep f d t v = g.convertByKind d (f d) v t := by
  rw [convertStep.eq_def, h]

/-- One step of conversion respects a congruence, if the conversions of the parts of the value do,
and those of the value itself as the members of a union. -/
theorem convertStep_rel {R : ∀ {α : Type}, Outcome α → Outcome α → Prop}
    {f f' : Direction → TypeRef → Value → Outcome Value} {k : Kind} {d : Direction}
    (hR : Congruence @R) (hx : g.OnlyIntegerTexts) (hk : g.kind? t = some k)
    (hpart : ∀ r ∈ kindRefs k, ∀ w : Value, w.depth < v.depth → R (f d r w) (f' d r w))
    (hmember : ∀ ms, k = .union ms → ∀ m ∈ ms, R (f d m v) (f' d m v)) :
    R (g.convertStep f d t v) (g.convertStep f' d t v) := by
  cases ht : g.transformation? t with
  | none =>
      rw [convertStep_byKind ht, convertStep_byKind ht]
      exact convertByKind_rel hR hk d hpart hmember
  | some x =>
      rw [convertStep_digits hx ht, convertStep_digits hx ht]
      exact hR.refl (settled_convertDigits d v)

/-! ## The bound is not met -/

/-- How many types may lie within one another from `t` on: two for each level of the value, a union
and one of its members. -/
def reach (g : TypeGraph) (t : TypeRef) (v : Value) : Nat :=
  2 * v.depth + if g.kindHolds Kind.isUnion t then 2 else 1

/-- Fewer types lie within a part of a value. -/
theorem reach_part (r : TypeRef) {w : Value} (h : w.depth < v.depth) :
    g.reach r w < g.reach t v := by
  rw [reach, reach]
  split <;> split <;> omega

/-- Fewer types lie within a member of a union. -/
theorem Accepted.reach_member (hg : g.Accepted) {ms : List TypeRef} {m : TypeRef}
    (hk : g.kind? t = some (.union ms)) (hm : m ∈ ms) : g.reach m v < g.reach t v := by
  rw [reach, reach, (hg.members hk).2 m hm, kindHolds_eq hk]
  exact Nat.lt_succ_self _

/-- The bound of a conversion is beyond its reach. -/
theorem reach_le_budget : g.reach t v ≤ g.budget v := by
  have hforms : 1 ≤ if g.transformsRecords then Nat.pow 2 (g.formBits v) else 1 := by
    split
    · exact Nat.pow_pos (by decide)
    · exact Nat.le_refl 1
  calc g.reach t v ≤ 2 * (v.depth + 1) := by
        rw [reach]
        split <;> omega
    _ ≤ 2 * (g.size + 1) * (v.depth + 1) := Nat.mul_le_mul_right _ (by omega)
    _ ≤ 2 * (g.size + 1) * (v.depth + 1) * _ := Nat.le_mul_of_pos_right _ hforms

/-- The bound of a conversion lets it take a step. -/
theorem budget_eq_succ (g : TypeGraph) (v : Value) : ∃ n, g.budget v = n + 1 := by
  have hreach : g.reach ⟨0⟩ v ≤ g.budget v := reach_le_budget
  refine ⟨g.budget v - 1, ?_⟩
  have hpos : 0 < g.reach ⟨0⟩ v := by
    rw [reach]
    split <;> omega
  omega

/-- A reference that denotes no type converts nothing. -/
theorem kind?_of_convert {d : Direction} {x : Value} (h : g.convert d t v = .ok x) :
    ∃ k, g.kind? t = some k := by
  cases hk : g.kind? t with
  | some k => exact ⟨k, rfl⟩
  | none =>
      have hnode : g.node? t = none := Option.map_eq_none_iff.1 hk
      have htransformation : g.transformation? t = none := by rw [transformation?, hnode]; rfl
      obtain ⟨n, hn⟩ := g.budget_eq_succ v
      rw [convert, hn, convertWithin_succ, convertStep_byKind htransformation] at h
      cases d with
      | decode =>
          change g.decodeByKind _ v t = _ at h
          rw [decodeByKind, kindOf, hk] at h
          cases h
      | encode =>
          change g.encodeByKind _ v t = _ at h
          rw [encodeByKind, kindOf, hk] at h
          cases h

variable (hg : g.Accepted) (hx : g.OnlyIntegerTexts)
include hg hx

/-- Conversions within any two bounds beyond the reach of a type agree. -/
theorem convertWithin_agree (ht : t.index < g.size) (d : Direction) {n m : Nat}
    (hn : g.reach t v ≤ n) (hm : g.reach t v ≤ m) :
    Agree (g.convertWithin n d t v) (g.convertWithin m d t v) := by
  induction hreach : g.reach t v using Nat.strongRecOn generalizing t v n m with
  | ind bound ih =>
      obtain ⟨k, hk⟩ := kind?_isSome ht
      have hpos : 0 < g.reach t v := by
        rw [reach]
        split <;> omega
      obtain ⟨n, rfl⟩ : ∃ n', n = n' + 1 := ⟨n - 1, by omega⟩
      obtain ⟨m, rfl⟩ : ∃ m', m = m' + 1 := ⟨m - 1, by omega⟩
      rw [convertWithin_succ, convertWithin_succ]
      refine convertStep_rel agree_congruence hx hk (fun r hr w hw => ?_) ?_
      · have hless := g.reach_part (t := t) r hw
        exact ih _ (hreach ▸ hless) (hg.refs hk r hr) (by omega) (by omega) rfl
      · rintro ms rfl r hr
        have hless := hg.reach_member (v := v) hk hr
        exact ih _ (hreach ▸ hless) (hg.refs hk r hr) (by omega) (by omega) rfl

/-- Conversion always gives a value or fails. -/
theorem settled_convert (ht : t.index < g.size) (d : Direction) (v : Value) :
    (g.convert d t v).Settled :=
  (convertWithin_agree hg hx ht d reach_le_budget reach_le_budget).1

/-- Conversion is one step from the conversions of parts and members. -/
theorem convert_eq (ht : t.index < g.size) (d : Direction) (v : Value) :
    g.convert d t v = g.convertStep g.convert d t v := by
  obtain ⟨k, hk⟩ := kind?_isSome ht
  have hbudget : g.reach t v ≤ g.budget v := reach_le_budget
  obtain ⟨n, hn⟩ := g.budget_eq_succ v
  rw [convert, hn, convertWithin_succ]
  refine (convertStep_rel agree_congruence hx hk (fun r hr w hw => ?_) ?_).2.symm
  · have hless := g.reach_part (t := t) r hw
    exact convertWithin_agree hg hx (hg.refs hk r hr) d (by omega) reach_le_budget
  · rintro ms rfl r hr
    have hless := hg.reach_member (v := v) hk hr
    exact convertWithin_agree hg hx (hg.refs hk r hr) d (by omega) reach_le_budget

end TypedJson.TypeGraph
