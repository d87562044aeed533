import TypedJson.Proofs.Value.Projection

/-!
# Chosen members of unions

A union converts a value by the first member that converts it, its chosen member. With
`convert_union_eq_ok` the result of a union is that of its chosen member, and by
`chosen?_eq_or_front` no member in front of the chosen one converts the value.
-/

namespace TypedJson

open Outcome

/-- A conversion succeeds where it gives a value. -/
theorem isOk_iff {α : Type} {r : Outcome α} : r.isOk ↔ ∃ x, r = .ok x := by
  cases r with
  | ok x => exact iff_of_true rfl ⟨x, rfl⟩
  | error e => exact iff_of_false Bool.false_ne_true nofun

section Branches

variable {β : Type} {run : β → Outcome Value} {branches : List β} {x : Value}

/-- Where no branch stops without a verdict, the result is that of the first branch with one. -/
theorem firstSuccess_eq_ok (hsettled : ∀ b ∈ branches, (run b).Settled) (tried : Nat) :
    firstSuccess run tried branches = .ok x ↔
      ∃ b, branches.find? (fun b => (run b).isOk) = some b ∧ run b = .ok x := by
  induction branches generalizing tried with
  | nil =>
      constructor
      · rintro ⟨⟩
      · rintro ⟨_, ⟨⟩, -⟩
  | cons b rest ih =>
      obtain ⟨hb, hrest⟩ := List.forall_mem_cons.1 hsettled
      rw [firstSuccess_cons]
      rcases hb.cases with ⟨y, hy⟩ | ⟨e, he⟩
      · have hfind : (b :: rest).find? (fun b => (run b).isOk) = some b :=
          List.find?_cons_of_pos (by rw [hy]; rfl)
        rw [hfind]
        constructor
        · intro h
          exact ⟨b, rfl, by rwa [hy] at h ⊢⟩
        · rintro ⟨_, ⟨⟩, h⟩
          rwa [hy] at h ⊢
      · have hfind : (b :: rest).find? (fun b => (run b).isOk) =
            rest.find? (fun b => (run b).isOk) :=
          List.find?_cons_of_neg (by rw [he]; exact Bool.false_ne_true)
        rw [hfind, he]
        exact ih hrest (tried + 1)

/-- Branches have a result where one of them has. -/
theorem exists_firstSuccess (hsettled : ∀ b ∈ branches, (run b).Settled) {b : β} (hb : b ∈ branches)
    (hrun : ∃ x, run b = .ok x) (tried : Nat) : ∃ x, firstSuccess run tried branches = .ok x := by
  have hsome : (branches.find? fun b => (run b).isOk).isSome :=
    List.find?_isSome.2 ⟨b, hb, isOk_iff.2 hrun⟩
  obtain ⟨c, hc⟩ := Option.isSome_iff_exists.1 hsome
  have hok := List.find?_some hc
  obtain ⟨x, hx⟩ := isOk_iff.1 hok
  exact ⟨x, (firstSuccess_eq_ok hsettled tried).2 ⟨c, hc, hx⟩⟩

end Branches

namespace TypeGraph

variable {g : TypeGraph} {t m : TypeRef} {ms : List TypeRef} {d : Direction} {v x : Value}

/-- The first of the members that converts the value. -/
def chosen? (g : TypeGraph) (d : Direction) (ms : List TypeRef) (v : Value) : Option TypeRef :=
  ms.find? fun m => (g.convert d m v).isOk

/-- The chosen member is one of the members, and converts the value. -/
theorem mem_of_chosen? (h : g.chosen? d ms v = some m) :
    m ∈ ms ∧ ∃ x, g.convert d m v = .ok x := by
  have hok := List.find?_some h
  exact ⟨List.mem_of_find?_eq_some h, isOk_iff.1 hok⟩

/-- The members in front of the chosen one do not convert the value. -/
theorem front_of_chosen? (h : g.chosen? d ms v = some m) :
    ∃ front back, ms = front ++ m :: back ∧ ∀ b ∈ front, ∀ y, g.convert d b v ≠ .ok y := by
  obtain ⟨-, front, back, rfl, hfront⟩ := List.find?_eq_some_iff_append.1 h
  refine ⟨front, back, rfl, fun b hb y hy => ?_⟩
  have hnot := hfront b hb
  rw [hy] at hnot
  cases hnot

/-- No member stands in front of the chosen one that converts the value as well. -/
theorem chosen?_eq_or_front {c : TypeRef} {R : TypeRef → TypeRef → Prop} (hR : ms.Pairwise R)
    (hc : g.chosen? d ms v = some c) (hm : m ∈ ms) (hrun : g.convert d m v = .ok x) :
    c = m ∨ R c m := by
  obtain ⟨front, back, rfl, hfront⟩ := front_of_chosen? hc
  rcases List.mem_append.1 hm with hm | hm
  · exact absurd hrun (hfront m hm x)
  · rcases List.mem_cons.1 hm with rfl | hm
    · exact .inl rfl
    · obtain ⟨-, hback, -⟩ := List.pairwise_append.1 hR
      exact .inr ((List.pairwise_cons.1 hback).1 m hm)

variable (hg : g.Accepted) (hx : g.OnlyIntegerTexts)
include hg hx

/-- The members of a union convert every value or fail on it. -/
theorem settled_members (hk : g.kind? t = some (.union ms)) (d : Direction) (v : Value) :
    ∀ m ∈ ms, (g.convert d m v).Settled :=
  fun m hm => settled_convert hg hx (hg.refs hk m hm) d v

/-- A union converts a value by its chosen member. -/
theorem convert_union_eq_ok (hk : g.kind? t = some (.union ms)) :
    g.convert d t v = .ok x ↔ ∃ m, g.chosen? d ms v = some m ∧ g.convert d m v = .ok x := by
  have hrule : g.convert d t v = firstSuccess (fun m => g.convert d m v) 0 ms := by
    cases d with
    | decode => exact (convert_union hg hx hk v).1
    | encode => exact (convert_union hg hx hk v).2
  rw [hrule]
  exact firstSuccess_eq_ok (settled_members hg hx hk d v) 0

end TypeGraph

end TypedJson
