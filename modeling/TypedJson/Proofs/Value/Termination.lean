import TypedJson.Proofs.Graph.Reordering
import TypedJson.Proofs.Value.Recursion
import TypedJson.Proofs.Value.Shrinking

/-!
# Termination of conversions

Conversion in an accepted graph without transformed records always gives a value or fails, and no
larger bound on nested types changes its outcome. Two things are shown apart. Whatever the graph, a
settled outcome stays as it is when more types may be nested (`convertWithin_eq_of_le`). And where
types have heights, every conversion is settled once `size` types may be nested for each level of
the value (`tame_convertWithin`): a step leads to a lower type with a value no deeper, or to any type
with a part of the value.
-/

namespace TypedJson

open Outcome

/-! ## More room -/

/-- The second outcome is the first one if that is settled. -/
def Outcome.Refines {α : Type} (r s : Outcome α) : Prop :=
  r.Settled → s = r

/-- Every outcome refines itself. -/
theorem Outcome.Refines.refl {α : Type} (r : Outcome α) : Refines r r :=
  fun _ => rfl

/-- Composition respects refinement. -/
theorem refines_congruence : Congruence @Refines where
  refl := fun _ => Refines.refl _
  bind := by
    intro α β x y f g hxy hfg hsettled
    have hx : x.Settled := by
      rintro stop rfl
      exact hsettled stop rfl
    rw [hxy hx]
    cases x with
    | error stop => rfl
    | ok a => exact hfg a rfl hsettled
  recover := by
    intro α x y z w hxy hzw hsettled
    have hx : x.Settled := by
      intro stop h
      subst h
      cases stop with
      | failed e => exact ⟨e, rfl⟩
      | dangling t => exact hsettled _ rfl
      | endless t => exact hsettled _ rfl
    rw [hxy hx]
    rcases hx.cases with ⟨a, rfl⟩ | ⟨e, rfl⟩
    · rfl
    · exact hzw hsettled

namespace TypeGraph

variable {g : TypeGraph}

/-- A choice gives the result of the first of its branches that succeeds. -/
theorem transformFirst_eq (byKind : Direction → Value → TypeRef → Outcome Value) (d : Direction)
    (branches : List Transformer) (tried : Nat) (v : Value) (target : TypeRef) :
    g.transformFirst byKind d branches tried v target =
      firstSuccess (fun x => g.transformWith byKind d x v target) tried branches := by
  induction branches generalizing tried with
  | nil => rw [transformFirst, firstSuccess]
  | cons branch rest ih => rw [transformFirst, firstSuccess, ← ih]

/-- Convert the elements of a container. -/
def convertElements (container : Container) (f : Value → Outcome Value) : Value → Outcome Value :=
  match container with
  | .list => convertItems f
  | .dict => convertEntries f

/-- Elements are transformed to the elements of the target, one by one. -/
theorem transformWith_elements (byKind : Direction → Value → TypeRef → Outcome Value)
    (d : Direction) (source : TypeRef) (container : Container) (element : Transformer)
    (next : Option Transformer) (v : Value) (target : TypeRef) :
    g.transformWith byKind d (.elements source container element next) v target =
      convertElements container
        (fun w => g.transformWith byKind d element w (g.elementTarget target container)) v >>=
      fun w => g.transformNext byKind d next w target := by
  cases container <;> simp only [transformWith, convertElements]

section Refinement

variable {byKind byKind' : Direction → Value → TypeRef → Outcome Value}

mutual
/-- Transforming respects a refinement of the conversion by kind. -/
theorem refines_transformWith (hkind : ∀ d v s, Refines (byKind d v s) (byKind' d v s))
    (d : Direction) : ∀ (x : Transformer) (v : Value) (target : TypeRef),
    Refines (g.transformWith byKind d x v target) (g.transformWith byKind' d x v target)
  | .choice _ branches, v, target => by
      unfold transformWith
      exact refines_transformFirst hkind d branches 0 v target
  | .decode source next, v, target => by
      unfold transformWith
      exact refines_congruence.bind (hkind _ _ _) fun w _ => refines_transformNext hkind d next w target
  | .encode source, v, target => by
      unfold transformWith
      exact hkind _ _ _
  | .elements _ container element next, v, target => by
      rw [transformWith_elements, transformWith_elements]
      let itemTarget := g.elementTarget target container
      let each (w : Value) := g.transformWith byKind d element w itemTarget
      let each' (w : Value) := g.transformWith byKind' d element w itemTarget
      have heach (w : Value) : Refines (each w) (each' w) :=
        refines_transformWith hkind d element w itemTarget
      refine refines_congruence.bind ?_ fun w _ => refines_transformNext hkind d next w target
      cases container with
      | list => exact refines_congruence.convertItems (F := each) (G := each') fun _ _ w _ => heach w
      | dict =>
          exact refines_congruence.convertEntries (F := each) (G := each')
            fun _ _ entry _ => heach entry.2
  | .memberMatch _ member next, v, target => by
      unfold transformWith
      exact refines_congruence.bind (.refl _) fun _ _ => refines_transformNext hkind d next v target
  | .instantiate _, v, target => by
      unfold transformWith
      exact .refl _
  | .parseText _ next, v, target => by
      unfold transformWith
      exact refines_congruence.bind (.refl _) fun w _ => refines_transformNext hkind d next w target
  | .writeText source next, v, target => by
      unfold transformWith
      exact refines_congruence.bind (.refl _) fun w _ => refines_transformNext hkind d next w target

/-- Going on with the next step respects a refinement. -/
theorem refines_transformNext (hkind : ∀ d v s, Refines (byKind d v s) (byKind' d v s))
    (d : Direction) : ∀ (next : Option Transformer) (v : Value) (target : TypeRef),
    Refines (g.transformNext byKind d next v target) (g.transformNext byKind' d next v target)
  | none, v, target => by
      unfold transformNext
      exact .refl _
  | some step, v, target => by
      unfold transformNext
      exact refines_transformWith hkind d step v target

/-- Trying branches respects a refinement. -/
theorem refines_transformFirst (hkind : ∀ d v s, Refines (byKind d v s) (byKind' d v s))
    (d : Direction) : ∀ (branches : List Transformer) (tried : Nat) (v : Value) (target : TypeRef),
    Refines (g.transformFirst byKind d branches tried v target)
      (g.transformFirst byKind' d branches tried v target)
  | [], tried, v, target => by
      unfold transformFirst
      exact .refl _
  | branch :: rest, tried, v, target => by
      rw [transformFirst_eq, transformFirst_eq, firstSuccess_cons, firstSuccess_cons,
        ← transformFirst_eq, ← transformFirst_eq]
      exact refines_congruence.recover (refines_transformWith hkind d branch v target)
        (refines_transformFirst hkind d rest (tried + 1) v target)
end

end Refinement

/-- A refinement of the conversions of parts and members makes one of the conversion by kind. -/
theorem refines_convertByKind {f f' : TypeRef → Value → Outcome Value}
    (h : ∀ r w, Refines (f r w) (f' r w)) (d : Direction) (v : Value) (t : TypeRef) :
    Refines (g.convertByKind d f v t) (g.convertByKind d f' v t) := by
  cases hk : g.kind? t with
  | some k => exact convertByKind_rel refines_congruence hk d (fun r _ w _ => h r w) fun _ _ m _ => h m v
  | none =>
      have hdangling (f : TypeRef → Value → Outcome Value) :
          g.convertByKind d f v t = .error (.dangling t) := by
        cases d <;> simp only [convertByKind, decodeByKind, encodeByKind, kindOf, hk] <;> rfl
      rw [hdangling, hdangling]
      exact .refl _

/-- A step refines if the conversions that it leads to do. -/
theorem refines_convertStep {f f' : Direction → TypeRef → Value → Outcome Value}
    (h : ∀ d r w, Refines (f d r w) (f' d r w)) (d : Direction) (t : TypeRef) (v : Value) :
    Refines (g.convertStep f d t v) (g.convertStep f' d t v) := by
  have hkind (d : Direction) (v : Value) (s : TypeRef) :
      Refines (g.convertByKind d (f d) v s) (g.convertByKind d (f' d) v s) :=
    refines_convertByKind (h d) d v s
  unfold convertStep
  cases g.transformation? t with
  | none => exact hkind d v t
  | some x =>
      cases d with
      | decode => exact refines_transformWith hkind .decode x.transformer v x.target
      | encode => exact refines_transformWith hkind .encode x.reverse v t

/-- Room for one more nested type refines a conversion. -/
theorem refines_convertWithin (n : Nat) (d : Direction) (t : TypeRef) (v : Value) :
    Refines (g.convertWithin n d t v) (g.convertWithin (n + 1) d t v) := by
  induction n generalizing d t v with
  | zero =>
      intro hsettled
      obtain ⟨e, he⟩ := hsettled _ rfl
      cases he
  | succ n ih => exact refines_convertStep ih d t v

/-- An outcome that is settled stays as it is when more types may be nested. -/
theorem convertWithin_eq_of_le {n m : Nat} {d : Direction} {t : TypeRef} {v : Value}
    (hsettled : (g.convertWithin n d t v).Settled) (h : n ≤ m) :
    g.convertWithin m d t v = g.convertWithin n d t v := by
  induction h with
  | refl => rfl
  | step _ ih => rw [← ih]; exact refines_convertWithin _ d t v (ih ▸ hsettled)

/-! ## Transformers are tame -/

/-- The elements of a target are a type if the target is. -/
theorem Accepted.exists_elementTarget (hg : g.Accepted) {target : TypeRef}
    (h : ∃ k, g.kind? target = some k) (container : Container) :
    ∃ k, g.kind? (g.elementTarget target container) = some k := by
  unfold elementTarget
  split
  next items hk => exact kind?_isSome (hg.refs hk items List.mem_cons_self)
  next values hk => exact kind?_isSome (hg.refs hk values List.mem_cons_self)
  next => exact h

/-- A type of known kind is required by the test for that kind. -/
theorem requireType_eq {member : TypeRef} {k : Kind} (hk : g.kind? member = some k)
    (d : Direction) (v : Value) : g.requireType d v member =
      match matchesKind? d k v with
      | none => .unsupported (.typeObject k)
      | some true => .ok ()
      | some false => .shape k.name v := by
  rw [requireType, kindOf_eq hk]
  rfl

/-- Requiring a type is settled. -/
theorem settled_requireType {member : TypeRef} {k : Kind} (hk : g.kind? member = some k)
    (d : Direction) (v : Value) : (g.requireType d v member).Settled := by
  rw [requireType_eq hk]
  split
  · exact settled_unsupported _
  · exact settled_ok _
  · exact settled_shape _ _

section Transformers

variable {depth : Nat} {byKind : Direction → Value → TypeRef → Outcome Value}

/-- Going on behind a test is tame. -/
theorem tame_memberMatch {member : TypeRef} {k : Kind} (hk : g.kind? member = some k)
    (d : Direction) {f : Value → Outcome Value} (hf : Tame depth f) :
    Tame depth fun v => g.requireType d v member >>= fun _ => f v := by
  intro v hv
  rcases (settled_requireType hk d v).cases with ⟨_, hpass⟩ | ⟨e, hfail⟩
  · simp only [hpass]
    exact hf v hv
  · simp only [hfail]
    refine ⟨settled_failed e, ?_⟩
    rintro _ ⟨⟩

/-- Converting the elements of a container is tame if their conversion is. -/
theorem tame_convertElements (container : Container) {f : Value → Outcome Value}
    (hf : Tame depth f) : Tame depth (convertElements container f) := by
  cases container with
  | list => exact tame_convertItems fun _ hless => hf.mono hless.le
  | dict => exact tame_convertEntries fun _ hless => hf.mono hless.le

/-- The types denote kinds, and converting values by these is tame. -/
def TameSources (g : TypeGraph) (depth : Nat)
    (byKind : Direction → Value → TypeRef → Outcome Value) (sources : List TypeRef) : Prop :=
  ∀ s ∈ sources, (∃ k, g.kind? s = some k) ∧ ∀ d, Tame depth fun v => byKind d v s

mutual
/-- Transforming is tame if converting the types that the tree refers to is. -/
theorem tame_transformWith (hg : g.Accepted) (d : Direction) : ∀ (x : Transformer),
    g.TameSources depth byKind x.refs → ∀ target, (∃ k, g.kind? target = some k) →
    Tame depth fun v => g.transformWith byKind d x v target
  | .choice source branches, h, target, ht => by
      rw [TameSources, Transformer.refs, List.forall_mem_cons] at h
      simp only [transformWith, transformFirst_eq]
      exact tame_firstSuccess (r := fun x v => g.transformWith byKind d x v target)
        (tame_transformBranches hg d branches h.2 target ht) 0
  | .decode source next, h, target, ht => by
      rw [TameSources, Transformer.refs, List.forall_mem_cons] at h
      simp only [transformWith]
      exact (h.1.2 .decode).bind (tame_transformNext hg d next h.2 target ht)
  | .encode source, h, target, ht => by
      simp only [transformWith]
      exact (h source List.mem_cons_self).2 .encode
  | .elements source container element next, h, target, ht => by
      rw [TameSources, Transformer.refs, List.forall_mem_cons, List.forall_mem_append] at h
      simp only [transformWith_elements]
      exact (tame_convertElements container (tame_transformWith hg d element h.2.1 _
        (hg.exists_elementTarget ht container))).bind (tame_transformNext hg d next h.2.2 target ht)
  | .memberMatch source member next, h, target, ht => by
      rw [TameSources, Transformer.refs, List.forall_mem_cons, List.forall_mem_cons] at h
      obtain ⟨k, hk⟩ := h.2.1.1
      simp only [transformWith]
      exact tame_memberMatch hk d (tame_transformNext hg d next h.2.2 target ht)
  | .instantiate source, h, target, ht => by
      simp only [transformWith]
      exact tame_ok
  | .parseText source next, h, target, ht => by
      rw [TameSources, Transformer.refs, List.forall_mem_cons] at h
      have hnext := tame_transformNext hg d next h.2 target ht
      simp only [transformWith]
      cases next with
      | none =>
          obtain ⟨k, hk⟩ := ht
          exact (tame_parseInto hk).bind hnext
      | some step =>
          rw [Transformer.nextRefs] at h
          obtain ⟨k, hk⟩ := (h.2 step.source (source_mem_refs step)).1
          exact (tame_parseInto hk).bind hnext
  | .writeText source next, h, target, ht => by
      rw [TameSources, Transformer.refs, List.forall_mem_cons] at h
      obtain ⟨k, hk⟩ := h.1.1
      simp only [transformWith]
      exact (tame_writeFrom hk).bind (tame_transformNext hg d next h.2 target ht)

/-- Going on with the next step is tame under the same condition. -/
theorem tame_transformNext (hg : g.Accepted) (d : Direction) : ∀ (next : Option Transformer),
    g.TameSources depth byKind (Transformer.nextRefs next) →
    ∀ target, (∃ k, g.kind? target = some k) →
    Tame depth fun v => g.transformNext byKind d next v target
  | none, h, target, ht => by
      simp only [transformNext]
      exact tame_ok
  | some step, h, target, ht => by
      rw [Transformer.nextRefs] at h
      simp only [transformNext]
      exact tame_transformWith hg d step h target ht

/-- So is each branch of a choice. -/
theorem tame_transformBranches (hg : g.Accepted) (d : Direction) :
    ∀ (branches : List Transformer), g.TameSources depth byKind (Transformer.branchRefs branches) →
    ∀ target, (∃ k, g.kind? target = some k) →
    ∀ x ∈ branches, Tame depth fun v => g.transformWith byKind d x v target
  | [], _, _, _ => List.forall_mem_nil _
  | branch :: rest, h, target, ht => by
      rw [TameSources, Transformer.branchRefs, List.forall_mem_append] at h
      exact List.forall_mem_cons.2 ⟨tame_transformWith hg d branch h.1 target ht,
        tame_transformBranches hg d rest h.2 target ht⟩
end

end Transformers

/-! ## The bound -/

/-- Converting by kind what a type of some height leads to is tame, if conversions are at lesser
depths, and at this one those of lower types. -/
theorem tame_byKind {height : TypeRef → Nat} (hh : g.IsHeight height) {depth top : Nat}
    {f : TypeRef → Value → Outcome Value} (d : Direction) {s : TypeRef} {k : Kind}
    (hg : g.Accepted) (hk : g.kind? s = some k) (hs : height s ≤ top)
    (hpart : ∀ r, r.index < g.size → ∀ lesser < depth, Tame lesser (f r))
    (hlower : ∀ r, r.index < g.size → height r < top → Tame depth (f r)) :
    Tame depth fun v => g.convertByKind d f v s := by
  refine tame_convertByKind hk d (fun r hr => hpart r (hg.refs hk r hr)) ?_
  rintro ms rfl m hm
  exact hlower m (hg.refs hk m hm) (Nat.lt_of_lt_of_le (hh.structural hk hm) hs)

/-- Conversion is tame up to a depth when `size` types may be nested for each of its levels, and as
many more as the type is high. -/
theorem tame_convertWithin (hg : g.Accepted) {height : TypeRef → Nat} (hh : g.IsHeight height)
    (hrecords : g.transformsRecords = false) {n depth : Nat} (d : Direction) {t : TypeRef}
    (ht : t.index < g.size) (hn : g.size * depth + height t < n) :
    Tame depth (g.convertWithin n d t) := by
  induction n generalizing d t depth with
  | zero => exact absurd hn (Nat.not_lt_zero _)
  | succ n ih =>
      have hpart (d : Direction) (r : TypeRef) (hr : r.index < g.size) (lesser : Nat)
          (hless : lesser < depth) : Tame lesser (g.convertWithin n d r) := by
        refine ih d hr ?_
        have hbound := hh.bound hr
        have hlevel : g.size * (lesser + 1) ≤ g.size * depth := Nat.mul_le_mul_left _ hless
        rw [Nat.mul_succ] at hlevel
        omega
      have hlower (d : Direction) (r : TypeRef) (hr : r.index < g.size)
          (hlow : height r < height t) : Tame depth (g.convertWithin n d r) :=
        ih d hr (by omega)
      have hbyKind (d : Direction) {s : TypeRef} {k : Kind} (hk : g.kind? s = some k)
          (hs : height s ≤ height t) :
          Tame depth fun v => g.convertByKind d (g.convertWithin n d) v s :=
        tame_byKind hh d hg hk hs (hpart d) (hlower d)
      obtain ⟨k, hk⟩ := kind?_isSome ht
      show Tame depth (g.convertStep (g.convertWithin n) d t)
      cases hx : g.transformation? t with
      | none =>
          refine (hbyKind d hk (Nat.le_refl _)).congr fun v _ => ?_
          exact convertStep_byKind hx _ d v
      | some x =>
          have hrecord := kindHolds_isRecord_of_transformation? hrecords hx
          have hsources : g.TameSources depth
              (fun d => g.convertByKind d (g.convertWithin n d)) x.refs := by
            intro s hs
            obtain ⟨k, hk⟩ := kind?_isSome (hg.transformed hx s hs)
            refine ⟨⟨k, hk⟩, fun d => hbyKind d hk ?_⟩
            by_cases hself : s = t
            · rw [hself]
            · exact (hh.referred hrecord hx hs hself).le
          rw [Transformation.refs, TameSources, List.forall_mem_cons, List.forall_mem_append]
            at hsources
          cases d with
          | decode =>
              refine (tame_transformWith hg .decode x.transformer hsources.2.1 x.target
                hsources.1.1).congr fun v _ => ?_
              rw [convertStep.eq_def, hx]
          | encode =>
              refine (tame_transformWith hg .encode x.reverse hsources.2.2 t ⟨k, hk⟩).congr
                fun v _ => ?_
              rw [convertStep.eq_def, hx]

/-- There is room for twice `size` nested types at each level of a value. -/
theorem levels_le_budget (v : Value) : 2 * g.size * (v.depth + 1) ≤ g.budget v := by
  have hforms : 1 ≤ if g.transformsRecords then Nat.pow 2 (g.formBits v) else 1 := by
    split
    · exact Nat.one_le_two_pow
    · exact Nat.le_refl 1
  calc 2 * g.size * (v.depth + 1) ≤ 2 * (g.size + 1) * (v.depth + 1) :=
        Nat.mul_le_mul_right _ (by omega)
    _ = 2 * (g.size + 1) * (v.depth + 1) * 1 := (Nat.mul_one _).symm
    _ ≤ g.budget v := Nat.mul_le_mul_left _ hforms

/-- In an accepted graph without transformed records, conversion gives a value or fails on every
value, and it does the same whenever at least `size` types may be nested for each level. -/
theorem convert_terminates {types : Array Node} {topLevels : List TopLevel}
    (hmake : make types topLevels = .ok g) (hrecords : g.transformsRecords = false) {t : TypeRef}
    (ht : t.index < g.size) (d : Direction) (v : Value) :
    (g.convert d t v).Settled ∧
      ∀ n, g.size * (v.depth + 1) ≤ n → g.convertWithin n d t v = g.convert d t v := by
  obtain ⟨height, hh⟩ := exists_isHeight_of_make hmake
  have hbound : g.size * v.depth + height t < g.size * (v.depth + 1) := by
    rw [Nat.mul_succ]
    exact Nat.add_lt_add_left (hh.bound ht) _
  have hsettled : (g.convertWithin (g.size * (v.depth + 1)) d t v).Settled :=
    (tame_convertWithin (accepted_of_make hmake) hh hrecords d ht hbound v (Nat.le_refl _)).1
  have hbudget : g.size * (v.depth + 1) ≤ g.budget v :=
    Nat.le_trans (Nat.mul_le_mul_right _ (by omega)) (levels_le_budget v)
  have hconvert : g.convert d t v = g.convertWithin (g.size * (v.depth + 1)) d t v :=
    convertWithin_eq_of_le hsettled hbudget
  rw [hconvert]
  exact ⟨hsettled, fun n hn => convertWithin_eq_of_le hsettled hn⟩

/-- A tree within a tree is decoded alike by way of 35 nested types and of more. -/
theorem convert_terminates_tree :
    let document : Value := .dict [("count", .str "1"),
      ("rest", .list [.dict [("count", .str "2"), ("rest", .list [])]])]
    make treeGraph.types treeGraph.topLevels = .ok treeGraph ∧
      treeGraph.transformsRecords = false ∧ 6 < treeGraph.size ∧
      ∀ n, 35 ≤ n → treeGraph.convertWithin n .decode ⟨6⟩ document =
        .ok (.object "Tree" [("count", .int 1), ("left", .none), ("rest", .list
          [.object "Tree" [("count", .int 2), ("left", .none), ("rest", .list [])]])]) := by
  intro document
  refine ⟨make_treeGraph, rfl, by decide, fun n hn => ?_⟩
  rw [(convert_terminates make_treeGraph rfl (t := ⟨6⟩) (by decide) .decode document).2 n hn]
  rfl

end TypeGraph

end TypedJson
