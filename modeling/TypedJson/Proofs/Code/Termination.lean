import TypedJson.Code.Module
import TypedJson.Proofs.Graph.Reordering

/-!
# Termination of code generation

In an accepted graph without transformed records, writing a conversion or an annotation is never
refused because types lie endlessly within one another, and no larger bound on nested types changes
what is written or recorded. Three recursions follow different references: decoding and encoding
those of transformers, annotations the targets of transformations. All of them descend in height.
-/

namespace TypedJson.Code

open TypeGraph

/-- The two steps do the same, and no run of them is refused as endless. -/
structure Gen.Agree {α : Type} (x y : Gen α) : Prop where
  eq : y = x
  ends : ∀ s t, (x.run.run s).1 ≠ .error (.endless t)

namespace Gen

variable {α β : Type}

/-- A value agrees with itself. -/
theorem agree_pure (a : α) : Agree (pure a : Gen α) (pure a) :=
  ⟨rfl, nofun⟩

/-- A refusal for another reason agrees with itself. -/
theorem agree_throw {e : GenerateError} (h : ∀ t, e ≠ .endless t) :
    Agree (throw e : Gen α) (throw e) :=
  ⟨rfl, fun _ t heq => h t (Except.error.inj heq)⟩

/-- Recording something agrees with itself. -/
theorem agree_require (change : Requirements → Requirements) :
    Agree (require change) (require change) :=
  ⟨rfl, nofun⟩

/-- Steps that agree may be composed. -/
theorem Agree.bind {x y : Gen α} {f g : α → Gen β} (hxy : Agree x y)
    (hfg : ∀ a, Agree (f a) (g a)) : Agree (x >>= f) (y >>= g) := by
  obtain ⟨rfl, hends⟩ := hxy
  obtain rfl : g = f := funext fun a => (hfg a).eq
  refine ⟨rfl, fun s t h => ?_⟩
  rw [ExceptT.run_bind, StateT.run_bind] at h
  rcases hx : y.run.run s with ⟨e | a, between⟩
  · rw [hx] at h
    refine hends s t ?_
    rw [hx]
    exact congrArg _ (Except.error.inj h)
  · rw [hx] at h
    exact (hfg a).ends between t h

/-- Steps that agree on the items of a list agree on the list. -/
theorem agree_mapM {f g : α → Gen β} {as : List α} (h : ∀ a ∈ as, Agree (f a) (g a)) :
    Agree (as.mapM f) (as.mapM g) := by
  induction as with
  | nil => exact agree_pure []
  | cons a as ih =>
      obtain ⟨ha, has⟩ := List.forall_mem_cons.1 h
      rw [List.mapM_cons, List.mapM_cons]
      exact ha.bind fun _ => (ih has).bind fun _ => agree_pure _

/-- A support function agrees with itself. -/
theorem agree_converter (c : Converter) : Agree (converter c) (converter c) :=
  (agree_require _).bind fun _ => agree_pure _

/-- A support function with arguments agrees with itself. -/
theorem agree_converterWith (c : Converter) (leading : List String) :
    Agree (converterWith c leading) (converterWith c leading) :=
  (agree_require _).bind fun _ => agree_pure _

end Gen

namespace Context

open Gen

variable {ctx : Context}

/-! ## Steps that are not recursive -/

/-- What agrees on the kind of a type agrees behind looking it up. -/
theorem agree_kind {α : Type} {t : TypeRef} {f g : Kind → Gen α}
    (h : ∀ k, ctx.graph.kind? t = some k → Agree (f k) (g k)) :
    Agree (ctx.kind t >>= f) (ctx.kind t >>= g) := by
  unfold kind
  cases hk : ctx.graph.kind? t with
  | none => exact ⟨rfl, nofun⟩
  | some k =>
      simp only [pure_bind]
      exact h k hk

/-- Looking up the name of a type agrees with itself. -/
theorem agree_typeName (t : TypeRef) : Agree (ctx.typeName t) (ctx.typeName t) := by
  unfold typeName NameTable.typeName Gen.lift
  cases ctx.names.types.lookup t with
  | none => exact agree_throw nofun
  | some name => exact agree_pure name

/-- Looking up a type object agrees with itself. -/
theorem agree_typeObject (d : Direction) (t : TypeRef) :
    Agree (ctx.typeObject d t) (ctx.typeObject d t) := by
  refine agree_kind fun k _ => ?_
  cases k with
  | null | bool | integer | double | text | array | map => exact agree_pure _
  | record r => cases d <;> first | exact agree_pure _ | exact agree_typeName t
  | enumeration e => cases d <;> first | exact agree_pure _ | exact agree_typeName t
  | formatted format =>
      cases d with
      | decode => exact agree_pure _
      | encode =>
          cases format with
          | dateTime => exact (agree_require _).bind fun _ => agree_pure _
          | integerText => exact agree_pure _
  | any | union => exact agree_throw nofun

/-- A step that parses agrees with itself. -/
theorem agree_parseStep (t : TypeRef) : Agree (ctx.parseStep t) (ctx.parseStep t) := by
  refine agree_kind fun k _ => ?_
  cases k with
  | integer => exact agree_pure _
  | enumeration e => exact (agree_typeName t).bind fun _ => agree_pure _
  | formatted format =>
      cases format with
      | dateTime => exact agree_converter _
      | integerText => exact agree_throw nofun
  | any | null | bool | double | text | array | map | record | union => exact agree_throw nofun

/-- A step that writes agrees with itself. -/
theorem agree_writeStep (t : TypeRef) : Agree (ctx.writeStep t) (ctx.writeStep t) := by
  refine agree_kind fun k _ => ?_
  cases k with
  | integer => exact agree_pure _
  | enumeration e => exact (agree_typeName t).bind fun _ => agree_converterWith _ _
  | formatted format =>
      cases format with
      | dateTime => exact agree_pure _
      | integerText => exact agree_throw nofun
  | any | null | bool | double | text | array | map | record | union => exact agree_throw nofun

/-! ## Conversions -/

/-- Conversions by kind agree if those of elements and members do. -/
theorem agree_convertByKind {element element' : TypeRef → Gen String} {t : TypeRef}
    (h : ∀ k, ctx.graph.kind? t = some k → ∀ r ∈ structuralRefs k, Agree (element r) (element' r))
    (d : Direction) (c : Chain) :
    Agree (ctx.convertByKind element d c t) (ctx.convertByKind element' d c t) := by
  have hconverter (cv : Converter) : Agree (do return c.andThen (← Gen.converter cv))
      (do return c.andThen (← Gen.converter cv)) :=
    (agree_converter cv).bind fun _ => agree_pure _
  have hwith (cv : Converter) (leading : List String) :
      Agree (do return c.andThen (← Gen.converterWith cv leading))
        (do return c.andThen (← Gen.converterWith cv leading)) :=
    (agree_converterWith cv leading).bind fun _ => agree_pure _
  refine agree_kind fun k hk => ?_
  have h := h k hk
  cases k with
  | any => exact agree_pure c
  | null | bool | integer | text => exact hconverter _
  | double => cases d <;> exact hconverter _
  | array items => exact (h items List.mem_cons_self).bind fun _ => hwith _ _
  | map values => exact (h values List.mem_cons_self).bind fun _ => hwith _ _
  | record r =>
      refine (agree_typeName t).bind fun name => ?_
      cases d with
      | decode => exact agree_pure _
      | encode => exact hwith _ _
  | enumeration e =>
      refine (agree_typeName t).bind fun name => ?_
      cases d with
      | decode => exact agree_pure _
      | encode => exact hwith _ _
  | union members => exact (agree_mapM h).bind fun _ => hwith _ _
  | formatted format =>
      cases format with
      | dateTime =>
          cases d with
          | decode => exact hconverter _
          | encode => exact agree_pure _
      | integerText => exact agree_throw nofun

section Transformers

variable {byKind byKind' : Direction → Chain → TypeRef → Gen Chain}

/-- Conversions of the types by kind agree. -/
def AgreeOn (byKind byKind' : Direction → Chain → TypeRef → Gen Chain)
    (sources : List TypeRef) : Prop :=
  ∀ s ∈ sources, ∀ d c, Agree (byKind d c s) (byKind' d c s)

mutual
/-- Conversions by a transformer agree if those of the types that it refers to do. -/
theorem agree_transform (d : Direction) : ∀ (x : Transformer), AgreeOn byKind byKind' x.refs →
    ∀ (c : Chain) (target : TypeRef),
    Agree (ctx.transform byKind d x c target) (ctx.transform byKind' d x c target)
  | .choice source branches, h, c, target => by
      rw [AgreeOn, Transformer.refs, List.forall_mem_cons] at h
      simp only [transform]
      exact (agree_transformBranches d branches h.2 target).bind fun _ =>
        (agree_converterWith _ _).bind fun _ => agree_pure _
  | .decode source next, h, c, target => by
      rw [AgreeOn, Transformer.refs, List.forall_mem_cons] at h
      simp only [transform]
      exact (h.1 .decode c).bind fun decoded => agree_transformNext d next h.2 decoded target
  | .encode source, h, c, target => by
      simp only [transform]
      exact h source List.mem_cons_self .encode c
  | .elements source container element next, h, c, target => by
      rw [AgreeOn, Transformer.refs, List.forall_mem_cons, List.forall_mem_append] at h
      simp only [transform]
      refine (agree_transform d element h.2.1 _ _).bind fun f => ?_
      exact (agree_converterWith _ _).bind fun step => agree_transformNext d next h.2.2 _ target
  | .memberMatch source member next, h, c, target => by
      rw [AgreeOn, Transformer.refs, List.forall_mem_cons, List.forall_mem_cons] at h
      simp only [transform]
      exact (agree_typeObject d member).bind fun object => (agree_converterWith _ _).bind fun step =>
        agree_transformNext d next h.2.2 _ target
  | .instantiate source, h, c, target => by
      simp only [transform]
      exact agree_pure c
  | .parseText source next, h, c, target => by
      rw [AgreeOn, Transformer.refs, List.forall_mem_cons] at h
      simp only [transform]
      exact (agree_parseStep _).bind fun step => agree_transformNext d next h.2 _ target
  | .writeText source next, h, c, target => by
      rw [AgreeOn, Transformer.refs, List.forall_mem_cons] at h
      simp only [transform]
      exact (agree_writeStep source).bind fun step => agree_transformNext d next h.2 _ target

/-- Going on with the next step agrees under the same condition. -/
theorem agree_transformNext (d : Direction) : ∀ (next : Option Transformer),
    AgreeOn byKind byKind' (Transformer.nextRefs next) → ∀ (c : Chain) (target : TypeRef),
    Agree (ctx.transformNext byKind d next c target) (ctx.transformNext byKind' d next c target)
  | none, h, c, target => by
      simp only [transformNext]
      exact agree_pure c
  | some step, h, c, target => by
      rw [Transformer.nextRefs] at h
      simp only [transformNext]
      exact agree_transform d step h c target

/-- So do the branches of a choice. -/
theorem agree_transformBranches (d : Direction) : ∀ (branches : List Transformer),
    AgreeOn byKind byKind' (Transformer.branchRefs branches) → ∀ (target : TypeRef),
    Agree (ctx.transformBranches byKind d branches target)
      (ctx.transformBranches byKind' d branches target)
  | [], _, _ => by
      simp only [transformBranches]
      exact agree_pure []
  | branch :: rest, h, target => by
      rw [AgreeOn, Transformer.branchRefs, List.forall_mem_append] at h
      simp only [transformBranches]
      exact (agree_transform d branch h.1 _ target).bind fun _ =>
        (agree_transformBranches d rest h.2 target).bind fun _ => agree_pure _
end

end Transformers

section Heights

variable {height : TypeRef → Nat} (hh : ctx.graph.IsHeight height)
  (hrecords : ctx.graph.transformsRecords = false)

include hh hrecords

/-- Within any two bounds above the height of a type, its conversions agree. -/
theorem agree_convertWithin {n m : Nat} {t : TypeRef} (hn : height t < n) (hm : height t < m)
    (d : Direction) (c : Chain) :
    Agree (ctx.convertWithin n d c t) (ctx.convertWithin m d c t) := by
  induction n generalizing m t d c with
  | zero => exact absurd hn (Nat.not_lt_zero _)
  | succ n ih =>
      obtain ⟨m, rfl⟩ : ∃ m', m = m' + 1 := ⟨m - 1, by omega⟩
      let element (n : Nat) (d : Direction) (r : TypeRef) : Gen String := do
        let f ← ctx.convertWithin n d .identity r
        return f.toFunction.render
      -- What a type no higher than this one consists of is lower.
      have hbyKind {s : TypeRef} (hs : height s ≤ height t) (d : Direction) (c : Chain) :
          Agree (ctx.convertByKind (element n d) d c s) (ctx.convertByKind (element m d) d c s) := by
        refine agree_convertByKind (fun k hk r hr => ?_) d c
        have hlow := hh.structural hk hr
        exact (ih (by omega) (by omega) d .identity).bind fun _ => agree_pure _
      unfold convertWithin
      cases hx : ctx.graph.transformation? t with
      | none => exact hbyKind (Nat.le_refl _) d c
      | some x =>
          have hrecord := kindHolds_isRecord_of_transformation? hrecords hx
          have hsources : AgreeOn (fun d => ctx.convertByKind (element n d) d)
              (fun d => ctx.convertByKind (element m d) d) x.refs := by
            intro s hs d c
            refine hbyKind ?_ d c
            by_cases hself : s = t
            · rw [hself]
            · exact (hh.referred hrecord hx hs hself).le
          rw [Transformation.refs, AgreeOn, List.forall_mem_cons, List.forall_mem_append] at hsources
          cases d with
          | decode => exact agree_transform .decode x.transformer hsources.2.1 c x.target
          | encode => exact agree_transform .encode x.reverse hsources.2.2 c t

/-! ## Annotations -/

/-- Within any two bounds above the height of a type, its annotations agree. -/
theorem agree_annotateWithin (place : Place) {n m : Nat} {t : TypeRef} (hn : height t < n)
    (hm : height t < m) : Agree (ctx.annotateWithin place n t) (ctx.annotateWithin place m t) := by
  induction n generalizing m t with
  | zero => exact absurd hn (Nat.not_lt_zero _)
  | succ n ih =>
      obtain ⟨m, rfl⟩ : ∃ m', m = m' + 1 := ⟨m - 1, by omega⟩
      have hlower {r : TypeRef} (hr : height r < height t) :
          Agree (ctx.annotateWithin place n r) (ctx.annotateWithin place m r) :=
        ih (by omega) (by omega)
      unfold annotateWithin
      dsimp only
      split
      -- A type with a transformation is annotated as what it is transformed to, which is lower.
      next target htarget =>
        split at htarget
        next x hx =>
          split at htarget
          · cases htarget
          next hne =>
            obtain rfl := Option.some.inj htarget
            have hrecord := kindHolds_isRecord_of_transformation? hrecords hx
            exact hlower (hh.referred hrecord hx List.mem_cons_self hne)
        next => cases htarget
      next =>
        refine agree_kind fun k hk => ?_
        cases k with
        | any => exact (agree_require _).bind fun _ => agree_pure _
        | null | bool | integer | double | text => exact agree_pure _
        | array items =>
            exact (agree_require _).bind fun _ =>
              (hlower (hh.structural hk List.mem_cons_self)).bind fun _ => agree_pure _
        | map values =>
            exact (agree_require _).bind fun _ =>
              (hlower (hh.structural hk List.mem_cons_self)).bind fun _ => agree_pure _
        | record r => exact (agree_typeName t).bind fun _ => agree_pure _
        | enumeration e => exact agree_typeName t
        | union members =>
            have hmember : ∀ r ∈ ctx.graph.nonNullMembers t,
                Agree (ctx.annotateWithin place n r) (ctx.annotateWithin place m r) := by
              intro r hr
              exact hlower (hh.structural hk (mem_of_mem_nonNullMembers hk hr))
            have hoptional (inner : String) : Agree
                (if ctx.graph.isNullable t then do
                  typing "Optional"
                  return "Optional[" ++ inner ++ "]"
                else return inner)
                (if ctx.graph.isNullable t then do
                  typing "Optional"
                  return "Optional[" ++ inner ++ "]"
                else return inner) := by
              split
              · exact (agree_require _).bind fun _ => agree_pure _
              · exact agree_pure inner
            dsimp only
            cases hmembers : ctx.graph.nonNullMembers t with
            | nil => exact agree_pure _
            | cons first rest =>
                rw [hmembers] at hmember
                cases rest with
                | nil => exact (hmember first List.mem_cons_self).bind hoptional
                | cons second rest =>
                    exact (agree_require _).bind fun _ => (agree_mapM hmember).bind fun _ =>
                      (agree_pure _).bind hoptional
        | formatted format =>
            cases format with
            | dateTime => exact (agree_require _).bind fun _ => agree_pure _
            | integerText => exact agree_pure _

end Heights

/-- In an accepted graph without transformed records, no conversion and no annotation of a type is
refused as endless, whatever it starts from and has recorded, and at least `size` nested types leave
it as it is. -/
theorem generation_terminates {types : Array Node} {topLevels : List TopLevel} {g : TypeGraph}
    (hmake : make types topLevels = .ok g) (hrecords : g.transformsRecords = false)
    (names : NameTable) (features : Features) {t : TypeRef} (ht : t.index < g.size) :
    let ctx : Context := ⟨g, names, features⟩
    (∀ (d : Direction) (c : Chain),
      (∀ s u, ((ctx.convert d c t).run.run s).1 ≠ .error (.endless u)) ∧
        ∀ n, g.size ≤ n → ctx.convertWithin n d c t = ctx.convert d c t) ∧
      ∀ place : Place, (∀ s u, ((ctx.annotate place t).run.run s).1 ≠ .error (.endless u)) ∧
        ∀ n, g.size ≤ n → ctx.annotateWithin place n t = ctx.annotate place t := by
  intro ctx
  obtain ⟨height, hh⟩ := exists_isHeight_of_make hmake
  have hbound := hh.bound ht
  have hdouble : height t < 2 * g.size := by omega
  refine ⟨fun d c => ⟨?_, fun n hn => ?_⟩, fun place => ⟨?_, fun n hn => ?_⟩⟩
  · exact (agree_convertWithin hh hrecords hdouble hdouble d c).ends
  · exact (agree_convertWithin hh hrecords hdouble (by omega) d c).eq
  · exact (agree_annotateWithin hh hrecords place hbound hbound).ends
  · exact (agree_annotateWithin hh hrecords place hbound (by omega)).eq

/-- A tree, whose records contain trees, is decoded and annotated by way of any seven nested types
and more. -/
theorem generation_terminates_tree :
    let ctx : Context := ⟨treeGraph, NameTable.assign treeGraph .standard, Options.standard.features⟩
    make treeGraph.types treeGraph.topLevels = .ok treeGraph ∧
      treeGraph.transformsRecords = false ∧ 4 < treeGraph.size ∧
      (∀ n, 7 ≤ n → ctx.convertWithin n .decode .identity ⟨4⟩ = ctx.convert .decode .identity ⟨4⟩) ∧
      ∀ n, 7 ≤ n → ctx.annotateWithin ⟨[], true⟩ n ⟨4⟩ = ctx.annotate ⟨[], true⟩ ⟨4⟩ := by
  intro ctx
  obtain ⟨hconvert, hannotate⟩ := generation_terminates make_treeGraph rfl
    (NameTable.assign treeGraph .standard) Options.standard.features (t := ⟨4⟩) (by decide)
  exact ⟨make_treeGraph, rfl, by decide, (hconvert .decode .identity).2, (hannotate ⟨[], true⟩).2⟩

end Context

end TypedJson.Code
