import TypedJson.Proofs.Code.Coverage
import TypedJson.Proofs.Code.Refusals
import TypedJson.Proofs.Graph.Strictness
import TypedJson.Proofs.Value.Locality

/-!
# What writing code looks up

Code for a task is written from the same lookups as values are converted by it, and an annotation
follows the targets of transformations instead (`Annotates`). Both are the same in any other graph
that gives these lookups the same types. `lookups_enclosed` concludes that no operation looks up a
reference outside of a graph: accepting it, which range-checks every reference first, and afterwards
converting values, naming types and writing a module.
-/

namespace TypedJson

open TypeGraph

namespace Code.Context

variable {ctx : Context} {g' : TypeGraph} {task : Task} {t : TypeRef}

/-! ## Conversions -/

/-- The context with other types in place of its own. -/
def withGraph (ctx : Context) (g' : TypeGraph) : Context :=
  ⟨g', ctx.names, ctx.features⟩

/-- The kind of a type that is the same in both graphs. -/
theorem kind_congr (h : g'.node? t = ctx.graph.node? t) : (ctx.withGraph g').kind t = ctx.kind t := by
  unfold kind withGraph
  rw [kind?_congr h]

/-- Code by kind is the same for both graphs if the lookup and the code of elements and members
are. -/
theorem convertByKind_congr {element element' : TypeRef → Gen String} {d : Direction} {c : Chain}
    (ht : g'.node? t = ctx.graph.node? t)
    (h : ∀ k, ctx.graph.kind? t = some k → ∀ r ∈ structuralRefs k, element' r = element r) :
    (ctx.withGraph g').convertByKind element' d c t = ctx.convertByKind element d c t := by
  unfold convertByKind
  rw [kind_congr ht]
  unfold kind
  cases hk : ctx.graph.kind? t with
  | none => rfl
  | some k =>
      simp only [pure_bind]
      have h := h k hk
      cases k with
      | array items =>
          dsimp only
          rw [h items List.mem_cons_self]
      | map values =>
          dsimp only
          rw [h values List.mem_cons_self]
      | union members =>
          have hmembers : members.mapM element' = members.mapM element := mapM_congr h
          dsimp only
          rw [hmembers]
      | formatted format => cases format <;> rfl
      | any | null | bool | integer | double | text | record | enumeration => rfl

section Transformers

variable {byKind byKind' : Direction → Chain → TypeRef → Gen Chain}

mutual
/-- Code for a transformer is the same for both graphs if the code by kind is. -/
theorem transform_congr
    (hkind : ∀ d s, ctx.graph.Sees g' (.kind d s) → ∀ c, byKind' d c s = byKind d c s)
    (d : Direction) : ∀ (x : Transformer) (target : TypeRef),
    ctx.graph.Sees g' (.transformer d x target) → ∀ c,
      (ctx.withGraph g').transform byKind' d x c target = ctx.transform byKind d x c target
  | .choice source branches, target, h, c => by
      have hbranches := transformBranches_congr hkind d branches target fun x hx => h.leads (.branch hx)
      simp only [transform, hbranches]
  | .decode source next, target, h, c => by
      have hnext := transformNext_congr hkind d next target fun y hy => h.leads (.next hy)
      simp only [transform, hkind .decode source (h.leads .decode), hnext]
  | .encode source, target, h, c => by
      simp only [transform, hkind .encode source (h.leads .encode)]
  | .elements source container element next, target, h, c => by
      have htarget : elementTarget g' target container = elementTarget ctx.graph target container := by
        simp only [elementTarget, kind?_congr (h.own target List.mem_cons_self)]
      have helement := transform_congr hkind d element (elementTarget ctx.graph target container) <| by
        rw [elementTarget_eq]
        exact h.leads .element
      have hnext := transformNext_congr hkind d next target fun y hy => h.leads (.next hy)
      simp only [transform, show elementTarget (ctx.withGraph g').graph target container = _ from
        htarget, helement, hnext]
  | .memberMatch source member next, target, h, c => by
      have hobject : (ctx.withGraph g').typeObject d member = ctx.typeObject d member := by
        unfold typeObject
        rw [kind_congr (h.own member List.mem_cons_self)]
        rfl
      have hnext := transformNext_congr hkind d next target fun y hy => h.leads (.next hy)
      simp only [transform, hobject, hnext]
  | .instantiate source, target, h, c => by
      simp only [transform]
  | .parseText source next, target, h, c => by
      have hparse : (ctx.withGraph g').parseStep (parsedType next target) =
          ctx.parseStep (parsedType next target) := by
        unfold parseStep
        rw [kind_congr (h.own (parsedType next target) List.mem_cons_self)]
        rfl
      have hnext := transformNext_congr hkind d next target fun y hy => h.leads (.next hy)
      simp only [transform, hnext]
      exact congrArg (· >>= _) hparse
  | .writeText source next, target, h, c => by
      have hwrite : (ctx.withGraph g').writeStep source = ctx.writeStep source := by
        unfold writeStep
        rw [kind_congr (h.own source List.mem_cons_self)]
        rfl
      have hnext := transformNext_congr hkind d next target fun y hy => h.leads (.next hy)
      simp only [transform, hwrite, hnext]

/-- So is the code for the steps behind a step. -/
theorem transformNext_congr
    (hkind : ∀ d s, ctx.graph.Sees g' (.kind d s) → ∀ c, byKind' d c s = byKind d c s)
    (d : Direction) : ∀ (next : Option Transformer) (target : TypeRef),
    (∀ y, next = some y → ctx.graph.Sees g' (.transformer d y target)) → ∀ c,
      (ctx.withGraph g').transformNext byKind' d next c target =
        ctx.transformNext byKind d next c target
  | none, target, h, c => by
      simp only [transformNext]
  | some step, target, h, c => by
      simp only [transformNext]
      exact transform_congr hkind d step target (h step rfl) c

/-- So are the functions for the branches of a choice. -/
theorem transformBranches_congr
    (hkind : ∀ d s, ctx.graph.Sees g' (.kind d s) → ∀ c, byKind' d c s = byKind d c s)
    (d : Direction) : ∀ (branches : List Transformer) (target : TypeRef),
    (∀ x ∈ branches, ctx.graph.Sees g' (.transformer d x target)) →
      (ctx.withGraph g').transformBranches byKind' d branches target =
        ctx.transformBranches byKind d branches target
  | [], target, h => by
      simp only [transformBranches]
  | branch :: rest, target, h => by
      obtain ⟨hbranch, hrest⟩ := List.forall_mem_cons.1 h
      have hfirst := transform_congr hkind d branch target hbranch
      have hothers := transformBranches_congr hkind d rest target hrest
      simp only [transformBranches, hfirst, hothers]
end

end Transformers

/-- Within any bound, the code for a task is the same for graphs that give it the same lookups. -/
theorem generate_congr (h : ctx.graph.Sees g' task) (n : Nat) (c : Chain) :
    (ctx.withGraph g').generate n task c = ctx.generate n task c := by
  -- A type within a bound is written by kinds within a smaller one, and kinds by types within it.
  have hkind {n : Nat} (htype : ∀ d r, ctx.graph.Sees g' (.type d r) → ∀ c,
      (ctx.withGraph g').convertWithin n d c r = ctx.convertWithin n d c r) (d : Direction)
      (s : TypeRef) (hs : ctx.graph.Sees g' (.kind d s)) (c : Chain) :
      (ctx.withGraph g').kindWithin n d c s = ctx.kindWithin n d c s := by
    refine convertByKind_congr hs.kind fun k hk r hr => ?_
    unfold elementWithin
    rw [htype d r (hs.leads (.part hk (mem_kindRefs hr)))]
  have htype (n : Nat) (d : Direction) (r : TypeRef) (hr : ctx.graph.Sees g' (.type d r))
      (c : Chain) : (ctx.withGraph g').convertWithin n d c r = ctx.convertWithin n d c r := by
    induction n generalizing d r c with
    | zero => rfl
    | succ n ih =>
        unfold convertWithin
        rw [show (ctx.withGraph g').graph.transformation? r = _ from
          transformation?_congr (hr.own r List.mem_cons_self)]
        cases hx : ctx.graph.transformation? r with
        | none => exact hkind ih d r (hr.leads (.rules hx)) c
        | some x =>
            cases d with
            | decode =>
                exact transform_congr (hkind ih) .decode x.transformer x.target
                  (hr.leads (.decoding hx)) c
            | encode =>
                exact transform_congr (hkind ih) .encode x.reverse r (hr.leads (.encoding hx)) c
  cases task with
  | type d t => exact htype n d t h c
  | kind d t => exact hkind (htype n) d t h c
  | transformer d x target => exact transform_congr (hkind (htype n)) d x target h c

end Code.Context

/-! ## Annotations -/

namespace TypeGraph

/-- Annotating the first type may lead to annotating the second one: what it is transformed to, or
an element or a member of it. -/
inductive Annotates (g : TypeGraph) : TypeRef → TypeRef → Prop
  | target {t x} : g.transformation? t = some x → x.target ≠ t → Annotates g t x.target
  | part {t k r} : g.kind? t = some k → r ∈ structuralRefs k → Annotates g t r

/-- Every lookup of the annotation gives the same in both graphs. -/
def SeesAnnotation (g g' : TypeGraph) (t : TypeRef) : Prop :=
  ∀ s, Relation.ReflTransGen g.Annotates t s → ∀ r ∈ g.nullLookups s, g'.node? r = g.node? r

variable {g g' : TypeGraph} {t : TypeRef}

/-- What an annotation leads to is seen with it. -/
theorem SeesAnnotation.leads (h : g.SeesAnnotation g' t) {s : TypeRef} (hl : g.Annotates t s) :
    g.SeesAnnotation g' s := by
  intro s' hrun
  exact h s' (.head hl hrun)

/-- The annotated type is the same. -/
theorem SeesAnnotation.node (h : g.SeesAnnotation g' t) : g'.node? t = g.node? t := by
  refine h t .refl t ?_
  unfold nullLookups
  split <;> exact List.mem_cons_self

/-- In an accepted graph, annotating leads to types of the graph. -/
theorem Accepted.annotates_lt (hg : g.Accepted) (ht : t.index < g.size) {s : TypeRef}
    (hrun : Relation.ReflTransGen g.Annotates t s) : s.index < g.size := by
  induction hrun with
  | refl => exact ht
  | tail _ hl ih =>
      cases hl with
      | target hx hne => exact hg.transformed hx _ List.mem_cons_self
      | part hk hr => exact hg.refs hk _ (mem_kindRefs hr)

end TypeGraph

namespace Code.Context

variable {ctx : Context} {g' : TypeGraph} {t : TypeRef}

/-- Within any bound, an annotation is the same for graphs that give it the same lookups. -/
theorem annotateWithin_congr (h : ctx.graph.SeesAnnotation g' t) (place : Place) (n : Nat) :
    (ctx.withGraph g').annotateWithin place n t = ctx.annotateWithin place n t := by
  induction n generalizing t with
  | zero => rfl
  | succ n ih =>
      have hmembers : (ctx.withGraph g').graph.nonNullMembers t = ctx.graph.nonNullMembers t :=
        nonNullMembers_congr (h t .refl)
      have hnullable : (ctx.withGraph g').graph.isNullable t = ctx.graph.isNullable t :=
        isNullable_congr (h t .refl)
      unfold annotateWithin
      rw [show (ctx.withGraph g').graph.transformation? t = _ from transformation?_congr h.node,
        kind_congr h.node, hmembers, hnullable]
      dsimp only
      split
      -- A type with a transformation is annotated as what it is transformed to.
      next target htarget =>
        refine ih (h.leads ?_)
        split at htarget
        next x hx =>
          split at htarget
          · cases htarget
          next hne =>
            cases htarget
            exact .target hx hne
        next => cases htarget
      next =>
        unfold kind
        cases hk : ctx.graph.kind? t with
        | none => rfl
        | some k =>
            have hpart (r : TypeRef) (hr : r ∈ structuralRefs k) :
                (ctx.withGraph g').annotateWithin place n r = ctx.annotateWithin place n r :=
              ih (h.leads (.part hk hr))
            simp only [pure_bind]
            cases k with
            | array items =>
                dsimp only
                rw [hpart items List.mem_cons_self]
            | map values =>
                dsimp only
                rw [hpart values List.mem_cons_self]
            | union members =>
                have hmember (r : TypeRef) (hr : r ∈ ctx.graph.nonNullMembers t) :
                    (ctx.withGraph g').annotateWithin place n r = ctx.annotateWithin place n r :=
                  hpart r (mem_of_mem_nonNullMembers hk hr)
                -- Null is no part of the union that is written, and one member alone is no union.
                cases hothers : ctx.graph.nonNullMembers t with
                | nil => rfl
                | cons first rest =>
                    rw [hothers] at hmember
                    cases rest with
                    | nil =>
                        dsimp only
                        rw [hmember first List.mem_cons_self]
                    | cons second rest =>
                        dsimp only
                        rw [mapM_congr hmember]
            | formatted format => cases format <;> rfl
            | any | null | bool | integer | double | text | record | enumeration => rfl

end Code.Context

/-! ## No lookup outside -/

namespace Code

variable {g : TypeGraph}

/-- Types are named by looking them up, one behind the other. -/
theorem NameTable.nameTypes_congr {g' : TypeGraph} {ts : List TypeRef}
    (h : ∀ t ∈ ts, g'.node? t = g.node? t) (grammar : Naming.Grammar) (ns : Naming.Namespace) :
    nameTypes grammar g' ns ts = nameTypes grammar g ns ts := by
  induction ts generalizing ns with
  | nil => rfl
  | cons t rest ih =>
      obtain ⟨ht, hrest⟩ := List.forall_mem_cons.1 h
      unfold nameTypes
      rw [kind?_congr ht]
      simp only [ih hrest]

/-- The types that a graph lists are its own. -/
theorem index_lt_of_listed {t : TypeRef}
    (h : t ∈ g.refs ++ g.namedTypes ++ g.records ++ g.enumerations) : t.index < g.size := by
  simp only [List.mem_append, namedTypes, records, enumerations, List.mem_filter] at h
  rcases h with ((h | ⟨h, -⟩) | ⟨h, -⟩) | ⟨h, -⟩ <;> exact index_lt_of_mem_refs h

/-- A module for an accepted graph is not refused at a reference that denotes no type. -/
theorem renderModule_ne_dangling (hg : g.Accepted) (o : Options) (t : TypeRef) :
    renderModule g o ≠ .error (.dangling t) := by
  let ctx : Context := ⟨g, NameTable.assign g o, o.features⟩
  have hnames := NameTable.complete_assign g o
  have hp (e : GenerateError) (he : e.isUnsupported) : e ≠ .dangling t := by
    rintro rfl
    cases he
  have hsteps : Gen.RefusedOnly (fun e => e ≠ .dangling t) (ctx.moduleSteps o) := by
    refine Context.refusedOnly_moduleSteps hnames (fun place s hs => ?_) (fun _ d expression s hs => ?_)
      hg (NameTable.apart_assign g o)
    · refine (Context.refusedOnly_annotateWithin hg hnames place hs).imp fun _ e _ he => ?_
      rintro rfl
      cases he
    · have hconvert : Gen.RefusedOnly (fun e => e ≠ .dangling t) (ctx.convert d (.ofText expression) s) :=
        Context.refusedOnly_convertWithin hg hnames hp (fun s heq => by cases heq) hs d _
      refine hconvert.bind fun c hc => ?_
      obtain ⟨links, hlinks⟩ := Context.extends_convertWithin (NameTable.apart_assign g o) hc
      exact Gen.refusedOnly_lift ⟨_, Chain.toValue_eq_ok hlinks.isFunction⟩
  intro h
  exact hsteps .empty _ (moduleSteps_of_renderNamed_error h) rfl

/-- Operations on the graph look up types that it has. -/
structure Enclosed (g : TypeGraph) : Prop where
  /-- The search for cycles, naming and writing go through lists of types. -/
  listed : ∀ t ∈ g.refs ++ g.namedTypes ++ g.records ++ g.enumerations, t.index < g.size
  /-- Naming looks up nothing else. -/
  names {g' : TypeGraph} : (∀ t ∈ g.namedTypes, g'.node? t = g.node? t) → ∀ grammar ns,
    NameTable.nameTypes grammar g' ns g.namedTypes = NameTable.nameTypes grammar g ns g.namedTypes
  /-- Writing converts and annotates the types of top-levels and properties. -/
  converted : ∀ t, IsConverted g t → t.index < g.size
  /-- Converting a type, and writing code for it, looks up these types, in either direction. -/
  tasks {d : Direction} {t : TypeRef} {task : Task} : t.index < g.size →
    Relation.ReflTransGen g.Leads (.type d t) task → ∀ r ∈ g.lookups task, r.index < g.size
  /-- Annotating a type, and telling whether it is nullable, looks up these types. -/
  annotations {t s : TypeRef} : t.index < g.size → Relation.ReflTransGen g.Annotates t s →
    ∀ r ∈ g.nullLookups s, r.index < g.size
  /-- There are no other lookups in a conversion: -/
  performs {g' : TypeGraph} {task : Task} : g.Sees g' task → ∀ n v,
    g'.perform n task v = g.perform n task v
  /-- nor in its code, -/
  generates {ctx : Context} {g' : TypeGraph} {task : Task} : ctx.graph = g → g.Sees g' task →
    ∀ n c, (ctx.withGraph g').generate n task c = ctx.generate n task c
  /-- nor in an annotation. -/
  annotates {ctx : Context} {g' : TypeGraph} {t : TypeRef} : ctx.graph = g →
    g.SeesAnnotation g' t → ∀ place n,
      (ctx.withGraph g').annotateWithin place n t = ctx.annotateWithin place n t
  /-- No nested conversion stops at a reference that denotes no type, its failure hidden or not. -/
  reaches {d : Direction} {t : TypeRef} {task : Task} : t.index < g.size →
    Relation.ReflTransGen g.Leads (.type d t) task → ∀ n v u,
      g.perform n task v ≠ .error (.dangling u)
  /-- No module is refused at one, whatever the options. -/
  renders : ∀ o t, renderModule g o ≠ .error (.dangling t)

/-- Accepting types and top-levels looks up references that denote types only, and so do all
operations on an accepted graph. -/
theorem lookups_enclosed (types : Array Node) (topLevels : List TopLevel) :
    strictMake types topLevels = Strict.lift (make types topLevels) ∧
      ∀ g, make types topLevels = .ok g → Enclosed g := by
  refine ⟨strictMake_eq types topLevels, fun g hmake => ?_⟩
  have hg := accepted_of_make hmake
  have hrun {d : Direction} {t : TypeRef} {task : Task} (ht : t.index < g.size)
      (h : Relation.ReflTransGen g.Leads (.type d t) task) : task.InRange g := by
    have htask : (Task.type d t).InRange g := ht
    exact hg.inRange_run htask h
  refine ⟨fun t ht => index_lt_of_listed ht, NameTable.nameTypes_congr, fun t ht => ?_,
    fun ht h => hg.lookups_lt (hrun ht h), fun ht h => hg.nullLookups_lt (hg.annotates_lt ht h), fun h => h.perform, ?_, ?_,
    fun ht h => hg.perform_ne_dangling (hrun ht h), renderModule_ne_dangling hg⟩
  · rcases ht with ⟨top, htop, rfl⟩ | ⟨s, r, hk, ht⟩
    · exact hg.topLevels top htop
    · exact hg.refs hk t ht
  · rintro ctx g' task rfl h
    exact Context.generate_congr h
  · rintro ctx g' t rfl h
    exact Context.annotateWithin_congr h

/-- Encoding a tree looks up the tree itself, the types of its properties, and the two members of the
optional one; the transformation of its count leads to two further types. -/
theorem lookups_enclosed_tree :
    strictMake treeGraph.types treeGraph.topLevels = Strict.lift (.ok treeGraph) ∧
      treeGraph.lookups (.kind .encode ⟨6⟩) = [⟨6⟩, ⟨3⟩, ⟨4⟩, ⟨0⟩, ⟨6⟩, ⟨5⟩] ∧
      (∀ r ∈ treeGraph.lookups (.kind .encode ⟨6⟩), r.index < treeGraph.size) ∧
      ∀ v, treeGraph.perform 3 (.type .decode ⟨3⟩) v ≠ .error (.dangling ⟨7⟩) := by
  obtain ⟨hstrict, henclosed⟩ := lookups_enclosed treeGraph.types treeGraph.topLevels
  have hg := henclosed treeGraph make_treeGraph
  rw [make_treeGraph] at hstrict
  have hkind : treeGraph.Leads (.type .encode ⟨6⟩) (.kind .encode ⟨6⟩) := .rules rfl
  exact ⟨hstrict, rfl, hg.tasks (by decide) (.single hkind),
    fun v => hg.reaches (by decide) .refl 3 v ⟨7⟩⟩

end Code

end TypedJson
