import TypedJson.Proofs.Value.Termination

/-!
# Tasks of a conversion

Converting a value of a type leads to conversions of other types: those that its kind refers to, and
those that its transformer names at any depth. `Leads` follows these tasks whatever the values are,
so that what holds along it holds of every nested conversion. `Accepted.inRange_run` is the first
such property: no task leaves the graph.
-/

namespace TypedJson

/-- Something to convert values by. -/
inductive Task where
  /-- The conversion of a type. -/
  | type (direction : Direction) (t : TypeRef)
  /-- The conversion by the rules of the kind of a type. -/
  | kind (direction : Direction) (t : TypeRef)
  /-- The conversion by a transformer that leads to a target. -/
  | transformer (direction : Direction) (x : Transformer) (target : TypeRef)

/-- Every type that the task refers to is one of the graph. -/
def Task.InRange (g : TypeGraph) : Task → Prop
  | .type _ t => t.index < g.size
  | .kind _ t => t.index < g.size
  | .transformer _ x target => (∀ r ∈ x.refs, r.index < g.size) ∧ target.index < g.size

namespace TypeGraph

variable {g : TypeGraph} {task task' : Task}

/-- The conversion of a value by a task, by way of at most `depth` further types that lie within one
another. -/
def perform (g : TypeGraph) (depth : Nat) : Task → Value → Outcome Value
  | .type direction t, v => g.convertWithin depth direction t v
  | .kind direction t, v => g.convertByKind direction (g.convertWithin depth direction) v t
  | .transformer direction x target, v =>
    g.transformWith (fun d => g.convertByKind d (g.convertWithin depth d)) direction x v target

/-- The second task is part of the first one for some value: the conversion of a property, an
element or a member, a step of a transformer, or a step that stands inside one or behind it. -/
inductive Leads (g : TypeGraph) : Task → Task → Prop
  | rules {d t} : g.transformation? t = none → Leads g (.type d t) (.kind d t)
  | decoding {t x} : g.transformation? t = some x →
      Leads g (.type .decode t) (.transformer .decode x.transformer x.target)
  | encoding {t x} : g.transformation? t = some x →
      Leads g (.type .encode t) (.transformer .encode x.reverse t)
  | part {d t k r} : g.kind? t = some k → r ∈ kindRefs k → Leads g (.kind d t) (.type d r)
  | branch {d source branches x target} : x ∈ branches →
      Leads g (.transformer d (.choice source branches) target) (.transformer d x target)
  | decode {d source next target} :
      Leads g (.transformer d (.decode source next) target) (.kind .decode source)
  | encode {d source target} :
      Leads g (.transformer d (.encode source) target) (.kind .encode source)
  | element {d source container x next target} :
      Leads g (.transformer d (.elements source container x next) target)
        (.transformer d x (g.elementTarget target container))
  | next {d x y target} : x.next? = some y →
      Leads g (.transformer d x target) (.transformer d y target)

/-- The type that a text is parsed into: what the next step takes, or the target behind the last
one. -/
def parsedType (next : Option Transformer) (target : TypeRef) : TypeRef :=
  match next with
  | some step => step.source
  | none => target

/-! ## References of tasks -/

/-- The elements of a target are in the graph if the target is. -/
theorem Accepted.elementTarget_lt (hg : g.Accepted) {target : TypeRef} (h : target.index < g.size)
    (container : Container) : (g.elementTarget target container).index < g.size := by
  obtain ⟨k, hk⟩ := hg.exists_elementTarget (kind?_isSome h) container
  exact index_lt_of_kind? hk

/-- A text is parsed into a type of the graph. -/
theorem inRange_parsed {d : Direction} {source target : TypeRef} {next : Option Transformer}
    (h : (Task.transformer d (.parseText source next) target).InRange g) :
    (parsedType next target).index < g.size := by
  cases next with
  | none => exact h.2
  | some step => exact h.1 _ (List.mem_cons_of_mem _ (source_mem_refs step))

/-- What a task in the graph leads to is in the graph. -/
theorem Accepted.inRange_leads (hg : g.Accepted) (h : task.InRange g) (hl : g.Leads task task') :
    task'.InRange g := by
  cases hl with
  | rules => exact h
  | decoding hx =>
      have hrefs := hg.transformed hx
      rw [Transformation.refs, List.forall_mem_cons, List.forall_mem_append] at hrefs
      exact ⟨hrefs.2.1, hrefs.1⟩
  | encoding hx =>
      have hrefs := hg.transformed hx
      rw [Transformation.refs, List.forall_mem_cons, List.forall_mem_append] at hrefs
      exact ⟨hrefs.2.2, h⟩
  | part hk hr => exact hg.refs hk _ hr
  | branch hx => exact ⟨fun r hr => h.1 r (List.mem_cons_of_mem _ (mem_branchRefs hx hr)), h.2⟩
  | decode => exact h.1 _ List.mem_cons_self
  | encode => exact h.1 _ List.mem_cons_self
  | element =>
      refine ⟨fun r hr => h.1 r ?_, hg.elementTarget_lt h.2 _⟩
      rw [Transformer.refs]
      exact List.mem_cons_of_mem _ (List.mem_append_left _ hr)
  | next hy => exact ⟨fun r hr => h.1 r (mem_refs_of_next? hy hr), h.2⟩

/-- So is all that it leads to by way of others. -/
theorem Accepted.inRange_run (hg : g.Accepted) (h : task.InRange g)
    (hrun : Relation.ReflTransGen g.Leads task task') : task'.InRange g := by
  induction hrun with
  | refl => exact h
  | tail _ hl ih => exact hg.inRange_leads ih hl

end TypeGraph

end TypedJson
