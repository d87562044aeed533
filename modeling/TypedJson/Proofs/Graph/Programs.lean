import TypedJson.Proofs.Graph.Growth
import TypedJson.Proofs.Graph.Reordering

/-!
# Programs that build graphs

A program makes one call after the other and passes on the references that calls have returned.
`Disciplined` says what it has to keep to, in terms of its calls and their answers alone, and
`exists_build_of_disciplined` that its graph is accepted then, and has what the calls asked for. One
call keeps the builder consistent with the steps so far (`Builder.Consistent.perform`), so that a
run does.
-/

namespace TypedJson

namespace Builder

/-! ## Calls -/

/-- The kinds that a builder has a call for, integers in texts apart. -/
inductive Primitive where
  | any
  | null
  | bool
  | integer
  | double
  | text
  | dateTime
  deriving DecidableEq, Repr

/-- The kind that is asked for. -/
def Primitive.kind : Primitive → Kind
  | .any => .any
  | .null => .null
  | .bool => .bool
  | .integer => .integer
  | .double => .double
  | .text => .text
  | .dateTime => .formatted .dateTime

/-- The kinds are simple. -/
theorem Primitive.isSimple_kind (p : Primitive) : p.kind.isSimple = true := by
  cases p <;> rfl

/-- None of them is that of integers in texts. -/
theorem Primitive.kind_ne (p : Primitive) : p.kind ≠ .formatted .integerText := by
  cases p <;> decide

/-- A call of a builder. -/
inductive Call where
  | primitive (p : Primitive)
  | integerText
  | array (items : TypeRef)
  | map (values : TypeRef)
  | declareRecord (name : String)
  | record (name : String) (properties : List (String × TypeRef))
  | addProperty (r : TypeRef) (name : String) (type : TypeRef)
  | enumeration (name : String) (cases : List String)
  | union (members : List TypeRef)
  | nullable (type : TypeRef)
  | describe (type : TypeRef) (property : Option String) (text : String)
  | setTransformation (type : TypeRef) (x : Transformation)
  | topLevel (name : String) (type : TypeRef)

namespace Call

/-- The call adds a record. -/
def addsRecord : Call → Bool
  | .declareRecord _ | .record _ _ => true
  | _ => false

/-- The call adds a union. -/
def addsUnion : Call → Bool
  | .union _ | .nullable _ => true
  | _ => false

/-- The properties that the call adds to a type. -/
def properties (t : TypeRef) : Call → List Property
  | .addProperty r name type => if r = t then [⟨name, type, none⟩] else []
  | _ => []

/-- The top-levels that the call adds. -/
def topLevels : Call → List TopLevel
  | .topLevel name type => [⟨name, type⟩]
  | _ => []

end Call

/-- A call and its answer: a reference, if the call is one for a type, or a refusal. -/
structure Step where
  call : Call
  answer : Except GraphError (Option TypeRef)

namespace Step

/-- The reference that was returned. -/
def returned? (step : Step) : Option TypeRef :=
  match step.answer with
  | .ok t => t
  | .error _ => none

/-- The references that were returned. -/
def returned (steps : List Step) : List TypeRef :=
  steps.filterMap returned?

/-- The properties that were added to a type. -/
def added (t : TypeRef) (steps : List Step) : List Property :=
  steps.flatMap fun step => step.call.properties t

/-- The top-levels that were added. -/
def topLevels (steps : List Step) : List TopLevel :=
  steps.flatMap fun step => step.call.topLevels

end Step

/-- Answer with the reference of a type. -/
def answer (result : TypeRef × Builder) : Except GraphError (Option TypeRef) × Builder :=
  (.ok (some result.1), result.2)

/-- The answer to a call, and the builder after it. -/
def perform (b : Builder) : Call → Except GraphError (Option TypeRef) × Builder
  | .primitive p => answer (b.primitive p.kind)
  | .integerText => answer b.integerText
  | .array items => answer (b.push (.array items))
  | .map values => answer (b.push (.map values))
  | .declareRecord name => answer (b.declareRecord name)
  | .record name properties => answer (b.record name properties)
  | .addProperty r name type =>
    match b.addProperty r name type with
    | .ok b => (.ok none, b)
    | .error e => (.error e, b)
  | .enumeration name cases => answer (b.enumeration name cases)
  | .union members => answer (b.union members)
  | .nullable type => answer (b.nullable type)
  | .describe type property text => (.ok none, b.describe type property text)
  | .setTransformation type x => (.ok none, b.setTransformation type x)
  | .topLevel name type => (.ok none, b.topLevel name type)

/-- The steps of a program, and the builder at its end. -/
def run (b : Builder) : List Call → List Step × Builder
  | [] => ([], b)
  | call :: rest =>
    let (answer, b) := b.perform call
    let (steps, b) := b.run rest
    (⟨call, answer⟩ :: steps, b)

/-! ## Discipline -/

open Step (returned added)

/-- The call passes references that have been returned. It adds properties to records only, makes
unions of at least one type, none of them a union, and gives no type a transformation. -/
def Allowed (earlier : List Step) : Call → Prop
  | .primitive _ | .integerText | .declareRecord _ | .enumeration _ _ => True
  | .array t | .map t | .describe t _ _ | .topLevel _ t => t ∈ returned earlier
  | .record _ properties => ∀ p ∈ properties, p.2 ∈ returned earlier
  | .addProperty r _ type =>
    r ∈ returned (earlier.filter fun step => step.call.addsRecord) ∧ type ∈ returned earlier
  | .union members => members ≠ [] ∧ ∀ m ∈ members, m ∈ returned earlier ∧
    m ∉ returned (earlier.filter fun step => step.call.addsUnion)
  | .nullable t => t ∈ returned earlier ∧
    t ∉ returned (earlier.filter fun step => step.call.addsUnion)
  | .setTransformation _ _ => False

/-- Each of the steps is allowed behind those before it. -/
def AllowedFrom (earlier : List Step) : List Step → Prop
  | [] => True
  | step :: rest => Allowed earlier step.call ∧ AllowedFrom (earlier ++ [step]) rest

/-- The steps are allowed, and add at least one top-level and no two of one name. -/
structure Disciplined (steps : List Step) : Prop where
  allowed : AllowedFrom [] steps
  nonempty : Step.topLevels steps ≠ []
  named : ((Step.topLevels steps).map TopLevel.name).Nodup

/-- Whether a call is allowed is seen from the references that earlier calls returned. -/
instance (earlier : List Step) : (call : Call) → Decidable (Allowed earlier call)
  | .primitive _ | .integerText | .declareRecord _ | .enumeration _ _ =>
    inferInstanceAs (Decidable True)
  | .array t | .map t | .describe t _ _ | .topLevel _ t =>
    inferInstanceAs (Decidable (t ∈ returned earlier))
  | .record _ properties => inferInstanceAs (Decidable (∀ p ∈ properties, p.2 ∈ returned earlier))
  | .addProperty _ _ _ | .union _ | .nullable _ => inferInstanceAs (Decidable (_ ∧ _))
  | .setTransformation _ _ => inferInstanceAs (Decidable False)

/-- Steps are decided one behind the other. -/
instance decidableAllowedFrom (earlier : List Step) : (steps : List Step) →
    Decidable (AllowedFrom earlier steps)
  | [] => inferInstanceAs (Decidable True)
  | step :: rest =>
    have := decidableAllowedFrom (earlier ++ [step]) rest
    inferInstanceAs (Decidable (_ ∧ _))

/-- Discipline is decided by its three parts. -/
instance (steps : List Step) : Decidable (Disciplined steps) :=
  decidable_of_iff (AllowedFrom [] steps ∧ Step.topLevels steps ≠ [] ∧
      ((Step.topLevels steps).map TopLevel.name).Nodup)
    ⟨fun h => ⟨h.1, h.2.1, h.2.2⟩, fun h => ⟨h.allowed, h.nonempty, h.named⟩⟩

end Builder

/-- A reference denotes the type that a call asked for, with more properties if it is a record, up
to descriptions and the order of union members. -/
def TypeGraph.Provides (g : TypeGraph) (more : List Property) (t : TypeRef) : Builder.Call → Prop
  | .primitive p => g.bare? t = some ⟨p.kind, none⟩
  | .integerText => ∃ text integer, g.bare? text = some ⟨.text, none⟩ ∧
    g.bare? integer = some ⟨.integer, none⟩ ∧
    g.bare? t =
      some ⟨.formatted .integerText, some (Builder.integerTextTransformation text integer)⟩
  | .array items => g.bare? t = some ⟨.array items, none⟩
  | .map values => g.bare? t = some ⟨.map values, none⟩
  | .declareRecord name => g.bare? t = some ⟨.record ⟨name, more, none⟩, none⟩
  | .record name properties =>
    g.bare? t =
      some ⟨.record ⟨name, properties.map (fun p => ⟨p.1, p.2, none⟩) ++ more, none⟩, none⟩
  | .enumeration name cases => g.bare? t = some ⟨.enumeration ⟨name, cases, none⟩, none⟩
  | .union members => ∃ ms, ms.Perm members ∧ g.bare? t = some ⟨.union ms, none⟩
  | .nullable type => ∃ null ms, g.bare? null = some ⟨.null, none⟩ ∧ ms.Perm [null, type] ∧
    g.bare? t = some ⟨.union ms, none⟩
  | .addProperty _ _ _ | .describe _ _ _ | .setTransformation _ _ | .topLevel _ _ => False

namespace TypeGraph

variable {g g' : TypeGraph} {t : TypeRef} {call : Builder.Call} {more : List Property}

/-- What a call asked for is there, as whatever kind. -/
theorem Provides.exists_bare? (h : g.Provides more t call) : ∃ n, g.bare? t = some n := by
  cases call with
  | primitive | array | map | declareRecord | record | enumeration => exact ⟨_, h⟩
  | integerText =>
      obtain ⟨_, _, -, -, hn⟩ := h
      exact ⟨_, hn⟩
  | union =>
      obtain ⟨_, -, hn⟩ := h
      exact ⟨_, hn⟩
  | nullable =>
      obtain ⟨_, _, -, -, hn⟩ := h
      exact ⟨_, hn⟩
  | addProperty | describe | setTransformation | topLevel => cases h

/-- Only the calls for unions ask for one. -/
theorem Provides.isUnion (h : g.Provides more t call) (hcall : call.addsUnion = false) :
    g.kindHolds Kind.isUnion t = false := by
  cases call with
  | primitive p =>
      rw [isUnion_of_bare? h]
      cases p <;> rfl
  | array | map | declareRecord | record | enumeration => rw [isUnion_of_bare? h]; rfl
  | integerText =>
      obtain ⟨_, _, -, -, hn⟩ := h
      rw [isUnion_of_bare? hn]
      rfl
  | union | nullable => cases hcall
  | addProperty | describe | setTransformation | topLevel => cases h

/-- The calls for records ask for one. -/
theorem Provides.exists_record (h : g.Provides more t call) (hcall : call.addsRecord = true) :
    ∃ r, g.kind? t = some (.record r) := by
  have hrecord {n : Node} {r : Record} (hn : g.bare? t = some n) (hkind : n.kind = .record r) :
      ∃ r, g.kind? t = some (.record r) := by
    obtain ⟨k, hk, hbare⟩ := kind?_of_bare? hn
    rw [hkind] at hbare
    cases k <;> cases hbare
    exact ⟨_, hk⟩
  cases call <;> first | exact hrecord h rfl | cases hcall

/-- What a call asked for stays there while the graph grows. -/
theorem Provides.grows {further : TypeRef → List Property} (h : g.Provides more t call)
    (hgrows : g.Grows g' further) : g'.Provides (more ++ further t) t call := by
  cases call with
  | primitive p => exact hgrows.keep_of_isRecord h (by cases p <;> rfl)
  | array | map | enumeration => exact hgrows.keep_of_isRecord h rfl
  | integerText =>
      obtain ⟨text, integer, htext, hinteger, hn⟩ := h
      exact ⟨text, integer, hgrows.keep_of_isRecord htext rfl, hgrows.keep_of_isRecord hinteger rfl,
        hgrows.keep_of_isRecord hn rfl⟩
  | declareRecord => exact hgrows _ _ h
  | record =>
      have hn := hgrows _ _ h
      simp only [Node.extend, Kind.extend, List.append_assoc] at hn
      exact hn
  | union =>
      obtain ⟨ms, hperm, hn⟩ := h
      exact ⟨ms, hperm, hgrows.keep_of_isRecord hn rfl⟩
  | nullable =>
      obtain ⟨null, ms, hnull, hperm, hn⟩ := h
      exact ⟨null, ms, hgrows.keep_of_isRecord hnull rfl, hperm, hgrows.keep_of_isRecord hn rfl⟩
  | addProperty | describe | setTransformation | topLevel => cases h

/-- Canonical order moves the members of unions, with or without descriptions. -/
theorem bare?_canonical (t : TypeRef) : g.canonical.bare? t =
    (g.bare? t).map fun n => { n with kind := g.canonicalKind n.kind } := by
  rw [bare?, node?_canonical, bare?, Option.map_map, Option.map_map]
  refine Option.map_congr fun node _ => ?_
  show Node.mk _ _ = Node.mk _ _
  congr 1
  show (g.canonicalKind node.kind).bare = g.canonicalKind node.kind.bare
  cases node.kind <;> rfl

/-- Simple kinds are those of the same types in canonical order. -/
theorem kind?_of_canonical {k : Kind} (hk : k.isSimple = true)
    (ht : g.canonical.kind? t = some k) : g.kind? t = some k := by
  rw [kind?_canonical] at ht
  obtain ⟨given, hgiven, rfl⟩ := Option.map_eq_some_iff.1 ht
  rw [hgiven]
  cases given with
  | union => cases hk
  | any | null | bool | integer | double | text | array | map | record | enumeration | formatted =>
      rfl

/-- What a call asked for is there in canonical order too. -/
theorem Provides.canonical (h : g.Provides more t call) : g.canonical.Provides more t call := by
  have hkeep {t : TypeRef} {n : Node} (hn : g.bare? t = some n)
      (hkind : g.canonicalKind n.kind = n.kind) : g.canonical.bare? t = some n := by
    rw [bare?_canonical, hn, Option.map_some, hkind]
  have hunion {ms : List TypeRef} (hn : g.bare? t = some ⟨.union ms, none⟩) :
      g.canonical.bare? t = some ⟨.union (g.sortMembers ms), none⟩ := by
    rw [bare?_canonical, hn]
    rfl
  cases call with
  | primitive p => exact hkeep h (by cases p <;> rfl)
  | array | map | declareRecord | record | enumeration => exact hkeep h rfl
  | integerText =>
      obtain ⟨text, integer, htext, hinteger, hn⟩ := h
      exact ⟨text, integer, hkeep htext rfl, hkeep hinteger rfl, hkeep hn rfl⟩
  | union =>
      obtain ⟨ms, hperm, hn⟩ := h
      exact ⟨_, (g.sortMembers_perm ms).trans hperm, hunion hn⟩
  | nullable =>
      obtain ⟨null, ms, hnull, hperm, hn⟩ := h
      exact ⟨null, _, hkeep hnull rfl, (g.sortMembers_perm ms).trans hperm, hunion hn⟩
  | addProperty | describe | setTransformation | topLevel => cases h

end TypeGraph

/-! ## Runs -/

namespace Builder

open TypeGraph
open Step (returned added)

/-- The builder is in order, and has what the steps so far asked for. None of them was refused, and
none added a property to a type that is not there yet. -/
structure Consistent (b : Builder) (steps : List Step) : Prop where
  orderly : b.Orderly
  answered : ∀ step ∈ steps, ∃ t?, step.answer = .ok t?
  provided : ∀ step ∈ steps, ∀ t, step.returned? = some t →
    b.graph.Provides (added t steps) t step.call
  added_eq_nil {t : TypeRef} : b.graph.size ≤ t.index → added t steps = []
  topLevels : b.topLevels = Step.topLevels steps
  denoted : ∀ top ∈ b.topLevels, top.type.index < b.graph.size

variable {b b' : Builder} {steps : List Step} {call : Call} {t : TypeRef}

/-- At the start there is nothing to be consistent with. -/
theorem consistent_empty : empty.Consistent [] where
  orderly := orderly_empty
  answered := List.forall_mem_nil _
  provided := List.forall_mem_nil _
  added_eq_nil _ := rfl
  topLevels := rfl
  denoted := List.forall_mem_nil _

/-- A reference that was returned by a call of some sort denotes what that call asked for. -/
theorem Consistent.exists_of_mem_returned (h : b.Consistent steps) {p : Step → Bool}
    (ht : t ∈ returned (steps.filter p)) :
    ∃ step, p step = true ∧ b.graph.Provides (added t steps) t step.call := by
  obtain ⟨step, hstep, hreturned⟩ := List.mem_filterMap.1 ht
  obtain ⟨hmem, hp⟩ := List.mem_filter.1 hstep
  exact ⟨step, hp, h.provided step hmem t hreturned⟩

/-- A reference that was returned denotes a type, and none of a union unless by a call for one. -/
theorem Consistent.of_mem_returned (h : b.Consistent steps) (ht : t ∈ returned steps) :
    t.index < b.graph.size ∧
      (t ∉ returned (steps.filter fun step => step.call.addsUnion) →
        b.graph.kindHolds Kind.isUnion t = false) := by
  obtain ⟨step, hstep, hreturned⟩ := List.mem_filterMap.1 ht
  have hprovides := h.provided step hstep t hreturned
  obtain ⟨n, hn⟩ := hprovides.exists_bare?
  refine ⟨index_lt_of_bare? hn, fun hnot => hprovides.isUnion ?_⟩
  by_contra hunion
  refine hnot (List.mem_filterMap.2 ⟨step, List.mem_filter.2 ⟨hstep, ?_⟩, hreturned⟩)
  simpa using hunion

/-- One more step is consistent with a builder in order that has grown by what the call adds, and
has what it asked for. -/
theorem Consistent.step (h : b.Consistent steps) (call : Call) (horderly : b'.Orderly)
    (hgrows : b.graph.Grows b'.graph fun t => call.properties t)
    (htops : b'.topLevels = b.topLevels ++ call.topLevels) {answer : Option TypeRef}
    (hprovides : ∀ t, answer = some t →
      b'.graph.Provides (added t steps ++ call.properties t) t call)
    (hproperties : ∀ t, b.graph.size ≤ t.index → call.properties t = [])
    (hdenoted : ∀ top ∈ call.topLevels, top.type.index < b.graph.size) :
    b'.Consistent (steps ++ [⟨call, .ok answer⟩]) := by
  have hadded (t : TypeRef) :
      added t (steps ++ [⟨call, .ok answer⟩]) = added t steps ++ call.properties t := by
    rw [added, List.flatMap_append, List.flatMap_singleton]
    rfl
  refine ⟨horderly, ?_, ?_, fun {t} ht => ?_, ?_, ?_⟩
  · exact List.forall_mem_append.2 ⟨h.answered, List.forall_mem_singleton.2 ⟨answer, rfl⟩⟩
  · -- What earlier steps asked for has grown with the graph, by the same properties.
    intro step hstep t ht
    rw [hadded]
    rcases List.mem_append.1 hstep with hstep | hstep
    · exact (h.provided step hstep t ht).grows hgrows
    · obtain rfl := List.mem_singleton.1 hstep
      exact hprovides t ht
  · have hlt := Nat.le_trans hgrows.size_le ht
    rw [hadded, h.added_eq_nil hlt, hproperties t hlt]
    rfl
  · rw [htops, h.topLevels, Step.topLevels, Step.topLevels, List.flatMap_append,
      List.flatMap_singleton]
  · rw [htops]
    refine List.forall_mem_append.2 ⟨fun top hmem => ?_, fun top hmem => ?_⟩
    · exact Nat.lt_of_lt_of_le (h.denoted top hmem) hgrows.size_le
    · exact Nat.lt_of_lt_of_le (hdenoted top hmem) hgrows.size_le

/-- A call that returns nothing. -/
theorem Consistent.change (h : b.Consistent steps) (call : Call) (horderly : b'.Orderly)
    (hgrows : b.graph.Grows b'.graph fun t => call.properties t)
    (htops : b'.topLevels = b.topLevels ++ call.topLevels)
    (hproperties : ∀ t, b.graph.size ≤ t.index → call.properties t = [])
    (hdenoted : ∀ top ∈ call.topLevels, top.type.index < b.graph.size) :
    b'.Consistent (steps ++ [⟨call, .ok none⟩]) :=
  h.step call horderly hgrows htops nofun hproperties hdenoted

/-- A call that returns a type and only extends the builder. -/
theorem Consistent.answer (h : b.Consistent steps) {result : TypeRef × Builder}
    (hextends : b.Extends result.2)
    (hprovides : result.2.graph.Provides (added result.1 steps) result.1 call)
    (hproperties : ∀ t, call.properties t = []) (htops : call.topLevels = []) :
    (Builder.answer result).2.Consistent (steps ++ [⟨call, (Builder.answer result).1⟩]) := by
  have hgrows : b.graph.Grows result.2.graph fun t => call.properties t := by
    simp only [hproperties]
    exact hextends.grows
  refine h.step call hextends.orderly hgrows ?_ (fun t ht => ?_) (fun t _ => hproperties t) ?_
  · rw [htops, List.append_nil]
    exact hextends.topLevels
  · obtain rfl := Option.some.inj ht
    rw [hproperties, List.append_nil]
    exact hprovides
  · rw [htops]
    exact List.forall_mem_nil _

/-- A call that adds a type of its own, no union, and asks for it. -/
theorem Consistent.push (h : b.Consistent steps) {kind : Kind} (hsimple : kind.isSimple = false)
    (hunion : kind.isUnion = false) (hrefs : ∀ r ∈ kindRefs kind, r.index < b.graph.size)
    (hprovides : (b.push kind).2.graph.bare? (b.push kind).1 = some ⟨kind.bare, none⟩ →
      (b.push kind).2.graph.Provides [] (b.push kind).1 call)
    (hproperties : ∀ t, call.properties t = []) (htops : call.topLevels = []) :
    (Builder.answer (b.push kind)).2.Consistent
      (steps ++ [⟨call, (Builder.answer (b.push kind)).1⟩]) := by
  obtain ⟨hextends, hbare⟩ := h.orderly.push kind hsimple hrefs fun ms hms => by
    subst hms
    cases hunion
  -- The reference is new, so that no step has added a property to its type.
  have hnew : added (b.push kind).1 steps = [] := h.added_eq_nil (Nat.le_refl _)
  exact h.answer hextends (hnew.symm ▸ hprovides hbare) hproperties htops

/-- A call that adds a record. -/
theorem Consistent.record (h : b.Consistent steps) {name : String}
    {properties : List (String × TypeRef)} (hcall : ∀ p ∈ properties, p.2 ∈ returned steps) :
    (b.perform (.record name properties)).2.Consistent
      (steps ++ [⟨.record name properties, (b.perform (.record name properties)).1⟩]) := by
  refine h.push rfl rfl ?_ (fun hbare => ?_) (fun _ => rfl) rfl
  · intro r hr
    obtain ⟨property, hproperty, rfl⟩ := List.mem_map.1 hr
    obtain ⟨p, hp, rfl⟩ := List.mem_map.1 hproperty
    exact (h.of_mem_returned (hcall p hp)).1
  · rw [Kind.bare, List.map_map] at hbare
    rw [Provides, List.append_nil]
    exact hbare

/-- A call that adds a property to a record. -/
theorem Consistent.addProperty (h : b.Consistent steps) {r type : TypeRef} (name : String)
    (hr : r ∈ returned (steps.filter fun step => step.call.addsRecord))
    (htype : type ∈ returned steps) :
    (b.perform (.addProperty r name type)).2.Consistent
      (steps ++ [⟨.addProperty r name type, (b.perform (.addProperty r name type)).1⟩]) := by
  obtain ⟨step, hstep, hprovides⟩ := h.exists_of_mem_returned hr
  obtain ⟨record, hrecord⟩ := hprovides.exists_record hstep
  obtain ⟨b', hadd, htops, horderly, hgrows⟩ :=
    h.orderly.addProperty name hrecord (h.of_mem_returned htype).1
  have hperform : b.perform (.addProperty r name type) = (.ok none, b') := by
    rw [Builder.perform, hadd]
  rw [hperform]
  refine h.change (.addProperty r name type) horderly hgrows ?_ (fun t ht => if_neg ?_)
    (List.forall_mem_nil _)
  · exact htops.trans (List.append_nil _).symm
  · rintro rfl
    exact Nat.not_lt.2 ht (index_lt_of_kind? hrecord)

/-- An allowed call is not refused, and the builder is consistent with it. -/
theorem Consistent.perform (h : b.Consistent steps) (hcall : Allowed steps call) :
    (b.perform call).2.Consistent (steps ++ [⟨call, (b.perform call).1⟩]) := by
  cases call with
  | primitive p =>
      obtain ⟨hextends, hbare⟩ := h.orderly.primitive p.kind p.isSimple_kind p.kind_ne
      exact h.answer hextends hbare (fun _ => rfl) rfl
  | integerText =>
      obtain ⟨hextends, hbare⟩ := h.orderly.integerText
      exact h.answer hextends hbare (fun _ => rfl) rfl
  | array t | map t =>
      refine h.push rfl rfl ?_ id (fun _ => rfl) rfl
      exact List.forall_mem_singleton.2 (h.of_mem_returned hcall).1
  | declareRecord name => exact h.push rfl rfl (List.forall_mem_nil _) id (fun _ => rfl) rfl
  | record name properties => exact h.record hcall
  | addProperty r name type => exact h.addProperty name hcall.1 hcall.2
  | enumeration name cases => exact h.push rfl rfl (List.forall_mem_nil _) id (fun _ => rfl) rfl
  | union members =>
      obtain ⟨hne, hmembers⟩ := hcall
      have hmember (m : TypeRef) (hm : m ∈ members) := h.of_mem_returned (hmembers m hm).1
      obtain ⟨hextends, hbare⟩ := h.orderly.push (.union members) rfl
        (fun m hm => (hmember m hm).1) fun ms hms => by
          cases hms
          exact ⟨hne, fun m hm => (hmember m hm).2 (hmembers m hm).2⟩
      exact h.answer hextends ⟨members, .refl _, hbare⟩ (fun _ => rfl) rfl
  | nullable t =>
      obtain ⟨ht, hunion⟩ := hcall
      obtain ⟨hlt, hmember⟩ := h.of_mem_returned ht
      obtain ⟨hextends, null, hnull, hbare⟩ := h.orderly.nullable hlt (hmember hunion)
      exact h.answer hextends ⟨null, _, hnull, .refl _, hbare⟩ (fun _ => rfl) rfl
  | describe t property text =>
      have hextends := h.orderly.describe t property text
      exact h.change (.describe t property text) hextends.orderly hextends.grows
        (hextends.topLevels.trans (List.append_nil _).symm) (fun _ _ => rfl)
        (List.forall_mem_nil _)
  | setTransformation => exact hcall.elim
  | topLevel name t =>
      obtain ⟨horderly, hgrows⟩ := h.orderly.topLevel name t
      refine h.change (.topLevel name t) horderly hgrows rfl (fun _ _ => rfl) ?_
      exact List.forall_mem_singleton.2 (h.of_mem_returned hcall).1

/-- A run of allowed calls is consistent with its steps. -/
theorem Consistent.run (h : b.Consistent steps) {calls : List Call}
    (hcalls : AllowedFrom steps (b.run calls).1) :
    (b.run calls).2.Consistent (steps ++ (b.run calls).1) := by
  induction calls generalizing b steps with
  | nil =>
      rw [Builder.run, List.append_nil]
      exact h
  | cons call rest ih =>
      obtain ⟨hcall, hrest⟩ := hcalls
      have hrun := ih (h.perform hcall) hrest
      rwa [List.append_assoc] at hrun

/-- What a disciplined program has collected is accepted, in canonical order. -/
theorem Consistent.build (h : b.Consistent steps) (hsteps : Disciplined steps) :
    b.build = .ok b.graph.canonical := by
  have hfaultless : b.graph.Faultless := by
    refine h.orderly.faultless ?_ ?_ h.denoted
    · exact h.topLevels ▸ hsteps.nonempty
    · exact h.topLevels ▸ hsteps.named
  refine (make_eq b.graph).trans ?_
  rw [check_iff_faultless.2 hfaultless]
  rfl

/-- The graph of a disciplined program is accepted. None of its calls is refused, every reference
that a call returns denotes in the graph what the call asked for, with the properties that the
program adds to it, and the graph has one type of a simple kind at most. -/
theorem exists_build_of_disciplined {calls : List Call} {steps : List Step} {b : Builder}
    (hrun : empty.run calls = (steps, b)) (h : Disciplined steps) :
    (∀ step ∈ steps, ∃ t?, step.answer = .ok t?) ∧
    ∃ g, b.build = .ok g ∧ g.topLevels = Step.topLevels steps ∧
      (∀ step ∈ steps, ∀ t, step.returned? = some t → g.Provides (added t steps) t step.call) ∧
      ∀ k, k.isSimple = true → ∀ t t', g.kind? t = some k → g.kind? t' = some k → t = t' := by
  have hb : b.Consistent steps := by
    have hallowed : AllowedFrom [] (empty.run calls).1 := by rw [hrun]; exact h.allowed
    have hconsistent := consistent_empty.run hallowed
    rwa [hrun] at hconsistent
  refine ⟨hb.answered, b.graph.canonical, hb.build h, hb.topLevels, fun step hstep t ht => ?_, ?_⟩
  · exact (hb.provided step hstep t ht).canonical
  · intro k hk t t' ht ht'
    exact hb.orderly.eq_of_isSimple hk (kind?_of_canonical hk ht) (kind?_of_canonical hk ht')

/-- Nodes have children, a count, and an owner that may be missing and refers to its nodes. -/
def nodeCalls : List Call :=
  [.declareRecord "Node", .array ⟨0⟩, .addProperty ⟨0⟩ "children" ⟨1⟩, .integerText,
    .addProperty ⟨0⟩ "count" ⟨4⟩, .declareRecord "Owner", .addProperty ⟨5⟩ "nodes" ⟨1⟩,
    .nullable ⟨5⟩, .addProperty ⟨0⟩ "owner" ⟨7⟩, .describe ⟨0⟩ (some "owner") "Who keeps the node.",
    .primitive .text, .topLevel "Node" ⟨0⟩, .topLevel "Owner" ⟨7⟩]

/-- The program for nodes is disciplined, and its graph is accepted with what was asked for. -/
theorem exists_build_nodes :
    Disciplined (empty.run nodeCalls).1 ∧ ∃ g, (empty.run nodeCalls).2.build = .ok g ∧
      g.Provides [⟨"children", ⟨1⟩, none⟩, ⟨"count", ⟨4⟩, none⟩, ⟨"owner", ⟨7⟩, none⟩] ⟨0⟩
        (.declareRecord "Node") ∧
      g.Provides [] ⟨4⟩ .integerText ∧ g.Provides [] ⟨7⟩ (.nullable ⟨5⟩) := by
  have hdisciplined : Disciplined (empty.run nodeCalls).1 := by decide +kernel
  obtain ⟨-, g, hbuild, -, hprovided, -⟩ := exists_build_of_disciplined rfl hdisciplined
  have hprovides (i : Nat) {step : Step} (hstep : (empty.run nodeCalls).1[i]? = some step)
      {t : TypeRef} (ht : step.returned? = some t) :
      g.Provides (added t (empty.run nodeCalls).1) t step.call :=
    hprovided step (List.mem_of_getElem? hstep) t ht
  exact ⟨hdisciplined, g, hbuild, hprovides 0 rfl rfl, hprovides 3 rfl rfl, hprovides 7 rfl rfl⟩

end Builder

end TypedJson
