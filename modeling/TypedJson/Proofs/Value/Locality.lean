import TypedJson.Proofs.Value.Stops

/-!
# What a conversion looks up

`lookups` lists the types that a task looks up before it turns to further tasks. The list is complete:
a conversion is the same in any other graph that has the same types at the references which the task,
and those that it leads to, look up (`Sees.perform`). In an accepted graph all of these references
denote types, and no conversion stops at one that does not, hidden or not.
-/

namespace TypedJson.TypeGraph

open Outcome

variable {g g' : TypeGraph} {task task' : Task} {t : TypeRef}

/-- The types whose kinds tell whether one is nullable, and which members remain without null. -/
def nullLookups (g : TypeGraph) (t : TypeRef) : List TypeRef :=
  match g.kind? t with
  | some (.union members) => t :: members
  | _ => [t]

/-- The types that converting by the kind of a type looks up: which properties of a record may be
left out depends on what is nullable. -/
def kindLookups (g : TypeGraph) (t : TypeRef) : List TypeRef :=
  match g.kind? t with
  | some (.record r) => t :: r.properties.flatMap fun p => g.nullLookups p.type
  | _ => [t]

/-- The types that the first step of a transformer looks up. -/
def stepLookups (target : TypeRef) : Transformer → List TypeRef
  | .elements _ _ _ _ => [target]
  | .memberMatch _ member _ => [member]
  | .parseText _ next => [parsedType next target]
  | .writeText source _ => [source]
  | _ => []

/-- The types that a task looks up by itself. -/
def lookups (g : TypeGraph) : Task → List TypeRef
  | .type _ t => [t]
  | .kind _ t => g.kindLookups t
  | .transformer _ x target => stepLookups target x

/-- Whether a type is nullable is looked up in the graph. -/
theorem Accepted.nullLookups_lt (hg : g.Accepted) (ht : t.index < g.size) :
    ∀ r ∈ g.nullLookups t, r.index < g.size := by
  unfold nullLookups
  split
  next members hk => exact List.forall_mem_cons.2 ⟨ht, hg.refs hk⟩
  next => exact List.forall_mem_cons.2 ⟨ht, List.forall_mem_nil _⟩

/-- A task in the graph looks up types of the graph. -/
theorem Accepted.lookups_lt (hg : g.Accepted) (h : task.InRange g) :
    ∀ r ∈ g.lookups task, r.index < g.size := by
  have hone {r : TypeRef} (hr : r.index < g.size) : ∀ s ∈ [r], s.index < g.size :=
    List.forall_mem_cons.2 ⟨hr, List.forall_mem_nil _⟩
  cases task with
  | type d t => exact hone h
  | kind d t =>
      rw [lookups, kindLookups]
      split
      next r hk =>
        refine List.forall_mem_cons.2 ⟨h, fun s hs => ?_⟩
        obtain ⟨p, hp, hs⟩ := List.mem_flatMap.1 hs
        exact hg.nullLookups_lt (hg.refs hk p.type (List.mem_map_of_mem hp)) s hs
      next => exact hone h
  | transformer d x target =>
      cases x with
      | elements => exact hone h.2
      | memberMatch => exact hone (h.1 _ (List.mem_cons_of_mem _ List.mem_cons_self))
      | parseText => exact hone (inRange_parsed h)
      | writeText => exact hone (h.1 _ List.mem_cons_self)
      | decode | encode | choice | instantiate => exact List.forall_mem_nil _

/-! ## Types that are the same in two graphs -/

/-- A type that is the same in two graphs has the same kind. -/
theorem kind?_congr (h : g'.node? t = g.node? t) : g'.kind? t = g.kind? t := by
  rw [kind?, h, kind?]

/-- It has the same transformation. -/
theorem transformation?_congr (h : g'.node? t = g.node? t) :
    g'.transformation? t = g.transformation? t := by
  rw [transformation?, h, transformation?]

/-- What holds of its kind holds in both. -/
theorem kindHolds_congr (h : g'.node? t = g.node? t) (p : Kind → Bool) :
    g'.kindHolds p t = g.kindHolds p t := by
  rw [kindHolds, kind?_congr h, kindHolds]

/-- The lookups that tell whether a type is nullable are those of its kind and of its members. -/
theorem nullLookups_congr (h : ∀ r ∈ g.nullLookups t, g'.node? r = g.node? r) :
    g'.kind? t = g.kind? t ∧ ∀ members, g.kind? t = some (.union members) →
      ∀ m ∈ members, g'.isNull m = g.isNull m := by
  unfold nullLookups at h
  split at h
  next members hk =>
    obtain ⟨ht, hmembers⟩ := List.forall_mem_cons.1 h
    refine ⟨kind?_congr ht, fun members' hk' m hm => kindHolds_congr (hmembers m ?_) _⟩
    rw [hk] at hk'
    cases hk'
    exact hm
  next hk =>
    exact ⟨kind?_congr (h t List.mem_cons_self), fun members hk' => absurd hk' (hk members)⟩

/-- With the same lookups, a type is nullable in both graphs or in none. -/
theorem isNullable_congr (h : ∀ r ∈ g.nullLookups t, g'.node? r = g.node? r) :
    g'.isNullable t = g.isNullable t := by
  obtain ⟨ht, hmembers⟩ := nullLookups_congr h
  unfold isNullable
  rw [ht]
  split
  next => rfl
  next members hk =>
    rw [Bool.eq_iff_iff, List.any_eq_true, List.any_eq_true]
    exact exists_congr fun m => and_congr_right fun hm => by rw [hmembers members hk m hm]
  next => rfl

/-- It also has the same members apart from null. -/
theorem nonNullMembers_congr (h : ∀ r ∈ g.nullLookups t, g'.node? r = g.node? r) :
    g'.nonNullMembers t = g.nonNullMembers t := by
  obtain ⟨ht, hmembers⟩ := nullLookups_congr h
  unfold nonNullMembers
  rw [ht]
  split
  next members hk => exact List.filter_congr fun m hm => by rw [hmembers members hk m hm]
  next => rfl

/-- Every lookup of the task, and of the tasks that it leads to, gives the same in both graphs. -/
def Sees (g g' : TypeGraph) (task : Task) : Prop :=
  ∀ task', Relation.ReflTransGen g.Leads task task' →
    ∀ r ∈ g.lookups task', g'.node? r = g.node? r

/-- What a task leads to is seen with the task. -/
theorem Sees.leads (h : g.Sees g' task) (hl : g.Leads task task') : g.Sees g' task' := by
  intro task'' hrun
  exact h task'' (.head hl hrun)

/-- The task's own lookups give the same in both graphs. -/
theorem Sees.own (h : g.Sees g' task) : ∀ r ∈ g.lookups task, g'.node? r = g.node? r :=
  h task .refl

/-- The kind that a task converts by is the same. -/
theorem Sees.kind {d : Direction} (h : g.Sees g' (.kind d t)) : g'.node? t = g.node? t := by
  refine h.own t ?_
  rw [lookups, kindLookups]
  split <;> exact List.mem_cons_self

/-! ## Conversions that see the same types -/

section ByKind

variable {f f' : TypeRef → Value → Outcome Value} {v : Value}

/-- Encoding properties depends on which of their types are nullable. -/
theorem encodeFields_congr {nullable nullable' : TypeRef → Bool} {props : List Property}
    (h : ∀ p ∈ props, nullable' p.type = nullable p.type) (fields entries : List (String × Value)) :
    encodeFields nullable' f props fields entries = encodeFields nullable f props fields entries := by
  induction props generalizing fields entries with
  | nil => rfl
  | cons p rest ih =>
      obtain ⟨hp, hrest⟩ := List.forall_mem_cons.1 h
      rw [encodeFields, encodeFields, hp]
      simp only [ih hrest]

/-- Converting by kind is the same in both graphs if the lookups and the conversions of elements,
members and properties are. -/
theorem Sees.convertByKind {d : Direction} (h : g.Sees g' (.kind d t))
    (hpart : ∀ k, g.kind? t = some k → ∀ r ∈ kindRefs k, ∀ w, f' r w = f r w) :
    g'.convertByKind d f' v t = g.convertByKind d f v t := by
  have hkindOf : g'.kindOf t = g.kindOf t := by
    rw [kindOf, kind?_congr h.kind, kindOf]
  cases hk : g.kind? t with
  | none =>
      have hstop : g.kindOf t = .error (.dangling t) := by rw [kindOf, hk]
      cases d <;> simp only [TypeGraph.convertByKind, decodeByKind, encodeByKind, hkindOf, hstop] <;> rfl
  | some k =>
      -- First the other graph with the same conversions, then the other conversions.
      have hgraph : g'.convertByKind d f v t = g.convertByKind d f v t := by
        cases d with
        | decode => simp only [TypeGraph.convertByKind, decodeByKind, hkindOf]
        | encode =>
            simp only [TypeGraph.convertByKind, encodeByKind, hkindOf, kindOf_eq hk]
            cases k with
            | record r =>
                have hnullable : ∀ p ∈ r.properties, g'.isNullable p.type = g.isNullable p.type := by
                  refine fun p hp => isNullable_congr fun s hs => h.own s ?_
                  rw [lookups, kindLookups, hk]
                  exact List.mem_cons_of_mem _ (List.mem_flatMap.2 ⟨p, hp, hs⟩)
                cases v with
                | object name fields =>
                    show (if name = r.name then _ else _) = if name = r.name then _ else _
                    rw [encodeFields_congr hnullable]
                | none | bool | int | float | str | list | dict | dateTime | enumCase => rfl
            | formatted format => cases format <;> rfl
            | any | null | bool | integer | double | text | array | map | enumeration | union =>
                cases v <;> rfl
      rw [← hgraph]
      exact convertByKind_rel eq_congruence ((kind?_congr h.kind).trans hk) d
        (fun r hr w _ => hpart k hk r hr w)
        (fun ms hms m hm => hpart k hk m (hms ▸ hm) v)

end ByKind

section Transformers

variable {byKind byKind' : Direction → Value → TypeRef → Outcome Value}

mutual
/-- A transformer does the same in both graphs if the kinds that it converts by do. -/
theorem Sees.transformWith
    (hkind : ∀ d s, g.Sees g' (.kind d s) → ∀ v, byKind' d v s = byKind d v s) (d : Direction) :
    ∀ (x : Transformer) (target : TypeRef),
    g.Sees g' (.transformer d x target) → ∀ v,
      g'.transformWith byKind' d x v target = g.transformWith byKind d x v target
  | .choice source branches, target, h, v => by
      simp only [TypeGraph.transformWith]
      exact Sees.transformFirst hkind d branches target (fun x hx => h.leads (.branch hx)) 0 v
  | .decode source next, target, h, v => by
      simp only [TypeGraph.transformWith, hkind .decode source (h.leads .decode)]
      exact bind_congr fun decoded =>
        Sees.transformNext hkind d next target (fun y hy => h.leads (.next hy)) decoded
  | .encode source, target, h, v => by
      simp only [TypeGraph.transformWith]
      exact hkind .encode source (h.leads .encode) v
  | .elements source container element next, target, h, v => by
      have htarget : g'.elementTarget target container = g.elementTarget target container := by
        simp only [elementTarget, kind?_congr (h.own target List.mem_cons_self)]
      have helement := Sees.transformWith hkind d element _ (h.leads .element)
      have hnext := Sees.transformNext hkind d next target fun y hy => h.leads (.next hy)
      simp only [TypeGraph.transformWith, htarget, helement, hnext]
  | .memberMatch source member next, target, h, v => by
      have hmember : g'.requireType d v member = g.requireType d v member := by
        simp only [requireType, kindOf, kind?_congr (h.own member List.mem_cons_self)]
      have hnext := Sees.transformNext hkind d next target fun y hy => h.leads (.next hy)
      simp only [TypeGraph.transformWith, hmember, hnext]
  | .instantiate source, target, h, v => by
      simp only [TypeGraph.transformWith]
  | .parseText source next, target, h, v => by
      have hparse : g'.parseInto v (parsedType next target) =
          g.parseInto v (parsedType next target) := by
        cases v with
        | str s =>
            simp only [parseInto, kindOf, kind?_congr (h.own (parsedType next target)
              List.mem_cons_self)]
        | none | bool | int | float | list | dict | dateTime | enumCase | object => rfl
      have hnext := Sees.transformNext hkind d next target fun y hy => h.leads (.next hy)
      simp only [TypeGraph.transformWith, hnext]
      exact congrArg (· >>= _) hparse
  | .writeText source next, target, h, v => by
      have hwrite : g'.writeFrom v source = g.writeFrom v source := by
        simp only [writeFrom, kindOf, kind?_congr (h.own source List.mem_cons_self)]
      have hnext := Sees.transformNext hkind d next target fun y hy => h.leads (.next hy)
      simp only [TypeGraph.transformWith, hwrite, hnext]

/-- So do the steps behind a step. -/
theorem Sees.transformNext
    (hkind : ∀ d s, g.Sees g' (.kind d s) → ∀ v, byKind' d v s = byKind d v s) (d : Direction) :
    ∀ (next : Option Transformer) (target : TypeRef),
    (∀ y, next = some y → g.Sees g' (.transformer d y target)) → ∀ v,
      g'.transformNext byKind' d next v target = g.transformNext byKind d next v target
  | none, target, h, v => by
      simp only [TypeGraph.transformNext]
  | some step, target, h, v => by
      simp only [TypeGraph.transformNext]
      exact Sees.transformWith hkind d step target (h step rfl) v

/-- So do the branches of a choice. -/
theorem Sees.transformFirst
    (hkind : ∀ d s, g.Sees g' (.kind d s) → ∀ v, byKind' d v s = byKind d v s) (d : Direction) :
    ∀ (branches : List Transformer) (target : TypeRef),
    (∀ x ∈ branches, g.Sees g' (.transformer d x target)) → ∀ tried v,
      g'.transformFirst byKind' d branches tried v target =
        g.transformFirst byKind d branches tried v target
  | [], target, h, tried, v => by
      simp only [TypeGraph.transformFirst]
  | branch :: rest, target, h, tried, v => by
      obtain ⟨hbranch, hrest⟩ := List.forall_mem_cons.1 h
      have hfirst := Sees.transformWith hkind d branch target hbranch v
      have hothers := Sees.transformFirst hkind d rest target hrest (tried + 1) v
      simp only [TypeGraph.transformFirst, hfirst, hothers]
end

end Transformers

/-- Whatever the bound and the value, a task is performed alike in graphs that give it the same
lookups. -/
theorem Sees.perform (h : g.Sees g' task) (n : Nat) (v : Value) :
    g'.perform n task v = g.perform n task v := by
  -- As in Bounds.perform: kinds within a bound by types within it, and these by kinds below it.
  have hkind {n : Nat} (htype : ∀ d r, g.Sees g' (.type d r) → ∀ w,
      g'.convertWithin n d r w = g.convertWithin n d r w) (d : Direction) (s : TypeRef)
      (hs : g.Sees g' (.kind d s)) (w : Value) :
      g'.convertByKind d (g'.convertWithin n d) w s = g.convertByKind d (g.convertWithin n d) w s :=
    hs.convertByKind fun k hk r hr w => htype d r (hs.leads (.part hk hr)) w
  have htype (n : Nat) (d : Direction) (r : TypeRef) (hr : g.Sees g' (.type d r)) (w : Value) :
      g'.convertWithin n d r w = g.convertWithin n d r w := by
    induction n generalizing d r w with
    | zero => rfl
    | succ n ih =>
        unfold convertWithin
        rw [transformation?_congr (hr.own r List.mem_cons_self)]
        cases hx : g.transformation? r with
        | none => exact hkind ih d r (hr.leads (.rules hx)) w
        | some x =>
            cases d with
            | decode =>
                exact Sees.transformWith (hkind ih) .decode x.transformer x.target
                  (hr.leads (.decoding hx)) w
            | encode =>
                exact Sees.transformWith (hkind ih) .encode x.reverse r (hr.leads (.encoding hx)) w
  cases task with
  | type d t => exact htype n d t h v
  | kind d t => exact hkind (htype n) d t h v
  | transformer d x target => exact Sees.transformWith (hkind (htype n)) d x target h v

/-! ## Conversions in accepted graphs -/

/-- In an accepted graph, no task stops at a reference that denotes no type. -/
theorem Accepted.bounds (hg : g.Accepted) :
    g.Bounds (fun stop => ∀ t, stop ≠ .dangling t) (Task.InRange g) where
  leads h hl := hg.inRange_leads h hl
  failed e he t h := by cases h
  endless s t h := by cases h
  kind h := by
    obtain ⟨k, hk⟩ := kind?_isSome h
    exact ⟨k, hk, fun _ t heq => by cases heq⟩
  member h := by
    obtain ⟨k, hk⟩ := kind?_isSome (h.1 _ (List.mem_cons_of_mem _ List.mem_cons_self))
    exact ⟨k, hk, fun _ t heq => by cases heq⟩
  parse h := by
    obtain ⟨k, hk⟩ := kind?_isSome (inRange_parsed h)
    exact ⟨k, hk, fun _ t heq => by cases heq⟩
  write h := by
    obtain ⟨k, hk⟩ := kind?_isSome (h.1 _ List.mem_cons_self)
    exact ⟨k, hk, fun _ t heq => by cases heq⟩

/-- Whatever the bound and the value, a task in an accepted graph meets no dangling reference. -/
theorem Accepted.perform_ne_dangling (hg : g.Accepted) (h : task.InRange g) (n : Nat) (v : Value)
    (t : TypeRef) : g.perform n task v ≠ .error (.dangling t) := by
  intro heq
  exact hg.bounds.perform h n v _ heq t rfl

end TypedJson.TypeGraph
