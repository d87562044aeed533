import TypedJson.Proofs.Graph.Acyclic

/-!
# Accepting a graph with strict lookups

In a strict computation, looking up a reference that denotes no type is neither a fault nor a
default: it stops everything (`outside`). `strictMake` accepts types and top-levels by strict lookups
only, and `strictMake_eq` says that it does what `make` does: every reference is range-checked before
it is looked up.
-/

namespace TypedJson

/-- A computation that may find a fault, and that stops at the first lookup outside of the graph. -/
abbrev Strict (α : Type) : Type :=
  ExceptT GraphError (Except TypeRef) α

namespace Strict

variable {α β : Type}

/-- A lookup outside of the graph. -/
def outside (t : TypeRef) : Strict α :=
  ExceptT.mk (.error t)

/-- What needs no lookup. -/
def lift (x : Except GraphError α) : Strict α :=
  ExceptT.mk (.ok x)

/-- Composed computations look nothing up outside if each of them does so where it is reached. -/
theorem bind_eq_lift {x : Except GraphError α} {f : α → Strict β} {f' : α → Except GraphError β}
    (h : ∀ a, x = .ok a → f a = lift (f' a)) : (lift x >>= f) = lift (x >>= f') := by
  cases x with
  | error e => rfl
  | ok a => exact h a rfl

/-- So do computations on the items of a list, where those in front have found no fault. -/
theorem forM_eq_lift {f : α → Strict Unit} {f' : α → Except GraphError Unit} {as : List α}
    (h : ∀ a ∈ as, f a = lift (f' a)) : as.forM f = lift (as.forM f') := by
  induction as with
  | nil => rfl
  | cons a as ih =>
      obtain ⟨ha, has⟩ := List.forall_mem_cons.1 h
      show (f a >>= fun _ => as.forM f) = lift (f' a >>= fun _ => as.forM f')
      rw [ha]
      exact bind_eq_lift fun _ _ => ih has

/-- So do computations that hand on a state which keeps a property. -/
theorem foldlM_eq_lift {P : β → Prop} {f : β → α → Strict β} {f' : β → α → Except GraphError β}
    {as : List α} (h : ∀ a ∈ as, ∀ b, P b → f b a = lift (f' b a) ∧ ∀ b', f' b a = .ok b' → P b')
    {b : β} (hb : P b) :
    as.foldlM f b = lift (as.foldlM f' b) ∧ ∀ b', as.foldlM f' b = .ok b' → P b' := by
  induction as generalizing b with
  | nil =>
      refine ⟨rfl, fun b' hb' => ?_⟩
      cases hb'
      exact hb
  | cons a as ih =>
      obtain ⟨ha, has⟩ := List.forall_mem_cons.1 h
      obtain ⟨hstep, hkeeps⟩ := ha b hb
      rw [List.foldlM_cons, List.foldlM_cons, hstep]
      refine ⟨bind_eq_lift fun b₁ hb₁ => (ih has (hkeeps b₁ hb₁)).1, fun b' hb' => ?_⟩
      obtain ⟨b₁, hb₁, hb'⟩ := bind_eq_ok.1 hb'
      exact (ih has (hkeeps b₁ hb₁)).2 b' hb'

end Strict

namespace TypeGraph

open Strict

variable {g : TypeGraph} {t : TypeRef}

/-! ## Strict acceptance -/

/-- The type at a reference. -/
def lookUp (g : TypeGraph) (t : TypeRef) : Strict Node :=
  match g.node? t with
  | some node => return node
  | none => outside t

/-- The kind of the type satisfies `p`. -/
def strictKindHolds (g : TypeGraph) (p : Kind → Bool) (t : TypeRef) : Strict Bool := do
  return p (← g.lookUp t).kind

/-- A member of a union denotes a type other than a union. -/
def strictCheckMember (g : TypeGraph) (owner m : TypeRef) : Strict Unit := do
  lift (g.checkRef m (.union owner))
  if ← g.strictKindHolds Kind.isUnion m then throw (.nestedUnion owner m)

/-- The references of a kind denote types, and those of a union types other than unions. -/
def strictCheckKind (g : TypeGraph) (owner : TypeRef) : Kind → Strict Unit
  | .union (first :: rest) => (first :: rest).forM (g.strictCheckMember owner)
  | k => lift (g.checkKind owner k)

/-- The references of one type are in order. -/
def strictCheckNode (g : TypeGraph) (owner : TypeRef) (node : Node) : Strict Unit := do
  g.strictCheckKind owner node.kind
  match node.transformation with
  | some x => lift (g.checkTransformation owner x)
  | none => return ()

/-- The types among the given ones that are no records. -/
def strictUnguarded (g : TypeGraph) : List TypeRef → Strict (List TypeRef)
  | [] => return []
  | r :: rest => do
    let guarded ← g.strictKindHolds Kind.isRecord r
    let others ← g.strictUnguarded rest
    return if guarded then others else r :: others

/-- The types that converting `t` leads to at once. -/
def strictUnguardedRefs (g : TypeGraph) (t : TypeRef) : Strict (List TypeRef) := do
  let node ← g.lookUp t
  let referred := match node.transformation with
    | some x => x.refs.filter (· ≠ t)
    | none => []
  g.strictUnguarded (structuralRefs node.kind ++ referred)

/-- The mark at a reference. -/
def markAt (marks : Array Mark) (t : TypeRef) : Strict Mark :=
  match marks[t.index]? with
  | some mark => return mark
  | none => outside t

/-- Search from a child that is fresh. -/
def strictVisitChild (visit : Array Mark → TypeRef → Strict (Array Mark)) (marks : Array Mark)
    (child : TypeRef) : Strict (Array Mark) := do
  match ← markAt marks child with
  | .active => throw (.unguardedCycle child)
  | .fresh => visit marks child
  | .done => return marks

/-- Search from a fresh type. -/
def strictVisit (g : TypeGraph) : Nat → Array Mark → TypeRef → Strict (Array Mark)
  | 0, marks, _ => return marks
  | depth + 1, marks, t => do
    let children ← g.strictUnguardedRefs t
    let marks ← children.foldlM (strictVisitChild (strictVisit g depth))
      (marks.setIfInBounds t.index .active)
    return marks.setIfInBounds t.index .done

/-- Search from a root that is fresh and no record. -/
def strictVisitRoot (g : TypeGraph) (marks : Array Mark) (root : TypeRef) :
    Strict (Array Mark) := do
  let mark ← markAt marks root
  if mark = .fresh then
    let guarded ← g.strictKindHolds Kind.isRecord root
    if guarded then return marks else g.strictVisit g.size marks root
  else return marks

/-- Search from every type in turn, apart from records and types that are done. -/
def strictCheckCycles (g : TypeGraph) : Strict Unit := do
  let _ ← g.refs.foldlM g.strictVisitRoot (Array.replicate g.size Mark.fresh)
  return ()

/-- Put a member in front of the first one that does not rank below it. -/
def strictInsertMember (g : TypeGraph) (t : TypeRef) : List TypeRef → Strict (List TypeRef)
  | [] => do
    let _ ← g.lookUp t
    return [t]
  | m :: rest => do
    let node ← g.lookUp t
    let other ← g.lookUp m
    if node.kind.rank ≤ other.kind.rank then return t :: m :: rest
    else return m :: (← g.strictInsertMember t rest)

/-- The kind with the members of a union in canonical order. -/
def strictCanonicalKind (g : TypeGraph) : Kind → Strict Kind
  | .union members => return .union (← members.foldrM g.strictInsertMember [])
  | kind => return kind

/-- The type with its kind in canonical order. -/
def strictCanonicalNode (g : TypeGraph) (node : Node) : Strict Node := do
  return { node with kind := ← g.strictCanonicalKind node.kind }

/-- The graph with the members of all unions in canonical order. -/
def strictCanonical (g : TypeGraph) : Strict TypeGraph := do
  let nodes ← g.types.toList.mapM g.strictCanonicalNode
  return { g with types := nodes.toArray }

/-- The accepted graph of the given types and top-levels. -/
def strictMake (types : Array Node) (topLevels : List TopLevel) : Strict TypeGraph := do
  let g : TypeGraph := ⟨types, topLevels⟩
  if g.topLevels.isEmpty then throw .noTopLevels
  lift (g.checkTopLevels [] g.topLevels)
  g.types.toList.zipIdx.forM fun entry => g.strictCheckNode ⟨entry.2⟩ entry.1
  g.strictCheckCycles
  g.strictCanonical

/-! ## Checks -/

/-- A reference within the size of the graph is looked up. -/
theorem lookUp_eq (h : t.index < g.size) :
    ∃ node, g.node? t = some node ∧ g.lookUp t = lift (.ok node) := by
  have hnode : g.node? t = some g.types[t.index] := Array.getElem?_eq_getElem h
  refine ⟨_, hnode, ?_⟩
  rw [lookUp, hnode]
  rfl

/-- What holds of its kind is found. -/
theorem strictKindHolds_eq (h : t.index < g.size) (p : Kind → Bool) :
    g.strictKindHolds p t = lift (.ok (g.kindHolds p t)) := by
  obtain ⟨node, hnode, hlookUp⟩ := lookUp_eq h
  have hkind : g.kind? t = some node.kind := by rw [kind?, hnode]; rfl
  rw [strictKindHolds, hlookUp, kindHolds_eq hkind]
  rfl

/-- A kind is checked with strict lookups: a member is looked up once its range has been checked. -/
theorem strictCheckKind_eq (owner : TypeRef) (k : Kind) :
    g.strictCheckKind owner k = lift (g.checkKind owner k) := by
  cases k with
  | union members =>
      cases members with
      | nil => rfl
      | cons first rest =>
          show (first :: rest).forM (g.strictCheckMember owner) = lift ((first :: rest).forM fun m =>
            g.checkRef m (.union owner) >>= fun _ =>
              if g.kindHolds Kind.isUnion m then .error (.nestedUnion owner m) else .ok ())
          refine forM_eq_lift fun m _ => ?_
          rw [strictCheckMember]
          -- The lookup of a member is reached only if its range has been checked.
          refine bind_eq_lift fun _ hm => ?_
          rw [strictKindHolds_eq (checkRef_eq_ok.1 hm)]
          show (if g.kindHolds Kind.isUnion m = true then _ else _) = _
          split <;> rfl
  | any | null | bool | integer | double | text | array | map | record | enumeration | formatted => rfl

/-- So is a type. -/
theorem strictCheckNode_eq (owner : TypeRef) (node : Node) :
    g.strictCheckNode owner node = lift (g.checkNode owner node) := by
  rw [strictCheckNode, strictCheckKind_eq, checkNode]
  refine bind_eq_lift fun _ _ => ?_
  cases node.transformation <;> rfl

/-! ## Search -/

/-- References within the size of the graph are looked up to see which are no records. -/
theorem strictUnguarded_eq {refs : List TypeRef} (h : ∀ r ∈ refs, r.index < g.size) :
    g.strictUnguarded refs = lift (.ok (refs.filter fun r => !g.kindHolds Kind.isRecord r)) := by
  induction refs with
  | nil => rfl
  | cons r rest ih =>
      obtain ⟨hr, hrest⟩ := List.forall_mem_cons.1 h
      rw [strictUnguarded, strictKindHolds_eq hr, ih hrest, List.filter_cons]
      cases g.kindHolds Kind.isRecord r <;> rfl

/-- All that a type refers to is looked up to see what it leads to. -/
theorem strictUnguardedRefs_eq (hclosed : g.Closed) (ht : t.index < g.size) :
    g.strictUnguardedRefs t = lift (.ok (g.unguardedRefs t)) := by
  obtain ⟨node, hnode, hlookUp⟩ := lookUp_eq ht
  obtain ⟨hkind, htransformation⟩ := hclosed t node hnode
  rw [strictUnguardedRefs, hlookUp, unguardedRefs, hnode]
  refine strictUnguarded_eq fun r hr => ?_
  rcases List.mem_append.1 hr with hr | hr
  · exact hkind r (mem_kindRefs hr)
  · cases hx : node.transformation with
    | none =>
        rw [hx] at hr
        cases hr
    | some x =>
        rw [hx] at hr
        exact htransformation x hx r (List.mem_filter.1 hr).1

/-- A type of the graph has a mark. -/
theorem markAt_eq {marks : Array Mark} (hsize : marks.size = g.size) (ht : t.index < g.size) :
    ∃ mark, marks[t.index]? = some mark ∧ markAt marks t = lift (.ok mark) := by
  have hlt : t.index < marks.size := hsize ▸ ht
  have hmark : marks[t.index]? = some marks[t.index] := Array.getElem?_eq_getElem hlt
  refine ⟨_, hmark, ?_⟩
  rw [markAt, hmark]
  rfl

/-- A visit looks up types and marks that there are, and marks no further types. -/
theorem strictVisit_eq (hclosed : g.Closed) (depth : Nat) {marks : Array Mark}
    (hsize : marks.size = g.size) (ht : t.index < g.size) :
    g.strictVisit depth marks t = lift (g.visit depth marks t) ∧
      ∀ marks', g.visit depth marks t = .ok marks' → marks'.size = g.size := by
  induction depth generalizing marks t with
  | zero =>
      refine ⟨rfl, fun marks' h => ?_⟩
      cases h
      exact hsize
  | succ depth ih =>
      -- A child is in the graph, and there are as many marks as types, so that it has one.
      have hchild : ∀ child ∈ g.unguardedRefs t, ∀ marks : Array Mark, marks.size = g.size →
          strictVisitChild (g.strictVisit depth) marks child = lift (g.visitChild depth marks child) ∧
            ∀ marks', g.visitChild depth marks child = .ok marks' → marks'.size = g.size := by
        intro child hchild marks hsize
        have hlt := hclosed.unguarded_lt t child hchild
        obtain ⟨mark, hmark, hmarkAt⟩ := markAt_eq hsize hlt
        rw [strictVisitChild, hmarkAt, visitChild, hmark]
        cases mark with
        | active =>
            refine ⟨rfl, fun marks' h => ?_⟩
            cases h
        | fresh => exact ih hsize hlt
        | done =>
            refine ⟨rfl, fun marks' h => ?_⟩
            cases h
            exact hsize
      have hstart : (marks.setIfInBounds t.index .active).size = g.size := by
        rw [Array.size_setIfInBounds, hsize]
      obtain ⟨hfold, hkeeps⟩ := foldlM_eq_lift hchild hstart
      rw [strictVisit, strictUnguardedRefs_eq hclosed ht, visit_succ]
      refine ⟨?_, fun marks' h => ?_⟩
      · show ((g.unguardedRefs t).foldlM (strictVisitChild (g.strictVisit depth)) _ >>= _) = _
        rw [hfold]
        exact bind_eq_lift fun _ _ => rfl
      · obtain ⟨between, hbetween, h⟩ := bind_eq_ok.1 h
        cases h
        rw [Array.size_setIfInBounds, hkeeps between hbetween]

/-- The search for cycles looks up types and marks that there are. -/
theorem strictCheckCycles_eq (hclosed : g.Closed) :
    g.strictCheckCycles = lift g.checkCycles := by
  have hroot : ∀ root ∈ g.refs, ∀ marks : Array Mark, marks.size = g.size →
      g.strictVisitRoot marks root = lift (g.visitRoot marks root) ∧
        ∀ marks', g.visitRoot marks root = .ok marks' → marks'.size = g.size := by
    intro root hmem marks hsize
    have hlt := index_lt_of_mem_refs hmem
    obtain ⟨hvisit, hkeeps⟩ := strictVisit_eq hclosed g.size hsize hlt
    -- Records, and types that are done, leave the marks as they are.
    have hdone : ∀ marks', Except.ok marks = (Except.ok marks' : Except GraphError _) →
        marks'.size = g.size := by
      intro marks' h
      cases h
      exact hsize
    obtain ⟨mark, hmark, hmarkAt⟩ := markAt_eq hsize hlt
    rw [strictVisitRoot, hmarkAt, visitRoot, hmark]
    cases mark with
    | active | done => exact ⟨rfl, hdone⟩
    | fresh =>
        show (g.strictKindHolds Kind.isRecord root >>= _) = _ ∧ _
        rw [strictKindHolds_eq hlt]
        cases hguarded : g.kindHolds Kind.isRecord root with
        | true => exact ⟨rfl, hdone⟩
        | false => exact ⟨hvisit, hkeeps⟩
  obtain ⟨hfold, -⟩ := foldlM_eq_lift hroot Array.size_replicate
  rw [strictCheckCycles, hfold, checkCycles_eq]
  exact bind_eq_lift fun _ _ => rfl

/-! ## Canonical order -/

/-- A member of a union and those behind it are looked up to put it in its place. -/
theorem strictInsertMember_eq (ht : t.index < g.size) {members : List TypeRef}
    (h : ∀ m ∈ members, m.index < g.size) :
    g.strictInsertMember t members = lift (.ok (g.insertMember t members)) := by
  have hrank {r : TypeRef} (hr : r.index < g.size) : ∃ node, g.lookUp r = lift (.ok node) ∧
      g.rank r = node.kind.rank := by
    obtain ⟨node, hnode, hlookUp⟩ := lookUp_eq hr
    refine ⟨node, hlookUp, ?_⟩
    rw [rank, kind?, hnode]
    rfl
  obtain ⟨node, hnode, hnodeRank⟩ := hrank ht
  induction members with
  | nil =>
      rw [strictInsertMember, hnode]
      rfl
  | cons m rest ih =>
      obtain ⟨hm, hrest⟩ := List.forall_mem_cons.1 h
      obtain ⟨other, hother, hotherRank⟩ := hrank hm
      rw [strictInsertMember, hnode, hother, ih hrest, insertMember, hnodeRank, hotherRank]
      show (if node.kind.rank ≤ other.kind.rank then _ else _) = _
      split <;> rfl

/-- Members that denote types are put in order. -/
theorem strictSort_eq {members : List TypeRef} (h : ∀ m ∈ members, m.index < g.size) :
    members.foldrM g.strictInsertMember [] = lift (.ok (g.sortMembers members)) := by
  induction members with
  | nil => rfl
  | cons m rest ih =>
      obtain ⟨hm, hrest⟩ := List.forall_mem_cons.1 h
      rw [List.foldrM_cons, ih hrest]
      exact strictInsertMember_eq hm fun r hr => hrest r ((g.sortMembers_perm rest).mem_iff.1 hr)

/-- Kinds that refer to types are put into canonical order. -/
theorem strictCanonicalKind_eq {k : Kind} (h : ∀ r ∈ kindRefs k, r.index < g.size) :
    g.strictCanonicalKind k = lift (.ok (g.canonicalKind k)) := by
  cases k with
  | union members =>
      have hsort : members.foldrM g.strictInsertMember [] = lift (.ok (g.sortMembers members)) :=
        strictSort_eq h
      rw [strictCanonicalKind, hsort]
      rfl
  | any | null | bool | integer | double | text | array | map | record | enumeration | formatted => rfl

/-- Canonical order is found by looking up members that denote types. -/
theorem strictCanonical_eq (hclosed : g.Closed) : g.strictCanonical = lift (.ok g.canonical) := by
  have hnodes {nodes : List Node} (h : ∀ node ∈ nodes, ∃ t, g.node? t = some node) :
      nodes.mapM g.strictCanonicalNode = lift (.ok (nodes.map fun node => { node with kind := g.canonicalKind node.kind })) := by
    induction nodes with
    | nil => rfl
    | cons node rest ih =>
        obtain ⟨⟨t, hnode⟩, hrest⟩ := List.forall_mem_cons.1 h
        rw [List.mapM_cons, strictCanonicalNode, strictCanonicalKind_eq (hclosed t node hnode).1,
          ih hrest]
        rfl
  have htypes : g.types.toList.mapM g.strictCanonicalNode =
      lift (.ok (g.types.toList.map fun node => { node with kind := g.canonicalKind node.kind })) := by
    refine hnodes fun node hmem => ?_
    obtain ⟨i, hi⟩ := Array.mem_iff_getElem?.1 (Array.mem_toList_iff.1 hmem)
    exact ⟨⟨i⟩, hi⟩
  rw [strictCanonical, htypes]
  show lift (.ok ({ g with types := (g.types.toList.map fun node => { node with kind := g.canonicalKind node.kind }).toArray } : TypeGraph)) = _
  rw [← Array.toList_map, Array.toArray_toList]
  rfl

/-! ## The whole -/

/-- Accepting types and top-levels looks up references that denote types only: with strict lookups
it gives the same graph or finds the same fault. -/
theorem strictMake_eq (types : Array Node) (topLevels : List TopLevel) :
    strictMake types topLevels = lift (make types topLevels) := by
  let g : TypeGraph := ⟨types, topLevels⟩
  have hnodes : (g.types.toList.zipIdx.forM fun entry => g.strictCheckNode ⟨entry.2⟩ entry.1) =
      lift (g.types.toList.zipIdx.forM fun entry => g.checkNode ⟨entry.2⟩ entry.1) :=
    forM_eq_lift fun entry _ => strictCheckNode_eq ⟨entry.2⟩ entry.1
  show strictMake types topLevels = lift (g.check >>= fun _ => .ok g.canonical)
  cases hempty : topLevels.isEmpty with
  | true =>
      simp only [strictMake, check, hempty, g]
      rfl
  | false =>
      simp only [strictMake, check, hempty, g, Bool.false_eq_true, if_false, bind_assoc]
      refine bind_eq_lift fun _ _ => ?_
      rw [hnodes]
      refine bind_eq_lift fun _ hchecked => ?_
      -- The search and the order of members come behind the checks of all types.
      have hclosed : g.Closed := closed_of_checkNode (checkNodes_eq_ok.1 hchecked)
      rw [strictCheckCycles_eq hclosed]
      exact bind_eq_lift fun _ _ => strictCanonical_eq hclosed

end TypeGraph

end TypedJson
