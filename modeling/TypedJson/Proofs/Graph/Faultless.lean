import TypedJson.Proofs.Graph.Acyclic

/-!
# Graphs without faults

`check_iff_faultless` says which graphs are accepted: those whose references denote types, whose
unions have members other than unions, whose top-levels have names of their own, and whose types
have heights. That the search for cycles meets none is seen from the heights: a visit leads to lower
types only, while every type on the way to it is higher.
-/

namespace TypedJson.TypeGraph

variable {g : TypeGraph} {t : TypeRef} {marks marks' : Array Mark}

/-! ## Search -/

/-- The same types are active. -/
def SameActive (marks marks' : Array Mark) : Prop :=
  ∀ i : Nat, marks[i]? = some .active ↔ marks'[i]? = some .active

/-- The search goes on, and the same types are active afterwards as in the given marks. -/
def Returns (r : Except GraphError (Array Mark)) (marks : Array Mark) : Prop :=
  ∃ marks', r = .ok marks' ∧ SameActive marks' marks

/-- Every active type is higher. -/
def Above (height : TypeRef → Nat) (marks : Array Mark) (t : TypeRef) : Prop :=
  ∀ s : TypeRef, marks[s.index]? = some .active → height t < height s

/-- Doing nothing keeps the active types. -/
theorem returns_ok (h : SameActive marks marks') : Returns (.ok marks) marks' :=
  ⟨marks, rfl, h⟩

/-- Steps that keep the active types keep them together. -/
theorem returns_foldlM {f : Array Mark → TypeRef → Except GraphError (Array Mark)}
    {ts : List TypeRef} (h : ∀ s ∈ ts, ∀ between, SameActive between marks →
      Returns (f between s) marks) {between : Array Mark} (hbetween : SameActive between marks) :
    Returns (ts.foldlM f between) marks := by
  induction ts generalizing between with
  | nil => exact returns_ok hbetween
  | cons s rest ih =>
      obtain ⟨hs, hrest⟩ := List.forall_mem_cons.1 h
      obtain ⟨after, hafter, hsame⟩ := hs between hbetween
      rw [List.foldlM_cons, hafter]
      exact ih hrest hsame

/-- With the same active types, all of them are higher again. -/
theorem Above.congr {height : TypeRef → Nat} (h : Above height marks t)
    (hsame : SameActive marks' marks) : Above height marks' t :=
  fun s hs => h s ((hsame s.index).1 hs)

/-- A type below all active ones is not active. -/
theorem Above.not_active {height : TypeRef → Nat} (h : Above height marks t) :
    marks[t.index]? ≠ some .active :=
  fun ht => Nat.lt_irrefl _ (h t ht)

/-- What an unguarded type of the graph leads to is lower. -/
theorem IsHeight.unguarded_lt {height : TypeRef → Nat} (hh : g.IsHeight height)
    (ht : g.kindHolds Kind.isRecord t = false) :
    ∀ r ∈ g.unguardedRefs t, height r < height t ∧ g.kindHolds Kind.isRecord r = false := by
  intro r hr
  refine ⟨?_, not_isRecord_of_unguarded hr⟩
  unfold unguardedRefs at hr
  split at hr
  · cases hr
  next node hnode =>
    have hr := (List.mem_filter.1 hr).1
    have hkind : g.kind? t = some node.kind := by
      rw [kind?, hnode]
      rfl
    rcases List.mem_append.1 hr with hr | hr
    · exact hh.structural hkind hr
    · split at hr
      next x hx =>
        have htransformation : g.transformation? t = some x := by
          rw [transformation?, hnode]
          exact hx
        obtain ⟨hr, hne⟩ := List.mem_filter.1 hr
        exact hh.referred ht htransformation hr (by simpa using hne)
      next => cases hr

/-- Making a type active keeps its children below all active types. -/
theorem Above.child {height : TypeRef → Nat} (h : Above height marks t) {c : TypeRef}
    (hc : height c < height t) : Above height (marks.setIfInBounds t.index .active) c := by
  intro s hs
  by_cases heq : t.index = s.index
  · obtain rfl : t = s := congrArg TypeRef.mk heq
    exact hc
  · rw [Array.getElem?_setIfInBounds, if_neg heq] at hs
    exact Nat.lt_trans hc (h s hs)

/-- Making a type active and done afterwards keeps the active types. -/
theorem sameActive_done (ht : marks[t.index]? ≠ some .active)
    (h : SameActive marks' (marks.setIfInBounds t.index .active)) :
    SameActive (marks'.setIfInBounds t.index .done) marks := by
  intro i
  have hi := h i
  rw [Array.getElem?_setIfInBounds] at hi ⊢
  by_cases heq : t.index = i
  · subst heq
    rw [if_pos rfl]
    refine iff_of_false (fun hdone => ?_) ht
    split at hdone <;> cases hdone
  · rw [if_neg heq] at hi ⊢
    exact hi

/-- A visit below all active types meets none of them. -/
theorem IsHeight.visit_returns {height : TypeRef → Nat} (hh : g.IsHeight height) (depth : Nat)
    (ht : g.kindHolds Kind.isRecord t = false) (habove : Above height marks t) :
    Returns (g.visit depth marks t) marks := by
  induction depth generalizing marks t with
  | zero => exact returns_ok fun _ => Iff.rfl
  | succ depth ih =>
      let start := marks.setIfInBounds t.index .active
      have hchild : ∀ c ∈ g.unguardedRefs t, ∀ between, SameActive between start →
          Returns (g.visitChild depth between c) start := by
        intro c hc between hbetween
        obtain ⟨hlow, hrecord⟩ := hh.unguarded_lt ht c hc
        have hbelow : Above height between c := (habove.child hlow).congr hbetween
        unfold visitChild
        split
        next hactive => exact absurd hactive hbelow.not_active
        next =>
          obtain ⟨after, hafter, hsame⟩ := ih hrecord hbelow
          exact ⟨after, hafter, fun i => (hsame i).trans (hbetween i)⟩
        next => exact returns_ok hbetween
      obtain ⟨after, hafter, hsame⟩ := returns_foldlM hchild fun _ => Iff.rfl
      rw [visit_succ, hafter]
      exact returns_ok (sameActive_done habove.not_active hsame)

/-- A graph whose types have heights has no cycle that no record breaks. -/
theorem IsHeight.checkCycles {height : TypeRef → Nat} (hh : g.IsHeight height) :
    g.checkCycles = .ok () := by
  have hroot : ∀ root ∈ g.refs, ∀ between, SameActive between (Array.replicate g.size .fresh) →
      Returns (g.visitRoot between root) (Array.replicate g.size .fresh) := by
    intro root _ between hbetween
    -- Between two roots no type is active.
    have habove : Above height between root := by
      intro s hs
      have hfresh := (hbetween s.index).1 hs
      rw [Array.getElem?_replicate] at hfresh
      split at hfresh <;> cases hfresh
    unfold visitRoot
    split
    next hfresh =>
      obtain ⟨after, hafter, hsame⟩ := hh.visit_returns g.size (by simpa using hfresh.2) habove
      exact ⟨after, hafter, fun i => (hsame i).trans (hbetween i)⟩
    next => exact returns_ok hbetween
  obtain ⟨after, hafter, -⟩ := returns_foldlM hroot fun _ => Iff.rfl
  rw [checkCycles_eq, hafter]
  rfl

/-! ## All checks together -/

/-- What the checks of a graph ask for. -/
structure Faultless (g : TypeGraph) : Prop where
  nonempty : g.topLevels ≠ []
  named : (g.topLevels.map TopLevel.name).Nodup
  topLevels : ∀ top ∈ g.topLevels, top.type.index < g.size
  closed : g.Closed
  members {t : TypeRef} {ms : List TypeRef} : g.kind? t = some (.union ms) →
    ms ≠ [] ∧ ∀ m ∈ ms, g.kindHolds Kind.isUnion m = false
  acyclic : ∃ height, g.IsHeight height

/-- Every type passes its check if types refer to types, and unions have members other than
unions. -/
theorem checkNode_iff_closed :
    (∀ t node, g.node? t = some node → g.checkNode t node = .ok ()) ↔
      g.Closed ∧ ∀ t ms, g.kind? t = some (.union ms) →
        ms ≠ [] ∧ ∀ m ∈ ms, g.kindHolds Kind.isUnion m = false := by
  simp only [checkNode_eq_ok, checkKind_eq_ok, checkTransformation_eq_ok]
  constructor
  · intro h
    refine ⟨fun t node hnode => ⟨(h t node hnode).1.1, (h t node hnode).2⟩, fun t ms hk => ?_⟩
    obtain ⟨node, hnode, hunion⟩ := Option.map_eq_some_iff.1 hk
    exact (h t node hnode).1.2 ms hunion
  · rintro ⟨hclosed, hmembers⟩ t node hnode
    refine ⟨⟨(hclosed t node hnode).1, fun ms hunion => hmembers t ms ?_⟩, (hclosed t node hnode).2⟩
    rw [kind?, hnode, Option.map_some, hunion]

/-- A graph is accepted if it has all that the checks ask for, and only then. -/
theorem check_iff_faultless : g.check = .ok () ↔ g.Faultless := by
  rw [check_iff, checkTopLevels_eq_ok, checkNode_iff_closed]
  constructor
  · rintro ⟨hne, ⟨htops, hnamed⟩, ⟨hclosed, hmembers⟩, hcycles⟩
    exact ⟨hne, hnamed, fun top htop => (htops top htop).1, hclosed, fun {t ms} => hmembers t ms,
      exists_isHeight_of_checkCycles hclosed hcycles⟩
  · intro h
    obtain ⟨height, hheight⟩ := h.acyclic
    exact ⟨h.nonempty, ⟨fun top htop => ⟨h.topLevels top htop, List.not_mem_nil⟩, h.named⟩,
      ⟨h.closed, fun _ _ => h.members⟩, hheight.checkCycles⟩

end TypedJson.TypeGraph
