import TypedJson.Graph.Builder
import TypedJson.Proofs.Graph.Acceptance

/-!
# Acyclicity of accepted graphs

A graph whose check for cycles passes gives every type a height: an array or map is higher than its
elements, a union higher than its members, and a type with a transformation higher than the other
types that this refers to, records without one of their own apart. `exists_isHeight_of_checkCycles`
is the result. The types that the search finishes are kept in a list, the latest first, in which all
that a type leads to stand behind it; `visit_finishes` says what one visit adds to the list, by
induction on its depth.
-/

namespace TypedJson.TypeGraph

/-! ## Finished types -/

/-- All that a type of the list leads to stand behind it. -/
inductive Layered (g : TypeGraph) : List TypeRef → Prop
  | nil : Layered g []
  | cons {t : TypeRef} {order : List TypeRef} (horder : Layered g order) (hnew : t ∉ order)
      (hleads : ∀ r ∈ g.unguardedRefs t, r ∈ order) : Layered g (t :: order)

/-- The types that are done are those of the list, which are no records. -/
structure Finished (g : TypeGraph) (marks : Array Mark) (order : List TypeRef) : Prop where
  size : marks.size = g.size
  layered : g.Layered order
  done {t : TypeRef} : marks[t.index]? = some .done ↔ t ∈ order
  guarded {t : TypeRef} : t ∈ order → g.kindHolds Kind.isRecord t = false

/-- A search leaves active what was, makes nothing fresh and undoes nothing. -/
structure Advances (marks marks' : Array Mark) : Prop where
  active {i : Nat} : marks'[i]? = some .active ↔ marks[i]? = some .active
  fresh {i : Nat} : marks'[i]? = some .fresh → marks[i]? = some .fresh
  done {i : Nat} : marks[i]? = some .done → marks'[i]? = some .done

/-- The positions of the fresh types. -/
def freshPositions (marks : Array Mark) : Finset Nat :=
  (Finset.range marks.size).filter fun i => marks[i]? = some .fresh

variable {g : TypeGraph} {t : TypeRef} {marks marks' marks'' : Array Mark} {order : List TypeRef}

/-- A type that is not in front leads to types behind. -/
theorem Layered.mem_of_mem (h : g.Layered order) (ht : t ∈ order) {r : TypeRef}
    (hr : r ∈ g.unguardedRefs t) : r ∈ order := by
  induction h with
  | nil => cases ht
  | cons _ _ hleads ih =>
      obtain rfl | ht := List.mem_cons.1 ht
      · exact List.mem_cons_of_mem _ (hleads r hr)
      · exact List.mem_cons_of_mem _ (ih ht)

/-- No type is finished twice. -/
theorem Layered.nodup (h : g.Layered order) : order.Nodup := by
  induction h with
  | nil => exact List.nodup_nil
  | cons _ hnew _ ih => exact List.nodup_cons.2 ⟨hnew, ih⟩

/-- Doing nothing advances a search. -/
theorem Advances.refl (marks : Array Mark) : Advances marks marks :=
  ⟨Iff.rfl, id, id⟩

/-- Searches one behind the other advance it. -/
theorem Advances.trans (h : Advances marks marks') (h' : Advances marks' marks'') :
    Advances marks marks'' :=
  ⟨h'.active.trans h.active, fun hi => h.fresh (h'.fresh hi), fun hi => h'.done (h.done hi)⟩

/-- A position is fresh where its mark is. -/
theorem mem_freshPositions {i : Nat} : i ∈ freshPositions marks ↔ marks[i]? = some .fresh := by
  rw [freshPositions, Finset.mem_filter, Finset.mem_range]
  refine ⟨And.right, fun h => ⟨?_, h⟩⟩
  exact (Array.getElem?_eq_some_iff.1 h).1

/-- A search leaves no more types fresh than there were. -/
theorem Advances.card_le (h : Advances marks marks') :
    (freshPositions marks').card ≤ (freshPositions marks).card :=
  Finset.card_le_card fun _ hi => mem_freshPositions.2 (h.fresh (mem_freshPositions.1 hi))

/-- A mark that is set is the mark of its position. -/
theorem getElem?_mark (hsize : t.index < marks.size) (mark : Mark) (i : Nat) :
    (marks.setIfInBounds t.index mark)[i]? = if t.index = i then some mark else marks[i]? := by
  rw [Array.getElem?_setIfInBounds, if_pos hsize]

/-! ## Searching -/

/-- What a visit does with a child. -/
def visitChild (g : TypeGraph) (depth : Nat) (marks : Array Mark) (child : TypeRef) :
    Except GraphError (Array Mark) :=
  match marks[child.index]? with
  | some .active => .error (.unguardedCycle child)
  | some .fresh => g.visit depth marks child
  | _ => .ok marks

/-- A visit goes through the children of its type. -/
theorem visit_succ (depth : Nat) (marks : Array Mark) (t : TypeRef) :
    g.visit (depth + 1) marks t =
      ((g.unguardedRefs t).foldlM (g.visitChild depth) (marks.setIfInBounds t.index .active) >>=
        fun marks => .ok (marks.setIfInBounds t.index .done)) :=
  rfl

/-- What the search does with a root. -/
def visitRoot (g : TypeGraph) (marks : Array Mark) (root : TypeRef) :
    Except GraphError (Array Mark) :=
  if marks[root.index]? = some .fresh ∧ ¬ g.kindHolds Kind.isRecord root then
    g.visit g.size marks root
  else .ok marks

/-- The search goes through all types. -/
theorem checkCycles_eq (g : TypeGraph) :
    g.checkCycles =
      (g.refs.foldlM g.visitRoot (Array.replicate g.size Mark.fresh) >>= fun _ => .ok ()) :=
  rfl

/-- The references of a graph are within its size. -/
theorem index_lt_of_mem_refs (h : t ∈ g.refs) : t.index < g.size := by
  obtain ⟨i, hi, rfl⟩ := List.mem_map.1 h
  exact List.mem_range.1 hi

/-- A visit from a fresh type finishes it. -/
def VisitFinishes (g : TypeGraph) (depth : Nat) : Prop :=
  ∀ {marks marks' : Array Mark} {order : List TypeRef} {t : TypeRef}, g.Finished marks order →
    marks[t.index]? = some .fresh → g.kindHolds Kind.isRecord t = false →
    (freshPositions marks).card ≤ depth → g.visit depth marks t = .ok marks' →
    ∃ order', g.Finished marks' order' ∧ Advances marks marks' ∧ t ∈ order'

/-- Visiting types in turn, where fresh, finishes all of them. -/
theorem VisitFinishes.foldlM {depth : Nat} (hvisit : g.VisitFinishes depth) {ts : List TypeRef}
    (hts : ∀ c ∈ ts, c.index < g.size ∧ g.kindHolds Kind.isRecord c = false)
    (hinv : g.Finished marks order) (hdepth : (freshPositions marks).card ≤ depth)
    (h : ts.foldlM (g.visitChild depth) marks = .ok marks') :
    ∃ order', g.Finished marks' order' ∧ Advances marks marks' ∧ ∀ c ∈ ts, c ∈ order' := by
  induction ts generalizing marks order with
  | nil =>
      cases h
      exact ⟨order, hinv, .refl _, List.forall_mem_nil _⟩
  | cons c rest ih =>
      obtain ⟨⟨hc, hrecord⟩, hrest⟩ := List.forall_mem_cons.1 hts
      rw [List.foldlM_cons, bind_eq_ok] at h
      obtain ⟨middle, hmiddle, h⟩ := h
      -- The child is finished once it has had its turn.
      obtain ⟨order₁, hinv₁, hadvances₁, hmem₁⟩ : ∃ order₁, g.Finished middle order₁ ∧
          Advances marks middle ∧ c ∈ order₁ := by
        obtain ⟨mark, hmark⟩ : ∃ mark, marks[c.index]? = some mark :=
          ⟨_, Array.getElem?_eq_getElem (hinv.size ▸ hc)⟩
        rw [visitChild, hmark] at hmiddle
        cases mark with
        | active => cases hmiddle
        | fresh => exact hvisit hinv hmark hrecord hdepth hmiddle
        | done =>
            cases hmiddle
            exact ⟨order, hinv, .refl _, hinv.done.1 hmark⟩
      obtain ⟨order', hinv', hadvances, hmem⟩ :=
        ih hrest hinv₁ (Nat.le_trans hadvances₁.card_le hdepth) h
      refine ⟨order', hinv', hadvances₁.trans hadvances, List.forall_mem_cons.2 ⟨?_, hmem⟩⟩
      exact hinv'.done.1 (hadvances.done (hinv₁.done.2 hmem₁))

/-- What a type leads to at once is no record. -/
theorem not_isRecord_of_unguarded {r : TypeRef} (hr : r ∈ g.unguardedRefs t) :
    g.kindHolds Kind.isRecord r = false := by
  unfold unguardedRefs at hr
  split at hr
  · cases hr
  · simpa using (List.mem_filter.1 hr).2

/-- While a type is active, the same types are done. -/
theorem Finished.activate (h : g.Finished marks order) (hfresh : marks[t.index]? = some .fresh) :
    g.Finished (marks.setIfInBounds t.index .active) order := by
  have hout : t ∉ order := fun hmem => by
    have hdone := h.done.2 hmem
    rw [hfresh] at hdone
    cases hdone
  refine ⟨by rw [Array.size_setIfInBounds, h.size], h.layered, fun {s} => ?_, h.guarded⟩
  rw [getElem?_mark (Array.getElem?_eq_some_iff.1 hfresh).1]
  split
  next heq =>
    obtain rfl : t = s := congrArg TypeRef.mk heq
    exact ⟨nofun, fun hmem => absurd hmem hout⟩
  next => exact h.done

/-- One type less is fresh then. -/
theorem card_freshPositions_activate (hfresh : marks[t.index]? = some .fresh) :
    (freshPositions (marks.setIfInBounds t.index .active)).card < (freshPositions marks).card := by
  have hget := getElem?_mark (Array.getElem?_eq_some_iff.1 hfresh).1 .active
  refine Finset.card_lt_card ((Finset.ssubset_iff_of_subset fun i hi => ?_).2
    ⟨t.index, mem_freshPositions.2 hfresh, fun hi => ?_⟩)
  · rw [mem_freshPositions, hget] at hi
    split at hi
    · cases hi
    · exact mem_freshPositions.2 hi
  · rw [mem_freshPositions, hget, if_pos rfl] at hi
    cases hi

/-- An active type is done once all that it leads to is. -/
theorem Finished.complete (h : g.Finished marks order) (hactive : marks[t.index]? = some .active)
    (hrecord : g.kindHolds Kind.isRecord t = false) (hleads : ∀ r ∈ g.unguardedRefs t, r ∈ order) :
    g.Finished (marks.setIfInBounds t.index .done) (t :: order) := by
  have hnew : t ∉ order := fun hmem => by
    have hdone := h.done.2 hmem
    rw [hactive] at hdone
    cases hdone
  refine ⟨?_, .cons h.layered hnew hleads, fun {s} => ?_, fun {s} hs => ?_⟩
  · rw [Array.size_setIfInBounds, h.size]
  · rw [getElem?_mark (Array.getElem?_eq_some_iff.1 hactive).1, List.mem_cons]
    split
    next heq =>
      obtain rfl : t = s := congrArg TypeRef.mk heq
      exact ⟨fun _ => .inl rfl, fun _ => rfl⟩
    next hne =>
      rw [h.done, or_iff_right]
      rintro rfl
      exact hne rfl
  · obtain rfl | hs := List.mem_cons.1 hs
    · exact hrecord
    · exact h.guarded hs

/-- A search below an active type advances the search, which has the type done in the end. -/
theorem Advances.complete (h : Advances (marks.setIfInBounds t.index .active) marks')
    (hfresh : marks[t.index]? = some .fresh) (hactive : marks'[t.index]? = some .active) :
    Advances marks (marks'.setIfInBounds t.index .done) := by
  have hstart := getElem?_mark (Array.getElem?_eq_some_iff.1 hfresh).1 .active
  have hfinal := getElem?_mark (Array.getElem?_eq_some_iff.1 hactive).1 .done
  -- The type itself goes from fresh to done; the marks of all others are those of the search.
  refine ⟨fun {i} => ?_, fun {i} hi => ?_, fun {i} hi => ?_⟩
  · rw [hfinal]
    split
    next heq =>
      subst heq
      rw [hfresh]
      exact ⟨nofun, nofun⟩
    next hne => rw [h.active, hstart, if_neg hne]
  · rw [hfinal] at hi
    split at hi
    · cases hi
    next hne =>
      have hi := h.fresh hi
      rwa [hstart, if_neg hne] at hi
  · rw [hfinal]
    split
    · rfl
    next hne =>
      refine h.done ?_
      rwa [hstart, if_neg hne]

/-- A visit that may go as deep as types are fresh finishes its type. -/
theorem visit_finishes (hrefs : ∀ t, ∀ r ∈ g.unguardedRefs t, r.index < g.size) (depth : Nat) :
    g.VisitFinishes depth := by
  induction depth with
  | zero =>
      intro marks _ _ t _ hfresh _ hdepth _
      have hmem : t.index ∈ freshPositions marks := mem_freshPositions.2 hfresh
      exact absurd (Finset.card_pos.2 ⟨_, hmem⟩) (by omega)
  | succ depth ih =>
      intro marks marks' order t hinv hfresh hrecord hdepth h
      rw [visit_succ, bind_eq_ok] at h
      obtain ⟨final, hfold, hreturn⟩ := h
      obtain rfl : final.setIfInBounds t.index .done = marks' := Except.ok.inj hreturn
      -- The type is active while its children are visited, so that these have one fresh type less.
      have hfewer : (freshPositions (marks.setIfInBounds t.index .active)).card ≤ depth :=
        Nat.le_of_lt_succ (Nat.lt_of_lt_of_le (card_freshPositions_activate hfresh) hdepth)
      have hchildren : ∀ c ∈ g.unguardedRefs t,
          c.index < g.size ∧ g.kindHolds Kind.isRecord c = false :=
        fun c hc => ⟨hrefs t c hc, not_isRecord_of_unguarded hc⟩
      obtain ⟨order', hinv', hadvances, hmem⟩ :=
        ih.foldlM hchildren (hinv.activate hfresh) hfewer hfold
      have hactive : final[t.index]? = some .active := by
        rw [hadvances.active, getElem?_mark (Array.getElem?_eq_some_iff.1 hfresh).1, if_pos rfl]
      exact ⟨t :: order', hinv'.complete hactive hrecord hmem, hadvances.complete hfresh hactive,
        List.mem_cons_self⟩

/-- Visiting roots in turn, where fresh and no records, finishes them: between two roots no type is
active, so that a root is fresh or done. -/
theorem finishes_roots (hrefs : ∀ t, ∀ r ∈ g.unguardedRefs t, r.index < g.size)
    {roots : List TypeRef} (hroots : ∀ root ∈ roots, root.index < g.size)
    (hinv : g.Finished marks order) (hquiet : ∀ i : Nat, marks[i]? ≠ some .active)
    (h : roots.foldlM g.visitRoot marks = .ok marks') :
    ∃ order', g.Finished marks' order' ∧ Advances marks marks' ∧
      ∀ root ∈ roots, g.kindHolds Kind.isRecord root = false → root ∈ order' := by
  induction roots generalizing marks order with
  | nil =>
      cases h
      exact ⟨order, hinv, .refl _, List.forall_mem_nil _⟩
  | cons root rest ih =>
      obtain ⟨hroot, hrest⟩ := List.forall_mem_cons.1 hroots
      rw [List.foldlM_cons, bind_eq_ok] at h
      obtain ⟨middle, hmiddle, h⟩ := h
      -- The root is finished once it has had its turn.
      obtain ⟨order₁, hinv₁, hadvances₁, hmem₁⟩ : ∃ order₁, g.Finished middle order₁ ∧
          Advances marks middle ∧ (g.kindHolds Kind.isRecord root = false → root ∈ order₁) := by
        unfold visitRoot at hmiddle
        split at hmiddle
        next hfresh =>
          have hcard : (freshPositions marks).card ≤ marks.size :=
            (Finset.card_filter_le _ _).trans_eq (Finset.card_range _)
          obtain ⟨order₁, hinv₁, hadvances₁, hmem₁⟩ := visit_finishes hrefs g.size hinv hfresh.1
            (by simpa using hfresh.2) (hinv.size ▸ hcard) hmiddle
          exact ⟨order₁, hinv₁, hadvances₁, fun _ => hmem₁⟩
        next hother =>
          cases hmiddle
          refine ⟨order, hinv, .refl _, fun hrecord => hinv.done.1 ?_⟩
          obtain ⟨mark, hmark⟩ : ∃ mark, marks[root.index]? = some mark :=
            ⟨_, Array.getElem?_eq_getElem (hinv.size ▸ hroot)⟩
          cases mark with
          | active => exact absurd hmark (hquiet _)
          | fresh => exact absurd ⟨hmark, by simp [hrecord]⟩ hother
          | done => exact hmark
      obtain ⟨order', hinv', hadvances, hmem⟩ :=
        ih hrest hinv₁ (fun i hi => hquiet i (hadvances₁.active.1 hi)) h
      refine ⟨order', hinv', hadvances₁.trans hadvances, List.forall_mem_cons.2 ⟨?_, hmem⟩⟩
      exact fun hrecord => hinv'.done.1 (hadvances.done (hinv₁.done.2 (hmem₁ hrecord)))

/-- The list holds the types of the graph, records apart, each in front of all it leads to. -/
structure Sorted (g : TypeGraph) (order : List TypeRef) : Prop where
  layered : g.Layered order
  denotes {t : TypeRef} : t ∈ order → t.index < g.size
  guarded {t : TypeRef} : t ∈ order → g.kindHolds Kind.isRecord t = false
  complete {t : TypeRef} : t.index < g.size → g.kindHolds Kind.isRecord t = false → t ∈ order

/-- Every type is fresh at the start. -/
theorem eq_fresh_of_start {i : Nat} {mark : Mark}
    (h : (Array.replicate g.size Mark.fresh)[i]? = some mark) : mark = .fresh := by
  rw [Array.getElem?_replicate] at h
  split at h <;> cases h
  rfl

/-- No type is finished at the start. -/
theorem finished_start (g : TypeGraph) : g.Finished (Array.replicate g.size .fresh) [] := by
  refine ⟨Array.size_replicate, .nil, ⟨fun hi => ?_, nofun⟩, nofun⟩
  cases eq_fresh_of_start hi

/-- The search from every type in turn sorts the types. -/
theorem exists_sorted_of_checkCycles (hrefs : ∀ t, ∀ r ∈ g.unguardedRefs t, r.index < g.size)
    (h : g.checkCycles = .ok ()) : ∃ order, g.Sorted order := by
  rw [checkCycles_eq, bind_eq_ok] at h
  obtain ⟨marks', hfold, -⟩ := h
  obtain ⟨order, hinv, -, hmem⟩ := finishes_roots hrefs (fun _ => index_lt_of_mem_refs)
    g.finished_start (fun i hi => by cases eq_fresh_of_start hi) hfold
  refine ⟨order, hinv.layered, fun {t} ht => ?_, hinv.guarded, fun {t} ht => hmem t ?_⟩
  · rw [← hinv.size]
    exact (Array.getElem?_eq_some_iff.1 (hinv.done.2 ht)).1
  · exact List.mem_map.2 ⟨t.index, List.mem_range.2 ht, rfl⟩

/-- Every type refers to types of the graph. -/
def Closed (g : TypeGraph) : Prop :=
  ∀ t node, g.node? t = some node → (∀ r ∈ kindRefs node.kind, r.index < g.size) ∧
    ∀ x, node.transformation = some x → ∀ r ∈ x.refs, r.index < g.size

/-- Types that pass their checks refer to types of the graph. -/
theorem closed_of_checkNode (h : ∀ t node, g.node? t = some node → g.checkNode t node = .ok ()) :
    g.Closed := by
  intro t node hnode
  obtain ⟨hkind, htransformation⟩ := checkNode_eq_ok.1 (h t node hnode)
  exact ⟨(checkKind_eq_ok.1 hkind).1, fun x hx => checkTransformation_eq_ok.1 (htransformation x hx)⟩

/-- Then all that a type leads to are types of the graph. -/
theorem Closed.unguarded_lt (h : g.Closed) (t : TypeRef) :
    ∀ r ∈ g.unguardedRefs t, r.index < g.size := by
  intro r hr
  unfold unguardedRefs at hr
  split at hr
  · cases hr
  next node hnode =>
    obtain ⟨hkind, htransformation⟩ := h t node hnode
    obtain hr | hr := List.mem_append.1 (List.mem_filter.1 hr).1
    · exact hkind r (mem_kindRefs hr)
    · split at hr
      next x hx => exact htransformation x hx r (List.mem_filter.1 hr).1
      next => cases hr

/-! ## Heights -/

/-- The height of a type is below the number of types, and above the heights of its elements or
members. A type other than a record is also higher than the other types that its transformation
refers to. -/
structure IsHeight (g : TypeGraph) (height : TypeRef → Nat) : Prop where
  bound {t : TypeRef} : t.index < g.size → height t < g.size
  structural {t r : TypeRef} {k : Kind} : g.kind? t = some k → r ∈ structuralRefs k →
    height r < height t
  referred {t r : TypeRef} {x : Transformation} : g.kindHolds Kind.isRecord t = false →
    g.transformation? t = some x → r ∈ x.refs → r ≠ t → height r < height t

/-- How many types stand behind a type in a list. -/
def behind : List TypeRef → TypeRef → Nat
  | [], _ => 0
  | s :: rest, t => if s = t then rest.length else behind rest t

/-- A type of the list stands in front of fewer types than there are. -/
theorem behind_lt {types : List TypeRef} (h : t ∈ types) : behind types t < types.length := by
  induction types with
  | nil => cases h
  | cons s rest ih =>
      rw [behind, List.length_cons]
      split
      · exact Nat.lt_succ_self _
      next hne => exact Nat.lt_succ_of_lt (ih ((List.mem_cons.1 h).resolve_left (Ne.symm hne)))

/-- What a type leads to stands behind it, also with further types behind all of them. -/
theorem Layered.behind_lt (h : g.Layered order) {guards : List TypeRef}
    (hguards : ∀ s ∈ order, s ∉ guards) (ht : t ∈ order) {r : TypeRef}
    (hr : r ∈ g.unguardedRefs t ∨ r ∈ guards) :
    behind (order ++ guards) r < behind (order ++ guards) t := by
  induction h with
  | nil => cases ht
  | @cons s order horder hnew hleads ih =>
      obtain ⟨hs, hguards⟩ := List.forall_mem_cons.1 hguards
      -- All that a type of the list leads to is in the list too, or among the guards.
      have hmem : t ∈ order → r ∈ order ++ guards := fun ht =>
        hr.elim (fun hr => List.mem_append_left _ (horder.mem_of_mem ht hr)) (List.mem_append_right _)
      rw [List.cons_append, behind, behind]
      obtain rfl | ht := List.mem_cons.1 ht
      · have hbehind : r ∈ order ++ guards :=
          hr.elim (fun hr => List.mem_append_left _ (hleads r hr)) (List.mem_append_right _)
        have hne : t ≠ r := by
          rintro rfl
          exact (List.mem_append.1 hbehind).elim hnew hs
        rw [if_neg hne, if_pos rfl]
        exact TypeGraph.behind_lt hbehind
      · have hne : s ≠ t := fun heq => hnew (heq ▸ ht)
        have hne' : s ≠ r := by
          rintro rfl
          exact (List.mem_append.1 (hmem ht)).elim hnew hs
        rw [if_neg hne, if_neg hne']
        exact ih hguards ht

/-- What a type leads to is unguarded or a record. -/
theorem unguarded_or_record {node : Node} (hnode : g.node? t = some node) {r : TypeRef}
    (hr : r ∈ structuralRefs node.kind ∨ ∃ x, node.transformation = some x ∧ r ∈ x.refs ∧ r ≠ t) :
    r ∈ g.unguardedRefs t ∨ g.kindHolds Kind.isRecord r = true := by
  by_cases hrecord : g.kindHolds Kind.isRecord r = true
  · exact .inr hrecord
  · left
    unfold unguardedRefs
    rw [hnode]
    refine List.mem_filter.2 ⟨List.mem_append.2 ?_, by simpa using hrecord⟩
    rcases hr with hr | ⟨x, hx, hr, hne⟩
    · exact .inl hr
    · right
      rw [hx]
      exact List.mem_filter.2 ⟨hr, by simpa using hne⟩

/-- A reference that denotes a record is among the records. -/
theorem mem_records_of_kindHolds (h : g.kindHolds Kind.isRecord t = true) : t ∈ g.records := by
  unfold kindHolds at h
  split at h
  next k hk => exact mem_filter_refs hk h
  next => cases h

/-- A sorted list and the records have no type in common. -/
theorem Sorted.not_mem_records (h : g.Sorted order) : ∀ s ∈ order, s ∉ g.records := by
  intro s hs hrecord
  have hholds := (List.mem_filter.1 hrecord).2
  rw [h.guarded hs] at hholds
  cases hholds

/-- A sorted list and the records have no more types than the graph. -/
theorem Sorted.length_le (h : g.Sorted order) : (order ++ g.records).length ≤ g.size := by
  have hrefs : g.refs.Nodup := List.nodup_range.map fun a b heq => congrArg TypeRef.index heq
  have hnodup : (order ++ g.records).Nodup := by
    refine List.nodup_append.2 ⟨h.layered.nodup, hrefs.filter _, ?_⟩
    rintro s hs r hr rfl
    exact h.not_mem_records s hs hr
  have hsubset : order ++ g.records ⊆ g.refs := by
    intro s hs
    refine (List.mem_append.1 hs).elim (fun hs => ?_) fun hs => (List.mem_filter.1 hs).1
    exact List.mem_map.2 ⟨s.index, List.mem_range.2 (h.denotes hs), rfl⟩
  have hle := (hnodup.subperm hsubset).length_le
  rwa [refs, List.length_map, List.length_range] at hle

/-- In a sorted list with the records behind it, the place of a type is its height. -/
theorem Sorted.isHeight (h : g.Sorted order) : g.IsHeight (behind (order ++ g.records)) := by
  have hlower {t r : TypeRef} {node : Node} (hnode : g.node? t = some node)
      (ht : g.kindHolds Kind.isRecord t = false)
      (hr : r ∈ structuralRefs node.kind ∨
        ∃ x, node.transformation = some x ∧ r ∈ x.refs ∧ r ≠ t) :
      behind (order ++ g.records) r < behind (order ++ g.records) t :=
    h.layered.behind_lt h.not_mem_records
      (h.complete (Array.getElem?_eq_some_iff.1 hnode).1 ht)
      ((unguarded_or_record hnode hr).imp id mem_records_of_kindHolds)
  refine ⟨fun {t} ht => ?_, fun {t r k} hk hr => ?_, fun {t r x} ht hx hr hne => ?_⟩
  · refine Nat.lt_of_lt_of_le (behind_lt (List.mem_append.2 ?_)) h.length_le
    by_cases hguard : g.kindHolds Kind.isRecord t = true
    · exact .inr (mem_records_of_kindHolds hguard)
    · exact .inl (h.complete ht (by simpa using hguard))
  · obtain ⟨node, hnode, rfl⟩ := Option.map_eq_some_iff.1 hk
    refine hlower hnode ?_ (.inl hr)
    rw [kindHolds_eq hk]
    cases hkind : node.kind with
    | record r => rw [hkind] at hr; cases hr
    | any | null | bool | integer | double | text | array | map | enumeration | union | formatted =>
        rfl
  · obtain ⟨node, hnode, hx⟩ := Option.bind_eq_some_iff.1 hx
    exact hlower hnode ht (.inr ⟨x, hx, hr, hne⟩)

/-- Every graph whose check for cycles passes has heights. -/
theorem exists_isHeight_of_checkCycles (hclosed : g.Closed) (h : g.checkCycles = .ok ()) :
    ∃ height, g.IsHeight height := by
  obtain ⟨order, hsorted⟩ := exists_sorted_of_checkCycles hclosed.unguarded_lt h
  exact ⟨_, hsorted.isHeight⟩

/-- Where no record is transformed, only other types have a transformation. -/
theorem kindHolds_isRecord_of_transformation? (h : g.transformsRecords = false)
    {x : Transformation} (hx : g.transformation? t = some x) :
    g.kindHolds Kind.isRecord t = false := by
  obtain ⟨node, hnode, hx⟩ := Option.bind_eq_some_iff.1 hx
  have hkind : g.kind? t = some node.kind := by rw [kind?, hnode]; rfl
  have hmem : node ∈ g.types.toList := Array.mem_toList_iff.2 (Array.mem_of_getElem? hnode)
  have hnot := List.any_eq_false.1 h node hmem
  rw [hx, Option.isSome_some, Bool.and_true] at hnot
  rw [kindHolds_eq hkind]
  simpa using hnot

/-- A tree of records: a count that a text may stand for, an optional tree on the left, and a list
of further trees. -/
def treeGraph : TypeGraph where
  types := #[⟨.null, none⟩, ⟨.integer, none⟩, ⟨.text, none⟩,
    ⟨.formatted .integerText, some (Builder.integerTextTransformation ⟨2⟩ ⟨1⟩)⟩,
    ⟨.union [⟨0⟩, ⟨6⟩], none⟩, ⟨.array ⟨6⟩, none⟩,
    ⟨.record ⟨"Tree", [⟨"count", ⟨3⟩, none⟩, ⟨"left", ⟨4⟩, none⟩, ⟨"rest", ⟨5⟩, none⟩], none⟩, none⟩]
  topLevels := [⟨"Tree", ⟨6⟩⟩]

/-- Trees are accepted as they are, although a tree contains trees. -/
theorem make_treeGraph : make treeGraph.types treeGraph.topLevels = .ok treeGraph :=
  make_eq_self rfl (by decide)

end TypedJson.TypeGraph
