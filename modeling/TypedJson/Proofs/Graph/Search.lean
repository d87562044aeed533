import Mathlib.Logic.Relation
import TypedJson.Proofs.Graph.Acyclic

/-!
# Exactness of the search for cycles

The search for cycles is a loop over marks, a stack of types with the ones ahead of them, and the
roots that are left. `turn` is one round of it and `reaches_checkCycles` runs it to the end, where
its result is that of `checkCycles`. All that is active stands on the stack, and a type on the stack
leads to those above it (`Searching`), so that meeting an active type closes a cycle; and a search
that ends without one has sorted the types. `checkCycles_exact` is the result.
-/

namespace TypedJson

/-- A type occurs in a transformer: a step takes it, or requires it of a member, or it occurs in a
step for elements, in a branch or behind the step. -/
inductive Transformer.Mentions : Transformer → TypeRef → Prop
  | source (x : Transformer) : x.Mentions x.source
  | element {source : TypeRef} {container : Container} {element : Transformer}
      {next : Option Transformer} {r : TypeRef} (h : element.Mentions r) :
      (Transformer.elements source container element next).Mentions r
  | branch {source : TypeRef} {branches : List Transformer} {x : Transformer} {r : TypeRef}
      (hx : x ∈ branches) (h : x.Mentions r) : (Transformer.choice source branches).Mentions r
  | member (source member : TypeRef) (next : Option Transformer) :
      (Transformer.memberMatch source member next).Mentions member
  | next {x step : Transformer} {r : TypeRef} (hx : x.next? = some step) (h : step.Mentions r) :
      x.Mentions r

/-- A type occurs in a transformation: as its target, or in one of its transformers. -/
def Transformation.Mentions (x : Transformation) (r : TypeRef) : Prop :=
  r = x.target ∨ x.transformer.Mentions r ∨ x.reverse.Mentions r

/-- A kind has values of a type among its items, map values or union members. -/
inductive Kind.Contains : Kind → TypeRef → Prop
  | items (r : TypeRef) : (Kind.array r).Contains r
  | values (r : TypeRef) : (Kind.map r).Contains r
  | member {members : List TypeRef} {r : TypeRef} (hr : r ∈ members) :
      (Kind.union members).Contains r

/-- A type leads to another one, no record, that it contains or that occurs in its transformation.
Only by containing itself does it lead to itself. -/
def TypeGraph.LeadsUnguarded (g : TypeGraph) (t r : TypeRef) : Prop :=
  g.kindHolds Kind.isRecord r = false ∧ ∃ node, g.node? t = some node ∧
    (node.kind.Contains r ∨ r ≠ t ∧ ∃ x, node.transformation = some x ∧ x.Mentions r)

namespace TypeGraph

open Relation (TransGen)

/-! ## What a type leads to -/

variable {r : TypeRef}

mutual
/-- The references of a transformer occur in it. -/
theorem mentions_of_mem_refs : (x : Transformer) → r ∈ x.refs → x.Mentions r
  | .encode s, h | .instantiate s, h => by
    obtain rfl := List.mem_singleton.1 h
    exact .source _
  | .decode s next, h => by
    obtain rfl | h := List.mem_cons.1 h
    · exact .source (.decode r next)
    · exact mentions_behind (.decode s next) next rfl h
  | .elements s container element next, h => by
    obtain rfl | h := List.mem_cons.1 h
    · exact .source (.elements r container element next)
    obtain h | h := List.mem_append.1 h
    · exact .element (mentions_of_mem_refs element h)
    · exact mentions_behind (.elements s container element next) next rfl h
  | .choice s branches, h => by
    obtain rfl | h := List.mem_cons.1 h
    · exact .source (.choice r branches)
    · obtain ⟨x, hx, hr⟩ := mentions_of_mem_branchRefs branches h
      exact .branch hx hr
  | .memberMatch s member next, h => by
    obtain rfl | h := List.mem_cons.1 h
    · exact .source (.memberMatch r member next)
    obtain rfl | h := List.mem_cons.1 h
    · exact .member s r next
    · exact mentions_behind (.memberMatch s member next) next rfl h
  | .parseText s next, h => by
    obtain rfl | h := List.mem_cons.1 h
    · exact .source (.parseText r next)
    · exact mentions_behind (.parseText s next) next rfl h
  | .writeText s next, h => by
    obtain rfl | h := List.mem_cons.1 h
    · exact .source (.writeText r next)
    · exact mentions_behind (.writeText s next) next rfl h

/-- The references of the branches of a choice occur in one of them. -/
theorem mentions_of_mem_branchRefs :
    (branches : List Transformer) → r ∈ Transformer.branchRefs branches →
      ∃ x ∈ branches, x.Mentions r
  | branch :: rest, h => by
    obtain h | h := List.mem_append.1 h
    · exact ⟨branch, List.mem_cons_self, mentions_of_mem_refs branch h⟩
    · obtain ⟨x, hx, hr⟩ := mentions_of_mem_branchRefs rest h
      exact ⟨x, List.mem_cons_of_mem _ hx, hr⟩

/-- The references of the steps behind a step occur in it. -/
theorem mentions_behind (x : Transformer) : (next : Option Transformer) → x.next? = next →
    r ∈ Transformer.nextRefs next → x.Mentions r
  | some step, hx, h => .next hx (mentions_of_mem_refs step h)
end

/-- What occurs in a transformer is among its references. -/
theorem mem_refs_of_mentions {x : Transformer} (h : x.Mentions r) : r ∈ x.refs := by
  induction h with
  | source x => exact source_mem_refs x
  | element _ ih => exact List.mem_cons_of_mem _ (List.mem_append_left _ ih)
  | branch hx _ ih => exact List.mem_cons_of_mem _ (mem_branchRefs hx ih)
  | member => exact List.mem_cons_of_mem _ List.mem_cons_self
  | next hx _ ih => exact mem_refs_of_next? hx ih

/-- The references of a transformation are what occurs in it. -/
theorem mem_refs_iff {x : Transformation} : r ∈ x.refs ↔ x.Mentions r := by
  rw [Transformation.refs, List.mem_cons, List.mem_append]
  exact or_congr_right (or_congr ⟨mentions_of_mem_refs _, mem_refs_of_mentions⟩
    ⟨mentions_of_mem_refs _, mem_refs_of_mentions⟩)

/-- The structural references of a kind are the types it contains. -/
theorem mem_structuralRefs_iff {k : Kind} : r ∈ structuralRefs k ↔ k.Contains r := by
  constructor
  · intro h
    cases k with
    | array items =>
      obtain rfl := List.mem_singleton.1 h
      exact .items r
    | map values =>
      obtain rfl := List.mem_singleton.1 h
      exact .values r
    | union members => exact .member h
    | any | null | bool | integer | double | text | record | enumeration | formatted => cases h
  · rintro (_ | _ | hr)
    · exact List.mem_singleton_self r
    · exact List.mem_singleton_self r
    · exact hr

variable {g : TypeGraph} {t : TypeRef}

/-- The search goes on from a type with just the types that this leads to. -/
theorem mem_unguardedRefs_iff : r ∈ g.unguardedRefs t ↔ g.LeadsUnguarded t r := by
  unfold unguardedRefs LeadsUnguarded
  cases g.node? t with
  | none => simp
  | some node =>
    simp only [List.mem_filter, List.mem_append, mem_structuralRefs_iff, Bool.not_eq_true',
      Option.some.injEq, exists_eq_left', and_comm]
    refine and_congr_right' (or_congr_right ?_)
    cases node.transformation with
    | none => simp
    | some x => simp [mem_refs_iff, and_comm]

/-! ## The loop -/

/-- A type that the search has gone into, with the types ahead that this leads to. -/
structure Frame where
  type : TypeRef
  ahead : List TypeRef

/-- How far the search has come: it is at the types on top of the stack, with roots left to start
from, or it has ended. -/
inductive Search where
  | running (marks : Array Mark) (stack : List Frame) (roots : List TypeRef)
  | ended (result : Except GraphError Unit)

/-- The search before it has met a type. -/
def searchStart (g : TypeGraph) : Search :=
  .running (Array.replicate g.size .fresh) [] g.refs

/-- Go into a fresh type. -/
def enter (g : TypeGraph) (marks : Array Mark) (t : TypeRef) (stack : List Frame)
    (roots : List TypeRef) : Search :=
  .running (marks.setIfInBounds t.index .active) (⟨t, g.unguardedRefs t⟩ :: stack) roots

/-- One round of the search: look at the next type ahead, leave a type with none ahead, or take the
next root. -/
def turn (g : TypeGraph) : Search → Search
  | .running marks (⟨t, child :: ahead⟩ :: stack) roots =>
    match marks[child.index]? with
    | some .active => .ended (.error (.unguardedCycle child))
    | some .fresh => g.enter marks child (⟨t, ahead⟩ :: stack) roots
    | _ => .running marks (⟨t, ahead⟩ :: stack) roots
  | .running marks (⟨t, []⟩ :: stack) roots =>
    .running (marks.setIfInBounds t.index .done) stack roots
  | .running marks [] (root :: roots) =>
    if marks[root.index]? = some .fresh ∧ ¬ g.kindHolds Kind.isRecord root then
      g.enter marks root [] roots
    else .running marks [] roots
  | .running _ [] [] => .ended (.ok ())
  | .ended result => .ended result

/-- Some number of rounds leads from one state of the search to the other. -/
def Reaches (g : TypeGraph) (start final : Search) : Prop :=
  ∃ n, g.turn^[n] start = final

variable {start middle final : Search}

/-- No round at all. -/
theorem Reaches.refl (g : TypeGraph) (state : Search) : g.Reaches state state :=
  ⟨0, rfl⟩

/-- Rounds behind one. -/
theorem Reaches.turn (h : g.Reaches (g.turn start) final) : g.Reaches start final := by
  obtain ⟨n, hn⟩ := h
  exact ⟨n + 1, hn⟩

/-- Rounds behind others. -/
theorem Reaches.trans (h : g.Reaches start middle) (h' : g.Reaches middle final) :
    g.Reaches start final := by
  obtain ⟨n, rfl⟩ := h
  obtain ⟨m, rfl⟩ := h'
  exact ⟨m + n, Function.iterate_add_apply g.turn m n start⟩

/-- The rounds arrive where the marks of the result say, or end with its error. -/
def Arrives (g : TypeGraph) (start : Search) (final : Array Mark → Search) :
    Except GraphError (Array Mark) → Prop
  | .ok marks => g.Reaches start (final marks)
  | .error e => g.Reaches start (.ended (.error e))

/-- Rounds in front of those that arrive. -/
theorem Arrives.of_reaches {next : Array Mark → Search} {result : Except GraphError (Array Mark)}
    (h : g.Reaches start middle) (h' : g.Arrives middle next result) :
    g.Arrives start next result := by
  cases result with
  | ok marks => exact h.trans h'
  | error e => exact h.trans h'

/-- Rounds that arrive at others which do. -/
theorem Arrives.bind {arrived next : Array Mark → Search} {result : Except GraphError (Array Mark)}
    {f : Array Mark → Except GraphError (Array Mark)} (h : g.Arrives start arrived result)
    (h' : ∀ marks, result = .ok marks → g.Arrives (arrived marks) next (f marks)) :
    g.Arrives start next (result >>= f) := by
  cases result with
  | ok marks => exact .of_reaches h (h' marks rfl)
  | error e => exact h

/-! ## The loop and the recursion -/

variable {marks marks' : Array Mark} {order : List TypeRef}

/-- Going into a fresh type comes to the marks of a visit, with the stack as it was. -/
def VisitArrives (g : TypeGraph) (depth : Nat) : Prop :=
  ∀ {marks : Array Mark} {order : List TypeRef} {t : TypeRef} {stack : List Frame}
    {roots : List TypeRef}, g.Finished marks order → marks[t.index]? = some .fresh →
    g.kindHolds Kind.isRecord t = false → (freshPositions marks).card ≤ depth →
    g.Arrives (g.enter marks t stack roots) (.running · stack roots) (g.visit depth marks t)

/-- Going through types ahead comes to the marks of visiting them in turn. -/
theorem VisitArrives.foldlM (hrefs : ∀ t, ∀ r ∈ g.unguardedRefs t, r.index < g.size) {depth : Nat}
    (hvisit : g.VisitArrives depth) {ahead : List TypeRef}
    (hahead : ∀ c ∈ ahead, c.index < g.size ∧ g.kindHolds Kind.isRecord c = false)
    (hinv : g.Finished marks order) (hdepth : (freshPositions marks).card ≤ depth)
    {stack : List Frame} {roots : List TypeRef} :
    g.Arrives (.running marks (⟨t, ahead⟩ :: stack) roots) (.running · (⟨t, []⟩ :: stack) roots)
      (ahead.foldlM (g.visitChild depth) marks) := by
  induction ahead generalizing marks order with
  | nil => exact .refl ..
  | cons c rest ih =>
    obtain ⟨⟨hc, hrecord⟩, hrest⟩ := List.forall_mem_cons.1 hahead
    rw [List.foldlM_cons]
    have hchild : g.Arrives (.running marks (⟨t, c :: rest⟩ :: stack) roots)
        (.running · (⟨t, rest⟩ :: stack) roots) (g.visitChild depth marks c) := by
      obtain ⟨mark, hmark⟩ : ∃ mark, marks[c.index]? = some mark :=
        ⟨_, Array.getElem?_eq_getElem (hinv.size ▸ hc)⟩
      refine .of_reaches (.turn (.refl ..)) ?_
      rw [visitChild, turn, hmark]
      cases mark with
      | active => exact .refl ..
      | fresh => exact hvisit hinv hmark hrecord hdepth
      | done => exact .refl ..
    refine hchild.bind fun middle hmiddle => ?_
    have hone : [c].foldlM (g.visitChild depth) marks = .ok middle := by
      rw [List.foldlM_cons, hmiddle]
      rfl
    obtain ⟨order', hinv', hadvances, -⟩ := VisitFinishes.foldlM (visit_finishes hrefs depth)
      (List.forall_mem_singleton.2 ⟨hc, hrecord⟩) hinv hdepth hone
    exact ih hrest hinv' (Nat.le_trans hadvances.card_le hdepth)

/-- Going into a fresh type comes to the marks of a visit that may go as deep as types are fresh. -/
theorem visit_arrives (hrefs : ∀ t, ∀ r ∈ g.unguardedRefs t, r.index < g.size) (depth : Nat) :
    g.VisitArrives depth := by
  induction depth with
  | zero =>
    intro marks _ t _ _ _ hfresh _ hdepth
    have hmem : t.index ∈ freshPositions marks := mem_freshPositions.2 hfresh
    exact absurd (Finset.card_pos.2 ⟨_, hmem⟩) (by omega)
  | succ depth ih =>
    intro marks order t stack roots hinv hfresh hrecord hdepth
    have hfewer : (freshPositions (marks.setIfInBounds t.index .active)).card ≤ depth :=
      Nat.le_of_lt_succ (Nat.lt_of_lt_of_le (card_freshPositions_activate hfresh) hdepth)
    have hchildren : ∀ c ∈ g.unguardedRefs t,
        c.index < g.size ∧ g.kindHolds Kind.isRecord c = false :=
      fun c hc => ⟨hrefs t c hc, not_isRecord_of_unguarded hc⟩
    rw [visit_succ]
    exact (ih.foldlM hrefs hchildren (hinv.activate hfresh) hfewer).bind
      fun final _ => .turn (.refl ..)

/-- Starting from roots comes to the marks of visiting them in turn. -/
theorem roots_arrive (hrefs : ∀ t, ∀ r ∈ g.unguardedRefs t, r.index < g.size)
    {roots : List TypeRef} (hroots : ∀ root ∈ roots, root.index < g.size)
    (hinv : g.Finished marks order) (hquiet : ∀ i : Nat, marks[i]? ≠ some .active) :
    g.Arrives (.running marks [] roots) (.running · [] []) (roots.foldlM g.visitRoot marks) := by
  induction roots generalizing marks order with
  | nil => exact .refl ..
  | cons root rest ih =>
    obtain ⟨hroot, hrest⟩ := List.forall_mem_cons.1 hroots
    rw [List.foldlM_cons]
    have harrives : g.Arrives (.running marks [] (root :: rest)) (.running · [] rest)
        (g.visitRoot marks root) := by
      refine .of_reaches (.turn (.refl ..)) ?_
      rw [visitRoot, turn]
      split
      next hfresh =>
        have hcard : (freshPositions marks).card ≤ marks.size :=
          (Finset.card_filter_le _ _).trans_eq (Finset.card_range _)
        exact visit_arrives hrefs g.size hinv hfresh.1 (by simpa using hfresh.2)
          (hinv.size ▸ hcard)
      next => exact .refl ..
    refine harrives.bind fun middle hmiddle => ?_
    have hone : [root].foldlM g.visitRoot marks = .ok middle := by
      rw [List.foldlM_cons, hmiddle]
      rfl
    obtain ⟨order', hinv', hadvances, -⟩ :=
      finishes_roots hrefs (List.forall_mem_singleton.2 hroot) hinv hquiet hone
    exact ih hrest hinv' fun i hi => hquiet i (hadvances.active.1 hi)

/-- The search ends with the result of the check. -/
theorem reaches_checkCycles (hrefs : ∀ t, ∀ r ∈ g.unguardedRefs t, r.index < g.size) :
    g.Reaches g.searchStart (.ended g.checkCycles) := by
  have harrives := roots_arrive hrefs (fun _ => index_lt_of_mem_refs) g.finished_start
    fun i hi => by cases eq_fresh_of_start hi
  rw [checkCycles_eq]
  generalize g.refs.foldlM g.visitRoot (Array.replicate g.size .fresh) = result at harrives
  cases result with
  | ok marks => exact .trans harrives (.turn (.refl ..))
  | error e => exact harrives

/-! ## The invariant of the loop -/

/-- All that is active stands on the stack. A type on the stack leads to those above it, and to what
it has ahead. -/
structure Searching (g : TypeGraph) (marks : Array Mark) (stack : List Frame) : Prop where
  active {i : Nat} : marks[i]? = some .active → ∃ frame ∈ stack, frame.type.index = i
  path : stack.Pairwise fun upper lower => TransGen g.LeadsUnguarded lower.type upper.type
  ahead : ∀ frame ∈ stack, ∀ r ∈ frame.ahead, g.LeadsUnguarded frame.type r

/-- The search is sound: if it has ended with an error, this names a type of a cycle. -/
def Sound (g : TypeGraph) : Search → Prop
  | .running marks stack _ => g.Searching marks stack
  | .ended result => ∀ e, result = .error e →
    ∃ c, e = .unguardedCycle c ∧ TransGen g.LeadsUnguarded c c

/-- Going into a type that all of the stack leads to. -/
theorem Searching.enter {stack : List Frame} (h : g.Searching marks stack)
    (hleads : ∀ lower ∈ stack, TransGen g.LeadsUnguarded lower.type t) (roots : List TypeRef) :
    g.Sound (g.enter marks t stack roots) where
  active {i} hi := by
    rw [Array.getElem?_setIfInBounds] at hi
    split at hi
    next heq => exact ⟨_, List.mem_cons_self, heq⟩
    next =>
      obtain ⟨frame, hframe, hindex⟩ := h.active hi
      exact ⟨frame, List.mem_cons_of_mem _ hframe, hindex⟩
  path := List.pairwise_cons.2 ⟨hleads, h.path⟩
  ahead := List.forall_mem_cons.2 ⟨fun _ hr => mem_unguardedRefs_iff.1 hr, h.ahead⟩

/-- Leaving the type on top of the stack. -/
theorem Searching.leave {stack : List Frame} {ahead : List TypeRef}
    (h : g.Searching marks (⟨t, ahead⟩ :: stack)) :
    g.Searching (marks.setIfInBounds t.index .done) stack where
  active {i} hi := by
    rw [Array.getElem?_setIfInBounds] at hi
    split at hi
    next => split at hi <;> cases hi
    next hne =>
      obtain ⟨frame, hframe, hindex⟩ := h.active hi
      obtain rfl | hframe := List.mem_cons.1 hframe
      · exact absurd hindex hne
      · exact ⟨frame, hframe, hindex⟩
  path := (List.pairwise_cons.1 h.path).2
  ahead := (List.forall_mem_cons.1 h.ahead).2

/-- Passing over the next type ahead. -/
theorem Searching.pass {stack : List Frame} {child : TypeRef} {ahead : List TypeRef}
    (h : g.Searching marks (⟨t, child :: ahead⟩ :: stack)) :
    g.Searching marks (⟨t, ahead⟩ :: stack) where
  active {i} hi := by
    obtain ⟨frame, hframe, hindex⟩ := h.active hi
    obtain rfl | hframe := List.mem_cons.1 hframe
    · exact ⟨_, List.mem_cons_self, hindex⟩
    · exact ⟨frame, List.mem_cons_of_mem _ hframe, hindex⟩
  path := List.pairwise_cons.2 (List.pairwise_cons.1 h.path)
  ahead := by
    obtain ⟨htop, hrest⟩ := List.forall_mem_cons.1 h.ahead
    exact List.forall_mem_cons.2 ⟨fun r hr => htop r (List.mem_cons_of_mem _ hr), hrest⟩

/-- All of the stack leads to the next type ahead. -/
theorem Searching.leads_ahead {stack : List Frame} {child : TypeRef} {ahead : List TypeRef}
    (h : g.Searching marks (⟨t, child :: ahead⟩ :: stack)) :
    ∀ lower ∈ ⟨t, ahead⟩ :: stack, TransGen g.LeadsUnguarded lower.type child := by
  have htop : g.LeadsUnguarded t child := h.ahead _ List.mem_cons_self child List.mem_cons_self
  refine List.forall_mem_cons.2 ⟨.single htop, fun lower hlower => ?_⟩
  exact .tail ((List.pairwise_cons.1 h.path).1 lower hlower) htop

/-- A round keeps the search sound. -/
theorem Sound.turn {state : Search} (h : g.Sound state) : g.Sound (g.turn state) := by
  match state, h with
  | .running marks (⟨t, child :: ahead⟩ :: stack) roots, h =>
    have h : g.Searching marks (⟨t, child :: ahead⟩ :: stack) := h
    rw [TypeGraph.turn]
    split
    next hactive =>
      -- The active type is on the stack, so that it leads to itself.
      rintro e ⟨⟩
      obtain ⟨frame, hframe, hindex⟩ := h.pass.active hactive
      obtain heq : frame.type = child := congrArg TypeRef.mk hindex
      exact ⟨child, rfl, heq ▸ h.leads_ahead frame hframe⟩
    next => exact h.pass.enter h.leads_ahead roots
    next => exact h.pass
  | .running marks (⟨t, []⟩ :: stack) roots, h => exact Searching.leave h
  | .running marks [] (root :: roots), h =>
    rw [TypeGraph.turn]
    split
    · exact Searching.enter h (List.forall_mem_nil _) roots
    · exact h
  | .running marks [] [], h => exact fun e he => nomatch he
  | .ended result, h => exact h

/-- So does any number of rounds. -/
theorem Sound.reaches (h : g.Sound start) (hreaches : g.Reaches start final) : g.Sound final := by
  obtain ⟨n, rfl⟩ := hreaches
  induction n with
  | zero => exact h
  | succ n ih =>
    rw [Function.iterate_succ_apply']
    exact ih.turn

/-- The search starts sound. -/
theorem sound_start (g : TypeGraph) : g.Sound g.searchStart where
  active hi := by cases eq_fresh_of_start hi
  path := .nil
  ahead := List.forall_mem_nil _

/-! ## The result -/

/-- What a type of a sorted list leads to is further behind in it. -/
theorem Sorted.behind_lt_of_leads (h : g.Sorted order) (ht : t ∈ order)
    (hleads : TransGen g.LeadsUnguarded t r) : r ∈ order ∧ behind order r < behind order t := by
  have hstep {s r : TypeRef} (hs : s ∈ order) (hsr : g.LeadsUnguarded s r) :
      r ∈ order ∧ behind order r < behind order s := by
    have hr : r ∈ g.unguardedRefs s := mem_unguardedRefs_iff.2 hsr
    refine ⟨h.layered.mem_of_mem hs hr, ?_⟩
    have hguards : ∀ u ∈ order, u ∉ ([] : List TypeRef) := fun _ _ => List.not_mem_nil
    simpa using h.layered.behind_lt hguards hs (.inl hr)
  induction hleads with
  | single hsr => exact hstep ht hsr
  | tail _ hsr ih =>
    obtain ⟨hs, hlt⟩ := ih
    obtain ⟨hr, hlt'⟩ := hstep hs hsr
    exact ⟨hr, Nat.lt_trans hlt' hlt⟩

/-- A type that leads on is one of the graph. -/
theorem index_lt_of_leads (h : TransGen g.LeadsUnguarded t r) : t.index < g.size := by
  obtain ⟨s, ⟨-, node, hnode, -⟩, -⟩ := Relation.TransGen.head'_iff.1 h
  exact (Array.getElem?_eq_some_iff.1 hnode).1

/-- A type that is led to is no record. -/
theorem not_isRecord_of_leads (h : TransGen g.LeadsUnguarded t r) :
    g.kindHolds Kind.isRecord r = false := by
  obtain ⟨s, -, hrecord, -⟩ := Relation.TransGen.tail'_iff.1 h
  exact hrecord

/-- No type of a sorted graph leads to itself. -/
theorem Sorted.not_leads_self (h : g.Sorted order) : ¬ TransGen g.LeadsUnguarded t t :=
  fun hcycle => Nat.lt_irrefl _ (h.behind_lt_of_leads
    (h.complete (index_lt_of_leads hcycle) (not_isRecord_of_leads hcycle)) hcycle).2

/-- The search for cycles comes to an end, where it accepts the graph if no type other than a
record leads to itself, and else names one that does. -/
theorem checkCycles_exact (h : g.Closed) :
    (∃ n, g.turn^[n] g.searchStart = .ended g.checkCycles) ∧
      (g.checkCycles = .ok () ↔
        ∀ t, g.kindHolds Kind.isRecord t = false → ¬ TransGen g.LeadsUnguarded t t) ∧
      ∀ e, g.checkCycles = .error e → ∃ c, e = .unguardedCycle c ∧
        g.kindHolds Kind.isRecord c = false ∧ TransGen g.LeadsUnguarded c c := by
  have hreaches := reaches_checkCycles h.unguarded_lt
  have hcycle : ∀ e, g.checkCycles = .error e → ∃ c, e = .unguardedCycle c ∧
      g.kindHolds Kind.isRecord c = false ∧ TransGen g.LeadsUnguarded c c := by
    intro e he
    obtain ⟨c, hc, hself⟩ := g.sound_start.reaches hreaches e he
    exact ⟨c, hc, not_isRecord_of_leads hself, hself⟩
  refine ⟨hreaches, ⟨fun hok t _ => ?_, fun hacyclic => ?_⟩, hcycle⟩
  · obtain ⟨order, hsorted⟩ := exists_sorted_of_checkCycles h.unguarded_lt hok
    exact hsorted.not_leads_self
  · cases hresult : g.checkCycles with
    | ok => rfl
    | error e =>
      obtain ⟨c, -, hrecord, hself⟩ := hcycle e hresult
      exact absurd hself (hacyclic c hrecord)

/-- A list of integers and of lists like itself, which no record breaks. -/
def ringGraph : TypeGraph where
  types := #[⟨.array ⟨1⟩, none⟩, ⟨.union [⟨2⟩, ⟨0⟩], none⟩, ⟨.integer, none⟩]
  topLevels := []

/-- The types of the ring refer to each other. -/
theorem closed_ringGraph : ringGraph.Closed := by
  rintro ⟨i⟩ node hnode
  match i, hnode with
  | 0, hnode | 1, hnode | 2, hnode =>
    cases hnode
    exact ⟨by decide, nofun⟩

/-- The search goes around the ring and ends at the list. -/
theorem checkCycles_exact_ring :
    (∃ n, ringGraph.turn^[n] ringGraph.searchStart = .ended (.error (.unguardedCycle ⟨0⟩))) ∧
      ringGraph.kindHolds Kind.isRecord ⟨0⟩ = false ∧
      TransGen ringGraph.LeadsUnguarded ⟨0⟩ ⟨0⟩ := by
  obtain ⟨hreaches, -, hcycle⟩ := checkCycles_exact closed_ringGraph
  have hresult : ringGraph.checkCycles = .error (.unguardedCycle ⟨0⟩) := rfl
  obtain ⟨c, hc, hrecord, hself⟩ := hcycle _ hresult
  cases hc
  exact ⟨hresult ▸ hreaches, hrecord, hself⟩

end TypeGraph

end TypedJson
