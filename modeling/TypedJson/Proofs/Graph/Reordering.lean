import TypedJson.Proofs.Graph.Faultless

/-!
# Order of union members

Accepting a graph puts the members of unions in the order of their ranks and leaves all else as it
is. `Reordered` relates graphs that differ in the order of members only, members of one rank apart.
What the checks ask of a graph does not depend on that order (`Reordered.faultless`), and a list in
the order of ranks is known from its parts of one rank each (`eq_of_ranked`). So reordered graphs
are accepted as the same graph, if at all, and an accepted graph is accepted again as it is.
-/

namespace TypedJson

/-! ## Lists in the order of ranks -/

section

variable {α : Type} {rank : α → Nat} {l l' : List α}

/-- In the order of ranks, the first one of a list ranks no higher than the first one of a list with
the same parts. -/
theorem head_rank_le {a b : α} (hb : (b :: l').Pairwise fun x y => rank x ≤ rank y)
    (h : ∀ n, (a :: l).filter (rank · = n) = (b :: l').filter (rank · = n)) : rank b ≤ rank a := by
  have ha : a ∈ (b :: l').filter (rank · = rank a) := by
    rw [← h]
    exact List.mem_filter.2 ⟨List.mem_cons_self, decide_eq_true rfl⟩
  obtain rfl | ha := List.mem_cons.1 (List.mem_filter.1 ha).1
  · exact Nat.le_refl _
  · exact List.rel_of_pairwise_cons hb ha

/-- Lists in the order of ranks are equal if their parts of each rank are. -/
theorem eq_of_ranked (hl : l.Pairwise fun x y => rank x ≤ rank y)
    (hl' : l'.Pairwise fun x y => rank x ≤ rank y)
    (h : ∀ n, l.filter (rank · = n) = l'.filter (rank · = n)) : l = l' := by
  induction l generalizing l' with
  | nil =>
      refine (List.eq_nil_iff_forall_not_mem.2 fun b hb => ?_).symm
      exact List.not_mem_nil ((h (rank b)).symm ▸ List.mem_filter.2 ⟨hb, decide_eq_true rfl⟩)
  | cons a rest ih =>
      cases l' with
      | nil =>
          have ha : a ∈ ([] : List α).filter (rank · = rank a) :=
            h (rank a) ▸ List.mem_filter.2 ⟨List.mem_cons_self, decide_eq_true rfl⟩
          cases ha
      | cons b rest' =>
          have hrank : rank a = rank b :=
            Nat.le_antisymm (head_rank_le hl fun n => (h n).symm) (head_rank_le hl' h)
          obtain ⟨rfl, -⟩ : a = b ∧ _ := by
            simpa [List.filter_cons, hrank] using h (rank b)
          refine congrArg (a :: ·) (ih hl.tail hl'.tail fun n => ?_)
          have hn := h n
          rw [List.filter_cons, List.filter_cons] at hn
          split at hn
          · exact (List.cons.inj hn).2
          · exact hn

/-- Insertion sort keeps the order of what has the same rank. -/
theorem filter_insertionSort (n : Nat) :
    (l.insertionSort fun x y => rank x ≤ rank y).filter (rank · = n) = l.filter (rank · = n) := by
  -- The part of one rank is in order already, so that it is left in the sorted list as it is.
  have hranked : (l.filter (rank · = n)).Pairwise fun x y => rank x ≤ rank y := by
    refine List.pairwise_of_forall_mem_list fun x hx y hy => Nat.le_of_eq ?_
    exact (of_decide_eq_true (List.mem_filter.1 hx).2).trans
      (of_decide_eq_true (List.mem_filter.1 hy).2).symm
  have hsublist := (List.sublist_insertionSort hranked List.filter_sublist).filter (rank · = n)
  simp only [List.filter_filter, Bool.and_self] at hsublist
  refine (hsublist.eq_of_length ?_).symm
  exact ((List.perm_insertionSort _ l).filter _).length_eq.symm

end

namespace TypeGraph

/-! ## Reordered graphs -/

/-- The same members, those of one rank in the same order. -/
structure Rearranged (g : TypeGraph) (members members' : List TypeRef) : Prop where
  perm : members'.Perm members
  ranks (n : Nat) : members'.filter (g.kindHolds fun k => k.rank = n) =
    members.filter (g.kindHolds fun k => k.rank = n)

/-- The same kind, the members of a union rearranged. -/
inductive RearrangedKind (g : TypeGraph) : Kind → Kind → Prop
  | refl (k : Kind) : g.RearrangedKind k k
  | union {members members' : List TypeRef} (h : g.Rearranged members members') :
      g.RearrangedKind (.union members) (.union members')

/-- The same graph, the members of its unions rearranged. -/
structure Reordered (g g' : TypeGraph) : Prop where
  topLevels : g'.topLevels = g.topLevels
  size : g'.size = g.size
  node {t : TypeRef} {node node' : Node} : g.node? t = some node → g'.node? t = some node' →
    g.RearrangedKind node.kind node'.kind ∧ node'.transformation = node.transformation

variable {g g' : TypeGraph} {t : TypeRef} {k k' : Kind} {members members' : List TypeRef}

/-- Properties of kinds that do not look at the members of unions are kept. -/
theorem RearrangedKind.apply_eq (h : g.RearrangedKind k k') {α : Type} {p : Kind → α}
    (hp : ∀ ms ms', p (.union ms) = p (.union ms')) : p k' = p k := by
  cases h with
  | refl => rfl
  | union => exact hp _ _

/-- The same types are referred to. -/
theorem RearrangedKind.kindRefs_perm (h : g.RearrangedKind k k') :
    (kindRefs k').Perm (kindRefs k) := by
  cases h with
  | refl => exact .refl _
  | union h => exact h.perm

/-- The same types are elements or members. -/
theorem RearrangedKind.structuralRefs_perm (h : g.RearrangedKind k k') :
    (structuralRefs k').Perm (structuralRefs k) := by
  cases h with
  | refl => exact .refl _
  | union h => exact h.perm

namespace Reordered

/-- A type of the reordered graph is one of the given graph. -/
theorem node?_of_node? (h : g.Reordered g') {node' : Node} (hnode' : g'.node? t = some node') :
    ∃ node, g.node? t = some node ∧ g.RearrangedKind node.kind node'.kind ∧
      node'.transformation = node.transformation := by
  have hlt : t.index < g'.size := (Array.getElem?_eq_some_iff.1 hnode').1
  rw [h.size] at hlt
  have hnode : g.node? t = some g.types[t.index] := Array.getElem?_eq_getElem hlt
  exact ⟨_, hnode, h.node hnode hnode'⟩

/-- The kinds of the reordered graph are those of the given graph, rearranged. -/
theorem kind?_of_kind? (h : g.Reordered g') (hk : g'.kind? t = some k') :
    ∃ k, g.kind? t = some k ∧ g.RearrangedKind k k' := by
  obtain ⟨node', hnode', rfl⟩ := Option.map_eq_some_iff.1 hk
  obtain ⟨node, hnode, hkind, -⟩ := h.node?_of_node? hnode'
  exact ⟨node.kind, by rw [kind?, hnode]; rfl, hkind⟩

/-- The transformations are the same. -/
theorem transformation?_of_transformation? (h : g.Reordered g') {x : Transformation}
    (hx : g'.transformation? t = some x) : g.transformation? t = some x := by
  obtain ⟨node', hnode', hx⟩ := Option.bind_eq_some_iff.1 hx
  obtain ⟨node, hnode, -, htransformation⟩ := h.node?_of_node? hnode'
  rw [transformation?, hnode]
  exact htransformation.symm.trans hx

/-- What does not depend on the members of unions is the same of all kinds. -/
theorem map_kind?_eq (h : g.Reordered g') {α : Type} {p : Kind → α}
    (hp : ∀ ms ms', p (.union ms) = p (.union ms')) (t : TypeRef) :
    (g'.kind? t).map p = (g.kind? t).map p := by
  cases hk' : g'.kind? t with
  | some k' =>
      obtain ⟨k, hk, hkind⟩ := h.kind?_of_kind? hk'
      rw [hk, Option.map_some, Option.map_some, hkind.apply_eq hp]
  | none =>
      cases hk : g.kind? t with
      | none => rfl
      | some k =>
          have hlt := index_lt_of_kind? hk
          rw [← h.size] at hlt
          obtain ⟨k', hsome⟩ := kind?_isSome hlt
          rw [hk'] at hsome
          cases hsome

/-- The same references denote types with a property that does not depend on the members of
unions. -/
theorem kindHolds_eq (h : g.Reordered g') {p : Kind → Bool}
    (hp : ∀ ms ms', p (.union ms) = p (.union ms')) (t : TypeRef) :
    g'.kindHolds p t = g.kindHolds p t := by
  have hmap (g : TypeGraph) : g.kindHolds p t = ((g.kind? t).map p).getD false := by
    rw [kindHolds]
    cases g.kind? t <;> rfl
  rw [hmap, h.map_kind?_eq hp, ← hmap]

/-- The ranks of types are the same. -/
theorem rank_eq (h : g.Reordered g') (t : TypeRef) : g'.rank t = g.rank t := by
  have hmap (g : TypeGraph) : g.rank t = ((g.kind? t).map Kind.rank).getD 0 := by
    rw [rank]
    cases g.kind? t <;> rfl
  rw [hmap, h.map_kind?_eq fun _ _ => rfl, ← hmap]

/-- Reordering can be undone. -/
theorem symm (h : g.Reordered g') : g'.Reordered g := by
  refine ⟨h.topLevels.symm, h.size.symm, fun {t node' node} hnode' hnode => ?_⟩
  obtain ⟨hkind, htransformation⟩ := h.node hnode hnode'
  refine ⟨?_, htransformation.symm⟩
  generalize node.kind = k, node'.kind = k' at hkind
  cases hkind with
  | refl => exact .refl _
  | union hmembers =>
      refine .union ⟨hmembers.perm.symm, fun n => ?_⟩
      have hranks : (g'.kindHolds fun k => k.rank = n) = g.kindHolds fun k => k.rank = n :=
        funext (h.kindHolds_eq fun _ _ => rfl)
      rw [hranks]
      exact (hmembers.ranks n).symm

/-! ## Acceptance -/

/-- The types keep their heights. -/
theorem isHeight (h : g.Reordered g') {height : TypeRef → Nat} (hh : g.IsHeight height) :
    g'.IsHeight height := by
  refine ⟨fun {t} ht => ?_, fun {t r k'} hk' hr => ?_, fun {t r x} ht hx hr hne => ?_⟩
  · rw [h.size] at ht ⊢
    exact hh.bound ht
  · obtain ⟨k, hk, hkind⟩ := h.kind?_of_kind? hk'
    exact hh.structural hk (hkind.structuralRefs_perm.mem_iff.1 hr)
  · rw [h.kindHolds_eq fun _ _ => rfl] at ht
    exact hh.referred ht (h.transformation?_of_transformation? hx) hr hne

/-- Nothing that the checks ask for depends on the order of members. -/
theorem faultless (h : g.Reordered g') (hg : g.Faultless) : g'.Faultless where
  nonempty := h.topLevels ▸ hg.nonempty
  named := h.topLevels ▸ hg.named
  topLevels := by
    rw [h.topLevels, h.size]
    exact hg.topLevels
  closed := by
    intro t node' hnode'
    obtain ⟨node, hnode, hkind, htransformation⟩ := h.node?_of_node? hnode'
    rw [h.size, htransformation]
    refine ⟨fun r hr => ?_, (hg.closed t node hnode).2⟩
    exact (hg.closed t node hnode).1 r (hkind.kindRefs_perm.mem_iff.1 hr)
  members := by
    intro t ms' hk'
    obtain ⟨k, hk, hkind⟩ := h.kind?_of_kind? hk'
    simp only [h.kindHolds_eq (p := Kind.isUnion) fun _ _ => rfl]
    cases hkind with
    | refl => exact hg.members hk
    | union hmembers =>
        obtain ⟨hne, hnested⟩ := hg.members hk
        refine ⟨fun hnil => hne ?_, fun m hm => hnested m (hmembers.perm.mem_iff.1 hm)⟩
        exact List.Perm.nil_eq (hnil ▸ hmembers.perm) |>.symm
  acyclic := by
    obtain ⟨height, hheight⟩ := hg.acyclic
    exact ⟨height, h.isHeight hheight⟩

end Reordered

/-! ## Canonical order -/

/-- The part of one rank of members that denote types is that of the same rank. -/
theorem filter_kindHolds_rank (n : Nat) (ms : List TypeRef) :
    ms.filter (g.kindHolds fun k => k.rank = n) =
      (ms.filter fun m => g.rank m = n).filter (g.kindHolds fun k => k.rank = n) := by
  rw [List.filter_filter]
  refine List.filter_congr fun m _ => ?_
  rw [kindHolds, rank]
  cases g.kind? m with
  | none => rfl
  | some k => exact (Bool.and_self _).symm

/-- Canonical order keeps the members of one rank in their order. -/
theorem filter_sortMembers (n : Nat) (ms : List TypeRef) :
    (g.sortMembers ms).filter (fun m => g.rank m = n) = ms.filter fun m => g.rank m = n := by
  rw [sortMembers_eq]
  exact filter_insertionSort n

/-- Canonical order only rearranges members. -/
theorem reordered_canonical (g : TypeGraph) : g.Reordered g.canonical := by
  refine ⟨rfl, size_canonical, fun {t node node'} hnode hnode' => ?_⟩
  rw [node?_canonical, hnode, Option.map_some, Option.some_inj] at hnode'
  subst hnode'
  refine ⟨?_, rfl⟩
  show g.RearrangedKind node.kind (g.canonicalKind node.kind)
  cases node.kind with
  | union members =>
      refine .union ⟨g.sortMembers_perm members, fun n => ?_⟩
      rw [filter_kindHolds_rank, filter_sortMembers, ← filter_kindHolds_rank]
  | any | null | bool | integer | double | text | array | map | record | enumeration | formatted =>
      exact .refl _

/-- An accepted graph has no faults. -/
theorem faultless_of_make {types : Array Node} {topLevels : List TopLevel}
    (h : make types topLevels = .ok g) : g.Faultless := by
  obtain ⟨hcheck, rfl⟩ := make_eq_ok h
  exact (reordered_canonical _).faultless (check_iff_faultless.1 hcheck)

/-- Every graph that `make` accepts has references to types only and members in order. -/
theorem accepted_of_make {types : Array Node} {topLevels : List TopLevel}
    (h : make types topLevels = .ok g) : g.Accepted := by
  have hg := faultless_of_make h
  obtain ⟨-, rfl⟩ := make_eq_ok h
  refine ⟨hg.topLevels, fun {t k} hk => ?_, fun {t x} hx => ?_, hg.members, fun {t ms} hk => ?_⟩
  · obtain ⟨node, hnode, rfl⟩ := Option.map_eq_some_iff.1 hk
    exact (hg.closed t node hnode).1
  · obtain ⟨node, hnode, hx⟩ := Option.bind_eq_some_iff.1 hx
    exact (hg.closed t node hnode).2 x hx
  · rw [kind?_canonical] at hk
    obtain ⟨k, -, hms⟩ := Option.map_eq_some_iff.1 hk
    cases k with
    | union members =>
        cases hms
        simp only [(reordered_canonical _).rank_eq]
        exact sortMembers_ranked members
    | any | null | bool | integer | double | text | array | map | record | enumeration | formatted =>
        cases hms

/-- Every accepted graph has heights. -/
theorem exists_isHeight_of_make {types : Array Node} {topLevels : List TopLevel}
    (h : make types topLevels = .ok g) : ∃ height, g.IsHeight height :=
  (faultless_of_make h).acyclic

/-- Members in canonical order stay as they are. -/
theorem sortMembers_eq_self (h : members.Pairwise fun a b => g.rank a ≤ g.rank b) :
    g.sortMembers members = members := by
  rw [sortMembers_eq]
  exact h.insertionSort_eq

/-- Canonical order is the same from the graph in canonical order. -/
theorem canonicalKind_canonical (k : Kind) :
    g.canonical.canonicalKind (g.canonicalKind k) = g.canonicalKind k := by
  cases k with
  | union members =>
      refine congrArg Kind.union (sortMembers_eq_self ?_)
      simp only [(reordered_canonical _).rank_eq]
      exact g.sortMembers_ranked members
  | any | null | bool | integer | double | text | array | map | record | enumeration | formatted =>
      rfl

/-- Types and top-levels of an accepted graph are accepted as the same graph. -/
theorem make_of_make {types : Array Node} {topLevels : List TopLevel}
    (h : make types topLevels = .ok g) : make g.types g.topLevels = .ok g := by
  have hcheck := check_iff_faultless.2 (faultless_of_make h)
  obtain ⟨-, rfl⟩ := make_eq_ok h
  refine make_eq_self hcheck fun node hnode => ?_
  rw [canonical, Array.toList_map] at hnode
  obtain ⟨given, -, rfl⟩ := List.mem_map.1 hnode
  exact canonicalKind_canonical given.kind

/-! ## One graph for all orders -/

/-- Rearranged members that denote types come out in the same order. -/
theorem Rearranged.sortMembers_eq (h : g.Rearranged members members')
    (hrefs : ∀ m ∈ members, m.index < g.size) : g.sortMembers members' = g.sortMembers members := by
  -- Members that denote no type would have a rank as well, but not of a kind.
  have hrank {ms : List TypeRef} (hms : ∀ m ∈ ms, m.index < g.size) (n : Nat) :
      ms.filter (fun m => g.rank m = n) = ms.filter (g.kindHolds fun k => k.rank = n) := by
    refine List.filter_congr fun m hm => ?_
    obtain ⟨k, hk⟩ := kind?_isSome (hms m hm)
    rw [kindHolds_eq hk, rank, hk]
  have hrefs' : ∀ m ∈ members', m.index < g.size := fun m hm => hrefs m (h.perm.mem_iff.1 hm)
  refine eq_of_ranked (g.sortMembers_ranked members') (g.sortMembers_ranked members) fun n => ?_
  rw [filter_sortMembers, filter_sortMembers, hrank hrefs, hrank hrefs', h.ranks]

/-- A graph without faults and one with members rearranged are the same in canonical order. -/
theorem Reordered.canonical_eq (h : g.Reordered g') (hg : g.Faultless) :
    g'.canonical = g.canonical := by
  have hsort (ms : List TypeRef) : g'.sortMembers ms = g.sortMembers ms := by
    simp only [TypeGraph.sortMembers_eq, h.rank_eq]
  have htypes : g'.canonical.types = g.canonical.types := by
    refine Array.ext_getElem? fun i => ?_
    show g'.canonical.node? ⟨i⟩ = g.canonical.node? ⟨i⟩
    rw [node?_canonical, node?_canonical]
    cases hnode' : g'.node? ⟨i⟩ with
    | none =>
        cases hnode : g.node? ⟨i⟩ with
        | none => rfl
        | some node =>
            obtain ⟨node', hsome, -⟩ := h.symm.node?_of_node? hnode
            rw [hnode'] at hsome
            cases hsome
    | some node' =>
        obtain ⟨node, hnode, hkind, htransformation⟩ := h.node?_of_node? hnode'
        have hcanonical : g'.canonicalKind node'.kind = g.canonicalKind node.kind := by
          have hrefs := (hg.closed _ node hnode).1
          generalize node.kind = k, node'.kind = k' at hkind hrefs
          cases hkind with
          | refl => cases k <;> first | rfl | exact congrArg Kind.union (hsort _)
          | union hmembers =>
              exact congrArg Kind.union ((hsort _).trans (hmembers.sortMembers_eq hrefs))
        rw [hnode, Option.map_some, Option.map_some, hcanonical, htransformation]
  exact congrArg₂ TypeGraph.mk htypes h.topLevels

/-- Accepting a graph puts the members of its unions in the order of their ranks, those of one rank
in their given order, and leaves all else as it is. An accepted graph is accepted as it is. Graphs
that differ only in the order of members of different ranks are both refused, or accepted as the
same graph. -/
theorem make_canonical :
    (∀ {types : Array Node} {topLevels : List TopLevel} {g : TypeGraph},
      make types topLevels = .ok g →
        Reordered ⟨types, topLevels⟩ g ∧
        (∀ {t ms}, g.kind? t = some (.union ms) → ms.Pairwise fun a b => g.rank a ≤ g.rank b) ∧
        make g.types g.topLevels = .ok g) ∧
    ∀ {raw raw' : TypeGraph}, raw.Reordered raw' →
      (∃ e e', make raw.types raw.topLevels = .error e ∧
        make raw'.types raw'.topLevels = .error e') ∨
      ∃ g, make raw.types raw.topLevels = .ok g ∧ make raw'.types raw'.topLevels = .ok g := by
  refine ⟨fun {types topLevels g} h => ?_, fun {raw raw'} h => ?_⟩
  · obtain ⟨-, rfl⟩ := make_eq_ok h
    exact ⟨reordered_canonical _, (accepted_of_make h).ranked, make_of_make h⟩
  · rw [make_eq, make_eq]
    cases hraw : raw.check with
    | ok =>
        have hfaultless := check_iff_faultless.1 hraw
        rw [check_iff_faultless.2 (h.faultless hfaultless), h.canonical_eq hfaultless]
        exact .inr ⟨_, rfl, rfl⟩
    | error e =>
        cases hraw' : raw'.check with
        | error e' => exact .inl ⟨e, e', rfl, rfl⟩
        | ok =>
            have hok := check_iff_faultless.2 (h.symm.faultless (check_iff_faultless.1 hraw'))
            rw [hraw] at hok
            cases hok

/-- A pet is a cat, a dog or absent, as the members say. -/
def petGraph (members : List TypeRef) : TypeGraph where
  types := #[⟨.record ⟨"Cat", [⟨"kittens", ⟨4⟩, none⟩], none⟩, none⟩,
    ⟨.record ⟨"Dog", [⟨"friend", ⟨3⟩, none⟩], none⟩, none⟩, ⟨.null, none⟩,
    ⟨.union members, none⟩, ⟨.array ⟨3⟩, none⟩]
  topLevels := [⟨"Pet", ⟨3⟩⟩]

/-- Absence may move past the cat, as long as the dog stays in front of the cat. -/
theorem reordered_petGraph :
    (petGraph [⟨1⟩, ⟨2⟩, ⟨0⟩]).Reordered (petGraph [⟨1⟩, ⟨0⟩, ⟨2⟩]) := by
  refine ⟨rfl, rfl, fun {t node node'} hnode hnode' => ?_⟩
  obtain ⟨i⟩ := t
  match i, hnode, hnode' with
  | 0, rfl, rfl | 1, rfl, rfl | 2, rfl, rfl | 4, rfl, rfl => exact ⟨.refl _, rfl⟩
  | 3, rfl, rfl =>
    refine ⟨.union ⟨by decide, fun n => ?_⟩, rfl⟩
    let hasRank := (petGraph [⟨1⟩, ⟨2⟩, ⟨0⟩]).kindHolds fun k => k.rank = n
    have hcat : hasRank ⟨0⟩ = decide (8 = n) := rfl
    have hdog : hasRank ⟨1⟩ = decide (8 = n) := rfl
    have hnull : hasRank ⟨2⟩ = decide (0 = n) := rfl
    show List.filter hasRank _ = List.filter hasRank _
    simp only [List.filter_cons, hcat, hdog, hnull]
    grind

/-- In canonical order absence comes first, and the dog stays in front of the cat. -/
theorem canonical_petGraph :
    (petGraph [⟨1⟩, ⟨2⟩, ⟨0⟩]).canonical = petGraph [⟨2⟩, ⟨1⟩, ⟨0⟩] :=
  congrArg₂ TypeGraph.mk (Array.toList_inj.1 (Array.toList_map.trans rfl)) rfl

/-- Both orders of a pet are accepted as the same graph, which is accepted as it is. -/
theorem make_canonical_pets :
    make (petGraph [⟨1⟩, ⟨2⟩, ⟨0⟩]).types [⟨"Pet", ⟨3⟩⟩] = .ok (petGraph [⟨2⟩, ⟨1⟩, ⟨0⟩]) ∧
    make (petGraph [⟨1⟩, ⟨0⟩, ⟨2⟩]).types [⟨"Pet", ⟨3⟩⟩] = .ok (petGraph [⟨2⟩, ⟨1⟩, ⟨0⟩]) ∧
    make (petGraph [⟨2⟩, ⟨1⟩, ⟨0⟩]).types [⟨"Pet", ⟨3⟩⟩] = .ok (petGraph [⟨2⟩, ⟨1⟩, ⟨0⟩]) := by
  have hcheck : (petGraph [⟨1⟩, ⟨2⟩, ⟨0⟩]).check = .ok () := rfl
  have hmake : make (petGraph [⟨1⟩, ⟨2⟩, ⟨0⟩]).types [⟨"Pet", ⟨3⟩⟩] =
      .ok (petGraph [⟨2⟩, ⟨1⟩, ⟨0⟩]) := by
    refine (make_eq _).trans ?_
    rw [hcheck, canonical_petGraph]
    rfl
  obtain ⟨haccepted, hsame⟩ := make_canonical
  obtain ⟨e, e', herror, -⟩ | ⟨g, hg, hg'⟩ := hsame reordered_petGraph
  · cases hmake.symm.trans herror
  · cases hmake.symm.trans hg
    exact ⟨hmake, hg', (haccepted hmake).2.2⟩

end TypeGraph

end TypedJson
