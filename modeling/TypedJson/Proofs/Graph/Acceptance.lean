import TypedJson.Graph.Check
import TypedJson.Proofs.Outcome

/-!
# Accepted type graphs

What holds of every graph that `make` accepts (`Accepted`): references denote types, unions have
members other than unions, and these are in the order of their ranks. The lemmas say of each check
when it passes, and of canonical order what it changes.
-/

namespace TypedJson.TypeGraph

variable {g : TypeGraph} {t : TypeRef}

/-- The types that a kind refers to, those of properties included. -/
def kindRefs : Kind → List TypeRef
  | .record r => r.properties.map Property.type
  | kind => structuralRefs kind

/-- Elements and members are among the types that a kind refers to. -/
theorem mem_kindRefs {k : Kind} {r : TypeRef} (h : r ∈ structuralRefs k) : r ∈ kindRefs k := by
  cases k with
  | record => cases h
  | any | null | bool | integer | double | text | array | map | enumeration | union | formatted =>
      exact h

/-- A tree refers to what its first step takes. -/
theorem source_mem_refs (x : Transformer) : x.source ∈ x.refs := by
  cases x <;> simp only [Transformer.source, Transformer.refs, List.mem_cons, true_or]

/-- A branch refers to no more than the branches together. -/
theorem mem_branchRefs {x : Transformer} {branches : List Transformer} (hx : x ∈ branches)
    {r : TypeRef} (hr : r ∈ x.refs) : r ∈ Transformer.branchRefs branches := by
  induction branches with
  | nil => cases hx
  | cons branch rest ih =>
      rw [Transformer.branchRefs, List.mem_append]
      rcases List.mem_cons.1 hx with rfl | hx
      · exact .inl hr
      · exact .inr (ih hx)

/-- The step behind another one refers to no more than the two together. -/
theorem mem_refs_of_next? {x y : Transformer} (hy : x.next? = some y) {r : TypeRef}
    (hr : r ∈ y.refs) : r ∈ x.refs := by
  have hnext : r ∈ Transformer.nextRefs x.next? := by
    rw [hy]
    exact hr
  cases x with
  | decode | parseText | writeText => exact List.mem_cons_of_mem _ hnext
  | elements =>
      rw [Transformer.refs]
      exact List.mem_cons_of_mem _ (List.mem_append_right _ hnext)
  | memberMatch => exact List.mem_cons_of_mem _ (List.mem_cons_of_mem _ hnext)
  | encode | choice | instantiate => cases hy

/-- The members apart from null are members of the union. -/
theorem mem_of_mem_nonNullMembers {members : List TypeRef} (hk : g.kind? t = some (.union members))
    {m : TypeRef} (hm : m ∈ g.nonNullMembers t) : m ∈ members := by
  unfold nonNullMembers at hm
  rw [hk] at hm
  exact (List.mem_filter.1 hm).1

/-- What the checks and the canonical order of members make sure of. -/
structure Accepted (g : TypeGraph) : Prop where
  topLevels : ∀ top ∈ g.topLevels, top.type.index < g.size
  refs : ∀ {t k}, g.kind? t = some k → ∀ r ∈ kindRefs k, r.index < g.size
  transformed : ∀ {t x}, g.transformation? t = some x → ∀ r ∈ x.refs, r.index < g.size
  members : ∀ {t ms}, g.kind? t = some (.union ms) →
    ms ≠ [] ∧ ∀ m ∈ ms, g.kindHolds Kind.isUnion m = false
  ranked : ∀ {t ms}, g.kind? t = some (.union ms) → ms.Pairwise fun a b => g.rank a ≤ g.rank b

/-! ## References and kinds -/

/-- A reference within the size of a graph denotes a type of some kind. -/
theorem kind?_isSome (h : t.index < g.size) : ∃ k, g.kind? t = some k := by
  have hnode : g.node? t = some g.types[t.index] := Array.getElem?_eq_getElem h
  exact ⟨_, by rw [kind?, hnode]; rfl⟩

/-- A reference that denotes a type is within the size of the graph. -/
theorem index_lt_of_kind? {k : Kind} (h : g.kind? t = some k) : t.index < g.size := by
  rw [kind?, Option.map_eq_some_iff] at h
  obtain ⟨node, hnode, -⟩ := h
  exact (Array.getElem?_eq_some_iff.1 hnode).1

/-- A property of the kind that a reference denotes. -/
theorem kindHolds_eq {p : Kind → Bool} {k : Kind} (h : g.kind? t = some k) :
    g.kindHolds p t = p k := by
  rw [kindHolds, h]

/-- What holds of the kinds of some types holds of each of them. -/
theorem exists_of_mem_filter {p : Kind → Bool} (h : t ∈ g.refs.filter (g.kindHolds p)) :
    ∃ k, g.kind? t = some k ∧ p k := by
  have hholds := (List.mem_filter.1 h).2
  unfold kindHolds at hholds
  split at hholds
  next k hk => exact ⟨k, hk, hholds⟩
  next => cases hholds

/-- A type of some kind is among the types of such kinds. -/
theorem mem_filter_refs {k : Kind} {p : Kind → Bool} (hk : g.kind? t = some k) (hp : p k) :
    t ∈ g.refs.filter (g.kindHolds p) := by
  have hlt := index_lt_of_kind? hk
  refine List.mem_filter.2 ⟨List.mem_map.2 ⟨t.index, List.mem_range.2 hlt, rfl⟩, ?_⟩
  rwa [kindHolds_eq hk]

/-- A reference denotes a record if its kind is that of the record. -/
theorem record?_eq_some {r : Record} : g.record? t = some r ↔ g.kind? t = some (.record r) := by
  unfold record?
  split
  next r' hk =>
    rw [hk]
    exact ⟨fun h => by cases h; rfl, fun h => by cases h; rfl⟩
  next hk => exact ⟨nofun, fun h => absurd h (hk r)⟩

/-- A reference denotes an enumeration if its kind is that of the enumeration. -/
theorem enumeration?_eq_some {e : Enumeration} :
    g.enumeration? t = some e ↔ g.kind? t = some (.enumeration e) := by
  unfold enumeration?
  split
  next e' hk =>
    rw [hk]
    exact ⟨fun h => by cases h; rfl, fun h => by cases h; rfl⟩
  next hk => exact ⟨nofun, fun h => absurd h (hk e)⟩

/-- The records are the references that denote one. -/
theorem mem_records : t ∈ g.records ↔ ∃ r, g.record? t = some r := by
  constructor
  · intro h
    obtain ⟨k, hk, hholds⟩ := exists_of_mem_filter h
    cases k <;> cases hholds
    exact ⟨_, record?_eq_some.2 hk⟩
  · rintro ⟨r, hr⟩
    exact mem_filter_refs (record?_eq_some.1 hr) rfl

/-- The enumerations are the references that denote one. -/
theorem mem_enumerations : t ∈ g.enumerations ↔ ∃ e, g.enumeration? t = some e := by
  constructor
  · intro h
    obtain ⟨k, hk, hholds⟩ := exists_of_mem_filter h
    cases k <;> cases hholds
    exact ⟨_, enumeration?_eq_some.2 hk⟩
  · rintro ⟨e, he⟩
    exact mem_filter_refs (enumeration?_eq_some.1 he) rfl

/-! ## What the checks make sure of -/

/-- A reference passes its check if it denotes a type. -/
theorem checkRef_eq_ok {holder : Referrer} :
    g.checkRef t holder = .ok () ↔ t.index < g.size := by
  rw [checkRef]
  by_cases h : t.index < g.size
  · rw [if_pos h]
    exact ⟨fun _ => h, fun _ => rfl⟩
  · rw [if_neg h]
    exact ⟨nofun, fun hlt => absurd hlt h⟩

/-- Top-levels pass their check if they denote types and have names of their own, none of which has
been seen before. -/
theorem checkTopLevels_eq_ok {seen : List String} {tops : List TopLevel} :
    g.checkTopLevels seen tops = .ok () ↔
      (∀ top ∈ tops, top.type.index < g.size ∧ top.name ∉ seen) ∧
        (tops.map TopLevel.name).Nodup := by
  induction tops generalizing seen with
  | nil => exact ⟨fun _ => ⟨List.forall_mem_nil _, List.nodup_nil⟩, fun _ => rfl⟩
  | cons top rest ih =>
      rw [checkTopLevels, List.forall_mem_cons, List.map_cons, List.nodup_cons, List.mem_map]
      split
      next hseen => exact ⟨nofun, fun h => absurd (List.contains_iff_mem.1 hseen) h.1.1.2⟩
      next hseen =>
        have hnew : top.name ∉ seen := fun hmem => hseen (List.contains_iff_mem.2 hmem)
        rw [check_eq_ok, checkRef_eq_ok, ih]
        constructor
        · rintro ⟨htop, hrest, hnodup⟩
          refine ⟨⟨⟨htop, hnew⟩, fun other hother => ?_⟩, ?_, hnodup⟩
          · exact ⟨(hrest other hother).1, fun hmem =>
              (hrest other hother).2 (List.mem_cons_of_mem _ hmem)⟩
          · rintro ⟨other, hother, hname⟩
            exact (hrest other hother).2 (hname ▸ List.mem_cons_self)
        · rintro ⟨⟨⟨htop, -⟩, hrest⟩, hname, hnodup⟩
          refine ⟨htop, fun other hother => ⟨(hrest other hother).1, fun hmem => ?_⟩, hnodup⟩
          obtain heq | hmem := List.mem_cons.1 hmem
          · exact hname ⟨other, hother, heq⟩
          · exact (hrest other hother).2 hmem

/-- A kind passes its check if it refers to types only, and a union has members other than
unions. -/
theorem checkKind_eq_ok {k : Kind} :
    g.checkKind t k = .ok () ↔ (∀ r ∈ kindRefs k, r.index < g.size) ∧
      ∀ ms, k = .union ms → ms ≠ [] ∧ ∀ m ∈ ms, g.kindHolds Kind.isUnion m = false := by
  cases k with
  | array items | map items =>
      rw [checkKind, checkRef_eq_ok]
      exact ⟨fun h => ⟨List.forall_mem_singleton.2 h, nofun⟩, fun h => h.1 items List.mem_cons_self⟩
  | record r =>
      rw [checkKind, forM_eq_ok, kindRefs, List.forall_mem_map]
      exact ⟨fun h => ⟨fun p hp => checkRef_eq_ok.1 (h p hp), nofun⟩,
        fun h p hp => checkRef_eq_ok.2 (h.1 p hp)⟩
  | union members =>
      cases members with
      | nil => exact ⟨nofun, fun h => absurd rfl (h.2 [] rfl).1⟩
      | cons first rest =>
          have hmember (m : TypeRef) : (do
              g.checkRef m (.union t)
              if g.kindHolds Kind.isUnion m then .error (.nestedUnion t m)) = .ok () ↔
                m.index < g.size ∧ g.kindHolds Kind.isUnion m = false := by
            rw [check_eq_ok, checkRef_eq_ok]
            cases g.kindHolds Kind.isUnion m with
            | false => exact ⟨fun h => ⟨h.1, rfl⟩, fun h => ⟨h.1, rfl⟩⟩
            | true => exact ⟨fun h => (nomatch h.2 :), fun h => (nomatch h.2 :)⟩
          refine forM_eq_ok.trans ⟨?_, ?_⟩
          · intro h
            refine ⟨fun m hm => ((hmember m).1 (h m hm)).1, fun ms hms => ?_⟩
            cases hms
            exact ⟨List.cons_ne_nil _ _, fun m hm => ((hmember m).1 (h m hm)).2⟩
          · exact fun h m hm => (hmember m).2 ⟨h.1 m hm, (h.2 _ rfl).2 m hm⟩
  | any | null | bool | integer | double | text | enumeration | formatted =>
      exact ⟨fun _ => ⟨List.forall_mem_nil _, nofun⟩, fun _ => rfl⟩

/-- A transformation passes its check if it refers to types only. -/
theorem checkTransformation_eq_ok {x : Transformation} :
    g.checkTransformation t x = .ok () ↔ ∀ r ∈ x.refs, r.index < g.size := by
  rw [checkTransformation, check_eq_ok, check_eq_ok, checkRef_eq_ok, forM_eq_ok, forM_eq_ok,
    Transformation.refs, List.forall_mem_cons, List.forall_mem_append]
  simp only [checkRef_eq_ok]

/-- A type passes its check if its kind does, and its transformation if it has one. -/
theorem checkNode_eq_ok {node : Node} :
    g.checkNode t node = .ok () ↔ g.checkKind t node.kind = .ok () ∧
      ∀ x, node.transformation = some x → g.checkTransformation t x = .ok () := by
  rw [checkNode, check_eq_ok]
  cases hx : node.transformation with
  | none => exact ⟨fun h => ⟨h.1, nofun⟩, fun h => ⟨h.1, rfl⟩⟩
  | some x => exact ⟨fun h => ⟨h.1, fun _ hx => by cases hx; exact h.2⟩, fun h => ⟨h.1, h.2 x rfl⟩⟩

/-- Types pass their checks one behind the other if each of them does. -/
theorem checkNodes_eq_ok :
    (g.types.toList.zipIdx.forM fun entry => g.checkNode ⟨entry.2⟩ entry.1) = .ok () ↔
      ∀ t node, g.node? t = some node → g.checkNode t node = .ok () := by
  have hmem (node : Node) (i : Nat) : (node, i) ∈ g.types.toList.zipIdx ↔
      g.node? ⟨i⟩ = some node := by
    rw [List.mem_zipIdx_iff_getElem?, Array.getElem?_toList]
    rfl
  rw [forM_eq_ok]
  exact ⟨fun h t node hnode => h _ ((hmem node t.index).2 hnode),
    fun h entry hentry => h ⟨entry.2⟩ entry.1 ((hmem entry.1 entry.2).1 hentry)⟩

/-- A graph has no fault if it has a top-level and all of its checks pass. -/
theorem check_iff : g.check = .ok () ↔
    g.topLevels ≠ [] ∧ g.checkTopLevels [] g.topLevels = .ok () ∧
      (∀ t node, g.node? t = some node → g.checkNode t node = .ok ()) ∧
      g.checkCycles = .ok () := by
  rw [check]
  split
  next hempty => exact ⟨nofun, fun h => absurd (List.isEmpty_iff.1 hempty) h.1⟩
  next hempty =>
    rw [check_eq_ok, check_eq_ok, checkNodes_eq_ok]
    exact ⟨fun h => ⟨fun hnil => hempty (List.isEmpty_iff.2 hnil), h⟩, And.right⟩

/-! ## Canonical order -/

/-- Members are put in order as insertion sort by their ranks does. -/
theorem sortMembers_eq (members : List TypeRef) :
    g.sortMembers members = members.insertionSort fun a b => g.rank a ≤ g.rank b := by
  have hinsert : ∀ (m : TypeRef) (ms : List TypeRef),
      g.insertMember m ms = ms.orderedInsert (fun a b => g.rank a ≤ g.rank b) m := by
    intro m ms
    induction ms with
    | nil => rfl
    | cons first rest ih => rw [insertMember, List.orderedInsert_cons, ih]
  rw [sortMembers, List.insertionSort]
  congr
  funext m ms
  exact hinsert m ms

/-- The members in canonical order are the given ones. -/
theorem sortMembers_perm (members : List TypeRef) : (g.sortMembers members).Perm members := by
  rw [sortMembers_eq]
  exact List.perm_insertionSort _ members

/-- Canonical order goes by the ranks of the members. -/
theorem sortMembers_ranked (members : List TypeRef) :
    (g.sortMembers members).Pairwise fun a b => g.rank a ≤ g.rank b := by
  rw [sortMembers_eq]
  have : Std.Total fun a b : TypeRef => g.rank a ≤ g.rank b := ⟨fun a b => Nat.le_total _ _⟩
  have : IsTrans TypeRef fun a b => g.rank a ≤ g.rank b := ⟨fun _ _ _ => Nat.le_trans⟩
  exact List.pairwise_insertionSort _ members

/-- Canonical order keeps the number of types. -/
theorem size_canonical : g.canonical.size = g.size := by
  rw [size, canonical, Array.size_map, size]

/-- Canonical order keeps every type, its kind apart. -/
theorem node?_canonical : g.canonical.node? t
    = (g.node? t).map fun node => { node with kind := g.canonicalKind node.kind } := by
  rw [node?, canonical, Array.getElem?_map, node?]

/-- Canonical order changes the members of unions. -/
theorem kind?_canonical : g.canonical.kind? t = (g.kind? t).map g.canonicalKind := by
  rw [kind?, node?_canonical, kind?, Option.map_map, Option.map_map]
  rfl

/-- Canonical order changes nothing where all unions are in it. -/
theorem canonical_eq_self (h : ∀ node ∈ g.types.toList, g.canonicalKind node.kind = node.kind) :
    g.canonical = g := by
  have htypes : (g.types.map fun node => { node with kind := g.canonicalKind node.kind })
      = g.types := by
    rw [← Array.toList_inj, Array.toList_map]
    refine (List.map_congr_left fun node hnode => ?_).trans (List.map_id _)
    rw [h node hnode]
    rfl
  rw [canonical, htypes]

/-- A graph is accepted in canonical order, unless it has a fault. -/
theorem make_eq (g : TypeGraph) : make g.types g.topLevels = g.check.map fun _ => g.canonical := by
  show (g.check >>= fun _ => pure g.canonical) = _
  cases g.check <;> rfl

/-- A graph without faults is accepted as it is if all unions are in order. -/
theorem make_eq_self (hcheck : g.check = .ok ())
    (h : ∀ node ∈ g.types.toList, g.canonicalKind node.kind = node.kind) :
    make g.types g.topLevels = .ok g := by
  rw [make_eq, hcheck, canonical_eq_self h]
  rfl

/-- A graph that `make` accepts has no faults, and it is in canonical order. -/
theorem make_eq_ok {types : Array Node} {topLevels : List TopLevel}
    (h : make types topLevels = .ok g) :
    check ⟨types, topLevels⟩ = .ok () ∧ g = canonical ⟨types, topLevels⟩ := by
  obtain ⟨_, hcheck, hg⟩ := map_eq_ok.1 ((make_eq ⟨types, topLevels⟩).symm.trans h)
  exact ⟨hcheck, hg.symm⟩

end TypedJson.TypeGraph
