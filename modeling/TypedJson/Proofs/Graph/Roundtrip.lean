import TypedJson.Graph.Reader
import TypedJson.Graph.Writer
import TypedJson.Proofs.Graph.Reordering
import TypedJson.Proofs.Json.Shape

/-!
# Reading back a written graph

The text that is written for an accepted graph is read as the same graph. The text is read as the JSON
value that it was written from; its members are found under their names, absent ones included; and
the types and top-levels found there are those of an accepted graph, so that they are accepted as they
are. References have 32 bits in the text, and it nests at most as deep as the reader goes.
-/

namespace TypedJson

open Json

/-! ## References -/

/-- Each of the references has 32 bits. -/
def Addressable (refs : List TypeRef) : Prop :=
  ∀ r ∈ refs, r.index < 0x100000000

instance (refs : List TypeRef) : Decidable (Addressable refs) :=
  inferInstanceAs (Decidable (∀ r ∈ refs, r.index < 0x100000000))

/-- The first of several references and the others have 32 bits. -/
theorem addressable_cons {r : TypeRef} {refs : List TypeRef} :
    Addressable (r :: refs) ↔ r.index < 0x100000000 ∧ Addressable refs :=
  List.forall_mem_cons

/-- The references of two rows have 32 bits. -/
theorem addressable_append {refs others : List TypeRef} :
    Addressable (refs ++ others) ↔ Addressable refs ∧ Addressable others :=
  List.forall_mem_append

/-- A reference of 32 bits is written as an exact value. -/
theorem TypeRef.exact_toJson {t : TypeRef} (h : t.index < 0x100000000) : t.toJson.IsExact := by
  rw [toJson, IsExact]
  omega

/-- It is read back. -/
theorem TypeRef.ofJson?_toJson {t : TypeRef} (h : t.index < 0x100000000) :
    TypeRef.ofJson? t.toJson = some t := by
  have hindex : (t.index : Int) < 0x100000000 := by omega
  rw [toJson, ofJson?, if_pos ⟨Int.natCast_nonneg _, hindex⟩]
  rfl

/-! ## Transformers -/

namespace Transformer

/-- The next step is written as an optional member. -/
theorem nextMember_eq (next : Option Transformer) :
    nextMember next = optionalMember "consumer" (next.map toJson) := by
  cases next with
  | none => simp only [nextMember, Option.map_none, optionalMember]
  | some step => simp only [nextMember, Option.map_some, optionalMember]

/-- A transformer is written as an object. -/
theorem toJson_ne_null (x : Transformer) : x.toJson ≠ .null := by
  cases x <;> simp [toJson]

/-- The container of an elements step is read back. -/
theorem ofJson?_container (container : Container) :
    Container.ofJson? (.text container.name) = some container := by
  cases container <;> rfl

/-- The next step is read back behind other members. -/
theorem optional?_nextMember {levels : Nat} {front : List (String × Json)}
    (hfront : ∀ m ∈ front, m.1 ≠ "consumer") {next : Option Transformer}
    (h : ∀ step, next = some step → ofJson? levels step.toJson = some step) :
    optional? "consumer" (ofJson? levels) (front ++ nextMember next) = some next := by
  rw [nextMember_eq]
  exact optional?_append_optionalMember hfront toJson_ne_null h

/-- The other members are asked for in front of it. -/
theorem required?_nextMember {α : Type} {name : String} {read : Json → Option α}
    {front : List (String × Json)} (h : name ≠ "consumer") (next : Option Transformer) :
    required? name read (front ++ nextMember next) = required? name read front := by
  rw [nextMember_eq]
  exact required?_append_optionalMember h.symm _

mutual
/-- A transformer is read back if it nests no deeper than the reader goes. -/
theorem ofJson?_toJson : ∀ (x : Transformer) (levels : Nat), Addressable x.refs →
    x.toJson.nesting ≤ levels → ofJson? levels x.toJson = some x
  | .encode source, levels, hrefs, hlevels
  | .instantiate source, levels, hrefs, hlevels => by
      rw [refs, addressable_cons] at hrefs
      rw [toJson] at hlevels ⊢
      obtain ⟨levels, rfl, -⟩ := nesting_object_le hlevels
      simp [ofJson?, required?, uniqueMember?, tag?, stepNames, TypeRef.ofJson?_toJson hrefs.1]
  | .decode source next, levels, hrefs, hlevels
  | .parseText source next, levels, hrefs, hlevels
  | .writeText source next, levels, hrefs, hlevels => by
      rw [refs, addressable_cons] at hrefs
      rw [toJson] at hlevels ⊢
      obtain ⟨levels, rfl, hmembers⟩ := nesting_object_le hlevels
      have hnext := next_toJson next levels hrefs.2 fun m hm =>
        hmembers m (List.mem_append_right _ hm)
      rw [ofJson?, optional?_nextMember ?_ hnext]
      · simp (disch := decide) only [required?_nextMember]
        simp [required?, uniqueMember?, tag?, stepNames, TypeRef.ofJson?_toJson hrefs.1]
      · simp
  | .elements source container element next, levels, hrefs, hlevels => by
      rw [refs, addressable_cons, addressable_append] at hrefs
      rw [toJson] at hlevels ⊢
      obtain ⟨levels, rfl, hmembers⟩ := nesting_object_le hlevels
      have helement := ofJson?_toJson element levels hrefs.2.1
        (hmembers ("element", element.toJson) (by simp))
      have hnext := next_toJson next levels hrefs.2.2 fun m hm =>
        hmembers m (List.mem_append_right _ hm)
      rw [ofJson?, optional?_nextMember ?_ hnext]
      · simp (disch := decide) only [required?_nextMember]
        simp [required?, uniqueMember?, tag?, stepNames, TypeRef.ofJson?_toJson hrefs.1,
          ofJson?_container, helement]
      · simp
  | .memberMatch source member next, levels, hrefs, hlevels => by
      rw [refs, addressable_cons, addressable_cons] at hrefs
      rw [toJson] at hlevels ⊢
      obtain ⟨levels, rfl, hmembers⟩ := nesting_object_le hlevels
      have hnext := next_toJson next levels hrefs.2.2 fun m hm =>
        hmembers m (List.mem_append_right _ hm)
      rw [ofJson?, optional?_nextMember ?_ hnext]
      · simp (disch := decide) only [required?_nextMember]
        simp [required?, uniqueMember?, tag?, stepNames, TypeRef.ofJson?_toJson hrefs.1,
          TypeRef.ofJson?_toJson hrefs.2.1]
      · simp
  | .choice source branches, levels, hrefs, hlevels => by
      rw [refs, addressable_cons] at hrefs
      rw [toJson] at hlevels ⊢
      obtain ⟨levels, rfl, hmembers⟩ := nesting_object_le hlevels
      -- The list of branches takes a level that the reader of transformers does not count.
      obtain ⟨fewer, rfl, hitems⟩ := nesting_list_le
        (hmembers ("branches", .list (toJsonAll branches)) (by simp))
      have hbranches := branches_toJson branches (fewer + 1) hrefs.2 fun j hj =>
        Nat.le_succ_of_le (hitems j hj)
      simp [ofJson?, required?, uniqueMember?, tag?, stepNames, TypeRef.ofJson?_toJson hrefs.1,
        listOf?, hbranches]

/-- So is the next step. -/
theorem next_toJson : ∀ (next : Option Transformer) (levels : Nat), Addressable (nextRefs next) →
    (∀ m ∈ nextMember next, m.2.nesting ≤ levels) →
    ∀ step, next = some step → ofJson? levels step.toJson = some step
  | some step, levels, hrefs, hlevels, _, rfl =>
      ofJson?_toJson step levels hrefs (hlevels ("consumer", step.toJson) (by simp [nextMember]))

/-- So are the branches of a choice. -/
theorem branches_toJson : ∀ (branches : List Transformer) (levels : Nat),
    Addressable (branchRefs branches) → (∀ j ∈ toJsonAll branches, j.nesting ≤ levels) →
    (toJsonAll branches).mapM (ofJson? levels) = some branches
  | [], levels, _, _ => rfl
  | branch :: rest, levels, hrefs, hlevels => by
      rw [branchRefs, addressable_append] at hrefs
      rw [toJsonAll, List.forall_mem_cons] at hlevels
      rw [toJsonAll, List.mapM_cons, ofJson?_toJson branch levels hrefs.1 hlevels.1,
        branches_toJson rest levels hrefs.2 hlevels.2]
      rfl
end

mutual
/-- A transformer is written as an exact value. -/
theorem exact_toJson : ∀ (x : Transformer), Addressable x.refs → x.toJson.IsExact
  | .encode source, hrefs
  | .instantiate source, hrefs => by
      rw [refs, addressable_cons] at hrefs
      rw [toJson]
      exact exact_object (by simp [TypeRef.exact_toJson hrefs.1])
  | .decode source next, hrefs
  | .parseText source next, hrefs
  | .writeText source next, hrefs => by
      rw [refs, addressable_cons] at hrefs
      rw [toJson]
      refine exact_object (List.forall_mem_append.2 ⟨?_, exact_nextMember next hrefs.2⟩)
      simp [TypeRef.exact_toJson hrefs.1]
  | .elements source container element next, hrefs => by
      rw [refs, addressable_cons, addressable_append] at hrefs
      rw [toJson]
      refine exact_object (List.forall_mem_append.2 ⟨?_, exact_nextMember next hrefs.2.2⟩)
      simp [TypeRef.exact_toJson hrefs.1, exact_toJson element hrefs.2.1]
  | .memberMatch source member next, hrefs => by
      rw [refs, addressable_cons, addressable_cons] at hrefs
      rw [toJson]
      refine exact_object (List.forall_mem_append.2 ⟨?_, exact_nextMember next hrefs.2.2⟩)
      simp [TypeRef.exact_toJson hrefs.1, TypeRef.exact_toJson hrefs.2.1]
  | .choice source branches, hrefs => by
      rw [refs, addressable_cons] at hrefs
      rw [toJson]
      have hbranches := exact_list (exact_toJsonAll branches hrefs.2)
      exact exact_object (by simp [TypeRef.exact_toJson hrefs.1, hbranches])

/-- So is the next step. -/
theorem exact_nextMember : ∀ (next : Option Transformer), Addressable (nextRefs next) →
    ∀ m ∈ nextMember next, m.2.IsExact
  | none, _ => by
      rw [nextMember]
      exact List.forall_mem_nil _
  | some step, hrefs => by
      rw [nextMember, List.forall_mem_singleton]
      exact exact_toJson step hrefs

/-- So are the branches of a choice. -/
theorem exact_toJsonAll : ∀ (branches : List Transformer), Addressable (branchRefs branches) →
    ∀ j ∈ toJsonAll branches, j.IsExact
  | [], _ => by
      rw [toJsonAll]
      exact List.forall_mem_nil _
  | branch :: rest, hrefs => by
      rw [branchRefs, addressable_append] at hrefs
      rw [toJsonAll, List.forall_mem_cons]
      exact ⟨exact_toJson branch hrefs.1, exact_toJsonAll rest hrefs.2⟩
end

/-- A transformer no part of which is skipped is read back. -/
theorem ofSoundJson?_toJson {x : Transformer} {levels : Nat} (hrefs : Addressable x.refs)
    (hlevels : x.toJson.nesting ≤ levels) : ofSoundJson? levels x.toJson = some x := by
  rw [ofSoundJson?, if_pos (soundWithin_of_exact x.toJson levels (exact_toJson x hrefs) hlevels)]
  exact ofJson?_toJson x levels hrefs hlevels

end Transformer

/-! ## Transformations -/

/-- A transformation with references of 32 bits is written as an exact value. -/
theorem Transformation.exact_toJson {x : Transformation} (h : Addressable x.refs) :
    x.toJson.IsExact := by
  rw [refs, addressable_cons, addressable_append] at h
  rw [toJson]
  exact exact_object (by
    simp [TypeRef.exact_toJson h.1, x.transformer.exact_toJson h.2.1, x.reverse.exact_toJson h.2.2])

/-- It is read back if it nests no deeper than the reader goes. -/
theorem Transformation.ofJson?_toJson {x : Transformation} {levels : Nat} (hrefs : Addressable x.refs)
    (hlevels : x.toJson.nesting ≤ levels) : Transformation.ofJson? levels x.toJson = some x := by
  rw [refs, addressable_cons, addressable_append] at hrefs
  rw [toJson] at hlevels ⊢
  obtain ⟨levels, rfl, hmembers⟩ := nesting_object_le hlevels
  have hforth := Transformer.ofSoundJson?_toJson hrefs.2.1
    (hmembers ("transformer", x.transformer.toJson) (by simp))
  have hback := Transformer.ofSoundJson?_toJson hrefs.2.2
    (hmembers ("reverse", x.reverse.toJson) (by simp))
  simp [ofJson?, required?, uniqueMember?, TypeRef.ofJson?_toJson hrefs.1, hforth, hback]

/-- A transformation is written as an object. -/
theorem Transformation.toJson_ne_null (x : Transformation) : x.toJson ≠ .null := by
  simp [toJson]

/-! ## Kinds -/

/-- A description is read back behind other members. -/
theorem optional?_description {front : List (String × Json)} (hfront : ∀ m ∈ front, m.1 ≠ "description")
    (description : Option String) :
    optional? "description" text?
      (front ++ optionalMember "description" (description.map .text)) = some description :=
  optional?_append_optionalMember hfront (fun s => by simp) fun s _ => rfl

/-- A description is exact. -/
theorem exact_description (description : Option String) :
    ∀ m ∈ optionalMember "description" (description.map .text), m.2.IsExact := by
  refine exact_optionalMember fun j hj => ?_
  obtain ⟨s, -, rfl⟩ := Option.map_eq_some_iff.1 hj
  exact exact_text s

/-- A property is written as an exact value. -/
theorem Property.exact_toJson {p : Property} (h : p.type.index < 0x100000000) :
    p.toJson.IsExact := by
  rw [toJson]
  refine exact_object (List.forall_mem_append.2 ⟨?_, exact_description p.description⟩)
  simp [TypeRef.exact_toJson h]

/-- It is read back. -/
theorem Property.ofJson?_toJson {p : Property} (h : p.type.index < 0x100000000) :
    Property.ofJson? p.toJson = some p := by
  rw [toJson, ofJson?, optional?_description (by simp)]
  simp (disch := decide) only [required?_append_optionalMember]
  simp [required?, uniqueMember?, text?, TypeRef.ofJson?_toJson h]

/-- A text format is read back. -/
theorem TextFormat.ofJson?_name (format : TextFormat) :
    TextFormat.ofJson? (.text format.name) = some format := by
  cases format <;> rfl

namespace Kind

open TypeGraph

/-- The members of a kind leave room for a transformation. -/
theorem fst_of_mem_members {k : Kind} : ∀ m ∈ k.members, m.1 ≠ "transformation" := by
  have hdescription (value : Option Json) : ∀ m ∈ optionalMember "description" value,
      m.1 ≠ "transformation" := by
    intro m hm
    rw [fst_of_mem_optionalMember hm]
    decide
  cases k with
  | record r =>
      rw [members, List.forall_mem_append]
      exact ⟨by simp, hdescription _⟩
  | enumeration e =>
      rw [members, List.forall_mem_append]
      exact ⟨by simp, hdescription _⟩
  | any | null | bool | integer | double | text | array | map | union | formatted => simp [members]

/-- The members of a kind are exact. -/
theorem exact_members {k : Kind} (h : Addressable (kindRefs k)) : ∀ m ∈ k.members, m.2.IsExact := by
  cases k with
  | any | null | bool | integer | double | text | formatted => simp [members]
  | array items => simp [members, TypeRef.exact_toJson (h items List.mem_cons_self)]
  | map values => simp [members, TypeRef.exact_toJson (h values List.mem_cons_self)]
  | record r =>
      have hproperties : (Json.list (r.properties.map Property.toJson)).IsExact :=
        exact_list (List.forall_mem_map.2 fun p hp =>
          Property.exact_toJson (h p.type (List.mem_map_of_mem hp)))
      rw [members, List.forall_mem_append]
      exact ⟨by simp [hproperties], exact_description r.description⟩
  | enumeration e =>
      have hcases : (Json.list (e.cases.map .text)).IsExact :=
        exact_list (List.forall_mem_map.2 fun s _ => exact_text s)
      rw [members, List.forall_mem_append]
      exact ⟨by simp [hcases], exact_description e.description⟩
  | union members =>
      have hmembers : (Json.list (members.map TypeRef.toJson)).IsExact :=
        exact_list (List.forall_mem_map.2 fun r hr => TypeRef.exact_toJson (h r hr))
      simp [Kind.members, hmembers]

/-- A kind is read back from its members. -/
theorem ofMembers?_members {k : Kind} (h : Addressable (kindRefs k)) :
    ofMembers? k.members = some k := by
  cases k with
  | any | null | bool | integer | double | text =>
      simp [members, ofMembers?, required?, uniqueMember?, tag?, kindNames]
  | array items =>
      have hitems := TypeRef.ofJson?_toJson (h items List.mem_cons_self)
      simp [members, ofMembers?, required?, uniqueMember?, tag?, kindNames, hitems]
  | map values =>
      have hvalues := TypeRef.ofJson?_toJson (h values List.mem_cons_self)
      simp [members, ofMembers?, required?, uniqueMember?, tag?, kindNames, hvalues]
  | record r =>
      have hproperties : (r.properties.map Property.toJson).mapM Property.ofJson? = some r.properties :=
        mapM_map_eq_some fun p hp => Property.ofJson?_toJson (h p.type (List.mem_map_of_mem hp))
      rw [members, ofMembers?, optional?_description (by simp)]
      simp (disch := decide) only [required?_append_optionalMember,
        defaulted?_append_optionalMember]
      simp [required?, defaulted?, uniqueMember?, tag?, kindNames, text?, listOf?, hproperties]
  | enumeration e =>
      have hcases : (e.cases.map .text).mapM text? = some e.cases :=
        mapM_map_eq_some fun s _ => rfl
      rw [members, ofMembers?, optional?_description (by simp)]
      simp (disch := decide) only [required?_append_optionalMember]
      simp [required?, uniqueMember?, tag?, kindNames, text?, listOf?, hcases]
  | union members =>
      have hmembers : (members.map TypeRef.toJson).mapM TypeRef.ofJson? = some members :=
        mapM_map_eq_some fun r hr => TypeRef.ofJson?_toJson (h r hr)
      simp [Kind.members, ofMembers?, required?, uniqueMember?, tag?, kindNames, listOf?, hmembers]
  | formatted format =>
      simp [members, ofMembers?, required?, uniqueMember?, tag?, kindNames,
        TextFormat.ofJson?_name]

end Kind

/-! ## Types and top-levels -/

/-- The references that a type holds, in its kind and in its transformation. -/
def Node.refs (node : Node) : List TypeRef :=
  TypeGraph.kindRefs node.kind ++ node.transformation.toList.flatMap Transformation.refs

/-- A type whose references have 32 bits has such references in its kind and its transformation. -/
theorem Node.addressable_refs {node : Node} :
    Addressable node.refs ↔ Addressable (TypeGraph.kindRefs node.kind) ∧
      ∀ x, node.transformation = some x → Addressable x.refs := by
  rw [refs, addressable_append]
  refine and_congr_right fun _ => ?_
  cases node.transformation with
  | none => simp [Addressable]
  | some x => simp

/-- A type with references of 32 bits is written as an exact value. -/
theorem Node.exact_toJson {node : Node} (h : Addressable node.refs) : node.toJson.IsExact := by
  obtain ⟨hkind, htransformation⟩ := addressable_refs.1 h
  refine exact_object (List.forall_mem_append.2 ⟨Kind.exact_members hkind, ?_⟩)
  refine exact_optionalMember fun j hj => ?_
  obtain ⟨x, hx, rfl⟩ := Option.map_eq_some_iff.1 hj
  exact Transformation.exact_toJson (htransformation x hx)

/-- It is read back if it nests no deeper than the reader goes. -/
theorem Node.ofJson?_toJson {node : Node} {levels : Nat} (hrefs : Addressable node.refs)
    (hlevels : node.toJson.nesting ≤ levels) : Node.ofJson? levels node.toJson = some node := by
  obtain ⟨hkind, htransformation⟩ := addressable_refs.1 hrefs
  rw [toJson] at hlevels ⊢
  obtain ⟨levels, rfl, hmembers⟩ := nesting_object_le hlevels
  rw [List.forall_mem_append] at hmembers
  -- The transformation is asked for by its name, and the kind gets the members in front of it.
  have hread : optional? "transformation" (Transformation.ofJson? levels) (node.kind.members ++
      optionalMember "transformation" (node.transformation.map Transformation.toJson)) =
        some node.transformation := by
    refine optional?_append_optionalMember Kind.fst_of_mem_members Transformation.toJson_ne_null
      fun x hx => Transformation.ofJson?_toJson (htransformation x hx) ?_
    refine hmembers.2 ("transformation", x.toJson) ?_
    rw [hx]
    exact List.mem_singleton_self _
  have hothers : (node.kind.members ++ optionalMember "transformation"
      (node.transformation.map Transformation.toJson)).filter (fun m => m.1 != "transformation") =
        node.kind.members := by
    rw [List.filter_append, List.filter_eq_self.2 fun m hm => ?_, List.filter_eq_nil_iff.2 ?_,
      List.append_nil]
    · intro m hm
      simp [fst_of_mem_optionalMember hm]
    · simpa using Kind.fst_of_mem_members m hm
  have hsound : allMembersSound levels node.kind.members :=
    allMembersSound_of_exact _ _ (allMembersExact_iff.2 (Kind.exact_members hkind)) hmembers.1
  simp [ofJson?, hread, hothers, hsound, Kind.ofMembers?_members hkind]

/-- A top-level is written as an exact value. -/
theorem TopLevel.exact_toJson {top : TopLevel} (h : top.type.index < 0x100000000) :
    top.toJson.IsExact := by
  rw [toJson]
  exact exact_object (by simp [TypeRef.exact_toJson h])

/-- It is read back. -/
theorem TopLevel.ofJson?_toJson {top : TopLevel} (h : top.type.index < 0x100000000) :
    TopLevel.ofJson? top.toJson = some top := by
  simp [toJson, ofJson?, required?, uniqueMember?, text?, TypeRef.ofJson?_toJson h]

/-! ## Graphs -/

namespace TypeGraph

variable {g : TypeGraph}

/-- The references that the graph holds, in its types and in its top-levels. -/
def heldRefs (g : TypeGraph) : List TypeRef :=
  g.types.toList.flatMap Node.refs ++ g.topLevels.map TopLevel.type

/-- A graph whose references have 32 bits has such references in every type and top-level. -/
theorem addressable_heldRefs (h : Addressable g.heldRefs) :
    (∀ node ∈ g.types.toList, Addressable node.refs) ∧
      ∀ top ∈ g.topLevels, top.type.index < 0x100000000 := by
  obtain ⟨hnodes, htops⟩ := addressable_append.1 h
  exact ⟨fun node hnode r hr => hnodes r (List.mem_flatMap.2 ⟨node, hnode, hr⟩),
    fun top htop => htops top.type (List.mem_map_of_mem htop)⟩

/-- A graph with references of 32 bits is written as an exact value. -/
theorem exact_toJson (h : Addressable g.heldRefs) : g.toJson.IsExact := by
  obtain ⟨hnodes, htops⟩ := addressable_heldRefs h
  have htypes : (Json.list (g.types.toList.map Node.toJson)).IsExact :=
    exact_list (List.forall_mem_map.2 fun node hnode => Node.exact_toJson (hnodes node hnode))
  have htopLevels : (Json.list (g.topLevels.map TopLevel.toJson)).IsExact :=
    exact_list (List.forall_mem_map.2 fun top htop => TopLevel.exact_toJson (htops top htop))
  rw [toJson]
  exact exact_object (by simp [htypes, htopLevels])

/-- The types and top-levels are read back if the graph nests no deeper than the reader goes. -/
theorem parts?_toJson (hrefs : Addressable g.heldRefs) (hlevels : g.toJson.nesting ≤ nestingLimit) :
    parts? g.toJson = some (g.types.toList, g.topLevels) := by
  obtain ⟨hnodes, htops⟩ := addressable_heldRefs hrefs
  rw [toJson] at hlevels ⊢
  obtain ⟨levels, hlimit, hmembers⟩ := nesting_object_le hlevels
  obtain ⟨fewer, rfl, hitems⟩ := nesting_list_le
    (hmembers ("types", .list (g.types.toList.map Node.toJson)) (by simp))
  -- A type stands two levels inside the graph: in the object of the graph and in the list of types.
  obtain rfl : fewer = nestingLimit - 2 := by omega
  have htypes : (g.types.toList.map Node.toJson).mapM (Node.ofJson? (nestingLimit - 2)) =
      some g.types.toList :=
    mapM_map_eq_some fun node hnode =>
      Node.ofJson?_toJson (hnodes node hnode) (hitems _ (List.mem_map_of_mem hnode))
  have htopLevels : (g.topLevels.map TopLevel.toJson).mapM TopLevel.ofJson? = some g.topLevels :=
    mapM_map_eq_some fun top htop => TopLevel.ofJson?_toJson (htops top htop)
  simp [parts?, required?, uniqueMember?, listOf?, htypes, htopLevels]

/-- The text that is written for an accepted graph is read as the same graph, if its references have
32 bits and it nests fewer than 128 levels. -/
theorem read_write {types : Array Node} {topLevels : List TopLevel}
    (hmake : make types topLevels = .ok g) (hrefs : Addressable g.heldRefs)
    (hlevels : g.toJson.nesting < 128) : read g.write = .ok g := by
  rw [read, write, read?_pretty (exact_toJson hrefs)]
  dsimp only
  rw [ofJson, parts?_toJson hrefs (Nat.le_of_lt_succ hlevels)]
  exact make_of_make hmake

/-- The tree of records is written and read back. -/
theorem read_write_tree :
    make treeGraph.types treeGraph.topLevels = .ok treeGraph ∧ Addressable treeGraph.heldRefs ∧
      treeGraph.toJson.nesting < 128 ∧ read treeGraph.write = .ok treeGraph := by
  have hrefs : Addressable treeGraph.heldRefs := by decide
  have hlevels : treeGraph.toJson.nesting < 128 := by decide
  exact ⟨make_treeGraph, hrefs, hlevels, read_write make_treeGraph hrefs hlevels⟩

end TypeGraph

end TypedJson
