import TypedJson.Code.Names
import TypedJson.Proofs.Graph.Acceptance
import TypedJson.Proofs.Naming.Legality
import TypedJson.Proofs.Script.Printing

/-!
# The names of a module

Names are assigned by answering requests: those of types and of the functions of top-levels in one
scope, those of properties and cases in one scope for each record and each enumeration. So every
record, enumeration, property, case and top-level has a name (`NameTable.complete_assign`), and
what the runs of a scope keep apart stays apart in the table (`NameTable.scoped_assign`). The names
can also be read back as one word each, which `NameTable.apart_assign` adds.
-/

namespace TypedJson.Code

open Naming Script

/-! ## Requests -/

/-- The types of a list that have a label, each with its label. -/
def labeled (graph : TypeGraph) (ts : List TypeRef) : List (TypeRef × String) :=
  ts.filterMap fun t => ((graph.kind? t).bind Kind.label?).map fun label => (t, label)

/-- The requests for the names of types. -/
def typeRequests (g : Grammar) (graph : TypeGraph) (ts : List TypeRef) : List Request :=
  (labeled graph ts).map fun entry => ⟨entry.2, .typeName, g⟩

/-- Types are named by answering their requests. -/
theorem nameTypes_eq (g : Grammar) (graph : TypeGraph) (ns : Namespace) (ts : List TypeRef) :
    NameTable.nameTypes g graph ns ts =
      (((labeled graph ts).map Prod.fst).zip (ns.run (typeRequests g graph ts)).1,
        (ns.run (typeRequests g graph ts)).2) := by
  induction ts generalizing ns with
  | nil => rfl
  | cons t rest ih =>
      unfold NameTable.nameTypes typeRequests labeled
      rw [List.filterMap_cons]
      cases (graph.kind? t).bind Kind.label? with
      | none => exact ih ns
      | some label =>
          show (((t, _) :: (NameTable.nameTypes g graph _ rest).1), _) = _
          rw [ih]
          rfl

/-- The requests for the names of the functions of top-levels. -/
def functionRequests (g : Grammar) (tops : List TopLevel) : List Request :=
  tops.flatMap fun top =>
    [⟨top.name ++ "_from_dict", .function, g⟩, ⟨top.name ++ "_to_dict", .function, g⟩]

/-- The names of the functions of top-levels, in order. -/
def TopLevelNames.flatten (pairs : List TopLevelNames) : List String :=
  pairs.flatMap fun pair => [pair.fromDict, pair.toDict]

/-- Top-levels are named by answering their requests. -/
theorem nameTopLevels_eq (g : Grammar) (ns : Namespace) (tops : List TopLevel) :
    (TopLevelNames.flatten (NameTable.nameTopLevels g ns tops).1,
      (NameTable.nameTopLevels g ns tops).2) = ns.run (functionRequests g tops) := by
  induction tops generalizing ns with
  | nil => rfl
  | cons top rest ih =>
      have hrest := Prod.mk.inj (ih (ns.run [⟨top.name ++ "_from_dict", .function, g⟩,
        ⟨top.name ++ "_to_dict", .function, g⟩]).2)
      have hrequests : functionRequests g (top :: rest) =
          [⟨top.name ++ "_from_dict", .function, g⟩, ⟨top.name ++ "_to_dict", .function, g⟩] ++
            functionRequests g rest := List.flatMap_cons
      rw [hrequests, Namespace.run_append, ← hrest.1, ← hrest.2]
      rfl

/-- Every top-level is named. -/
theorem length_nameTopLevels (g : Grammar) (ns : Namespace) (tops : List TopLevel) :
    (NameTable.nameTopLevels g ns tops).1.length = tops.length := by
  induction tops generalizing ns with
  | nil => rfl
  | cons top rest ih => exact congrArg (· + 1) (ih _)

/-- The labels of a list are named by answering their requests. -/
theorem assignAll_eq (g : Grammar) (role : Role) (ns : Namespace) (labels : List String) :
    ns.assignAll g role labels = ns.run (labels.map fun label => ⟨label, role, g⟩) := by
  induction labels generalizing ns with
  | nil => rfl
  | cons label rest ih =>
      show ((_ :: (Namespace.assignAll _ g role rest).1), (Namespace.assignAll _ g role rest).2) = _
      rw [ih]
      rfl

/-- The requests in the scope of a module. -/
def moduleRequests (g : Grammar) (graph : TypeGraph) : List Request :=
  typeRequests g graph graph.namedTypes ++ functionRequests g graph.topLevels

/-- The answers to the requests in the scope of a module, and that scope. -/
def moduleRun (graph : TypeGraph) (o : Options) : List String × Namespace :=
  (Namespace.ofForbidden "global" globalForbidden).run (moduleRequests o.features.grammar graph)

namespace NameTable

variable (graph : TypeGraph) (o : Options)

/-- The names in the scope of the module: those of types and those of functions. -/
def moduleNames (names : NameTable) : List String :=
  names.types.map Prod.snd ++ TopLevelNames.flatten names.topLevels

/-- Types are named by the first answers in the scope of the module. -/
theorem types_assign : (assign graph o).types =
    ((labeled graph graph.namedTypes).map Prod.fst).zip
      ((Namespace.ofForbidden "global" globalForbidden).run
        (typeRequests o.features.grammar graph graph.namedTypes)).1 := by
  unfold assign
  simp only [nameTypes_eq]

/-- Every type with a label is named. -/
theorem keys_types_assign :
    (assign graph o).types.map Prod.fst = (labeled graph graph.namedTypes).map Prod.fst := by
  rw [types_assign, List.map_fst_zip]
  rw [Namespace.length_run, typeRequests, List.length_map, List.length_map]

/-- The names in the scope of the module are the answers to its requests. -/
theorem moduleNames_assign : (assign graph o).moduleNames = (moduleRun graph o).1 := by
  have hfunctions (ns : Namespace) := (Prod.mk.inj (nameTopLevels_eq o.features.grammar ns graph.topLevels)).1
  unfold moduleNames moduleRun moduleRequests
  rw [types_assign, List.map_snd_zip, Namespace.run_append]
  · unfold assign
    simp only [nameTypes_eq, hfunctions]
  · rw [Namespace.length_run, typeRequests, List.length_map, List.length_map]

/-- The properties of every record are named apart from the names of the module. -/
theorem properties_assign : (assign graph o).properties = graph.records.filterMap fun t =>
    (graph.record? t).map fun r => (t, nameProperties o (moduleRun graph o).2.bound r) := by
  have hscope (ns : Namespace) := (Prod.mk.inj (nameTopLevels_eq o.features.grammar ns graph.topLevels)).2
  unfold moduleRun moduleRequests
  rw [Namespace.run_append]
  unfold assign
  simp only [nameTypes_eq, hscope]

/-- The names bound in the scope of the module are those in the table. -/
theorem mem_bound_moduleRun {name : String} :
    name ∈ (moduleRun graph o).2.bound ↔ name ∈ (assign graph o).moduleNames := by
  rw [moduleNames_assign, moduleRun, Namespace.mem_run_bound]
  exact or_iff_right List.not_mem_nil

end NameTable

/-! ## Complete tables -/

/-- Every record, enumeration, property, case and top-level of the graph has a name. -/
structure NameTable.Complete (names : NameTable) (graph : TypeGraph) : Prop where
  record {t : TypeRef} {r : Record} : graph.record? t = some r → ∃ name, names.typeName t = .ok name
  enumeration {t : TypeRef} {e : Enumeration} : graph.enumeration? t = some e →
    ∃ name, names.typeName t = .ok name
  property {t : TypeRef} {r : Record} {i : Nat} : graph.record? t = some r →
    i < r.properties.length → ∃ name, names.propertyName t i = .ok name
  enumCase {t : TypeRef} {e : Enumeration} {i : Nat} : graph.enumeration? t = some e →
    i < e.cases.length → ∃ name, names.caseName t i = .ok name
  topLevel {i : Nat} : i < graph.topLevels.length → ∃ pair, names.functionNames i = .ok pair

/-- What a table of some types keeps of each can be looked up. -/
theorem lookup_filterMap {β : Type} {f : TypeRef → Option β} {ts : List TypeRef} {t : TypeRef}
    {b : β} (hmem : t ∈ ts) (hb : f t = some b) :
    (ts.filterMap fun t => (f t).map fun b => (t, b)).lookup t = some b := by
  induction ts with
  | nil => cases hmem
  | cons first ts ih =>
      by_cases heq : t = first
      · subst heq
        rw [List.filterMap_cons, hb]
        exact List.lookup_cons_self
      · have hrest := ih ((List.mem_cons.1 hmem).resolve_left heq)
        rw [List.filterMap_cons]
        cases f first with
        | none => exact hrest
        | some other =>
            have hne : (t == first) = false := beq_eq_false_iff_ne.2 heq
            show List.lookup t ((first, other) :: _) = _
            rw [List.lookup_cons, hne]
            exact hrest

namespace NameTable

variable {graph : TypeGraph}

/-- A type with a label has a name. -/
theorem exists_typeName (o : Options) {t : TypeRef} {k : Kind} {label : String}
    (hk : graph.kind? t = some k) (hnamed : k.isRecord || k.isEnumeration)
    (hlabel : k.label? = some label) : ∃ name, (assign graph o).typeName t = .ok name := by
  have hentry : (t, label) ∈ labeled graph graph.namedTypes := by
    refine List.mem_filterMap.2 ⟨t, TypeGraph.mem_filter_refs hk hnamed, ?_⟩
    rw [hk, Option.bind_some, hlabel]
    rfl
  have hkey : t ∈ (assign graph o).types.map Prod.fst :=
    keys_types_assign graph o ▸ List.mem_map_of_mem hentry
  obtain ⟨entry, hmem, rfl⟩ := List.mem_map.1 hkey
  have hsome : ((assign graph o).types.lookup entry.1).isSome :=
    List.lookup_isSome_iff.2 ⟨entry, hmem, beq_self_eq_true _⟩
  obtain ⟨name, hname⟩ := Option.isSome_iff_exists.1 hsome
  exact ⟨name, by rw [typeName, hname]⟩

/-- The properties of every record are looked up in order. -/
theorem lookup_properties_assign (o : Options) {t : TypeRef} {r : Record}
    (hr : graph.record? t = some r) : (assign graph o).properties.lookup t =
      some (nameProperties o (moduleRun graph o).2.bound r) := by
  rw [properties_assign]
  have hfilter : (graph.records.filterMap fun t =>
      (graph.record? t).map fun r => (t, nameProperties o (moduleRun graph o).2.bound r)) =
      graph.records.filterMap fun t =>
        ((graph.record? t).map (nameProperties o (moduleRun graph o).2.bound)).map fun ps => (t, ps) :=
    List.filterMap_congr fun t _ => (Option.map_map _ _ _).symm
  rw [hfilter]
  exact lookup_filterMap (TypeGraph.mem_records.2 ⟨r, hr⟩) (by rw [hr]; rfl)

/-- The cases of every enumeration are looked up in order. -/
theorem lookup_cases_assign (o : Options) {t : TypeRef} {e : Enumeration}
    (he : graph.enumeration? t = some e) :
    (assign graph o).cases.lookup t = some (nameCases o e) := by
  have hcases : (assign graph o).cases = graph.enumerations.filterMap fun t =>
      ((graph.enumeration? t).map (nameCases o)).map fun cs => (t, cs) :=
    List.filterMap_congr fun t _ => (Option.map_map _ _ _).symm
  rw [hcases]
  exact lookup_filterMap (TypeGraph.mem_enumerations.2 ⟨e, he⟩) (by rw [he]; rfl)

/-- The properties of a record are named by answering their requests. -/
theorem nameProperties_eq (o : Options) (moduleNames : List String) (r : Record) :
    nameProperties o moduleNames r = ((Namespace.ofForbidden r.name (keywords ++ globalNames ++
      classLocals ++ Converter.all.map Converter.name ++ moduleNames)).run
        ((r.properties.map Property.name).map fun label =>
          ⟨label, .property o.niceNames, o.features.grammar⟩)).1 := by
  unfold nameProperties
  simp only [assignAll_eq]

/-- The cases of an enumeration are named by answering their requests. -/
theorem nameCases_eq (o : Options) (e : Enumeration) :
    nameCases o e = ((Namespace.ofForbidden e.name keywords).run
      (e.cases.map fun label => ⟨label, .enumCase, o.features.grammar⟩)).1 := by
  unfold nameCases
  rw [assignAll_eq]

/-- Every property of a record is named. -/
theorem length_nameProperties (o : Options) (moduleNames : List String) (r : Record) :
    (nameProperties o moduleNames r).length = r.properties.length := by
  rw [nameProperties_eq, Namespace.length_run, List.length_map, List.length_map]

/-- Every case of an enumeration is named. -/
theorem length_nameCases (o : Options) (e : Enumeration) :
    (nameCases o e).length = e.cases.length := by
  rw [nameCases_eq, Namespace.length_run, List.length_map]

/-- An assignment leaves nothing without a name. -/
theorem complete_assign (graph : TypeGraph) (o : Options) : (assign graph o).Complete graph := by
  refine ⟨fun {t r} hr => ?_, fun {t e} he => ?_, fun {t r i} hr hi => ?_, fun {t e i} he hi => ?_,
    fun {i} hi => ?_⟩
  · exact exists_typeName o (TypeGraph.record?_eq_some.1 hr) rfl rfl
  · exact exists_typeName o (TypeGraph.enumeration?_eq_some.1 he) rfl rfl
  · rw [← length_nameProperties o (moduleRun graph o).2.bound] at hi
    exact ⟨_, by rw [propertyName, lookup_properties_assign o hr, Option.bind_some,
      List.getElem?_eq_getElem hi]⟩
  · rw [← length_nameCases o] at hi
    exact ⟨_, by rw [caseName, lookup_cases_assign o he, Option.bind_some,
      List.getElem?_eq_getElem hi]⟩
  · have hlength : (assign graph o).topLevels.length = graph.topLevels.length :=
      length_nameTopLevels _ _ _
    rw [← hlength] at hi
    exact ⟨_, by rw [functionNames, List.getElem?_eq_getElem hi]⟩

end NameTable

/-! ## Scopes -/

/-- The names of each scope are distinct and none is a word that the scope forbids. The words that
a module forbids are forbidden for properties too, and so are the names of the module. -/
structure NameTable.Scoped (names : NameTable) : Prop where
  moduleNodup : names.moduleNames.Nodup
  moduleFree {name : String} : name ∈ names.moduleNames →
    name ∉ keywords ∧ name ∉ globalNames ∧ name ∉ Converter.all.map Converter.name
  propertyNodup {t : TypeRef} {ps : List String} : names.properties.lookup t = some ps → ps.Nodup
  propertyFree {t : TypeRef} {ps : List String} {name : String} :
    names.properties.lookup t = some ps → name ∈ ps →
      (name ∉ keywords ∧ name ∉ globalNames ∧ name ∉ Converter.all.map Converter.name) ∧
        name ∉ classLocals ∧ name ∉ names.moduleNames
  caseNodup {t : TypeRef} {cs : List String} : names.cases.lookup t = some cs → cs.Nodup
  caseFree {t : TypeRef} {cs : List String} {name : String} :
    names.cases.lookup t = some cs → name ∈ cs → name ∉ keywords

/-- The words that a module forbids come from three lists. -/
theorem not_mem_globalForbidden {name : String} : name ∉ globalForbidden ↔
    name ∉ keywords ∧ name ∉ globalNames ∧ name ∉ Converter.all.map Converter.name := by
  unfold globalForbidden
  simp only [List.mem_append, not_or, and_assoc]

namespace NameTable

variable {graph : TypeGraph} {o : Options}

/-- A name of the module is none of the words that it forbids. -/
theorem not_mem_globalForbidden_of_module {name : String}
    (h : name ∈ (assign graph o).moduleNames) : name ∉ globalForbidden := by
  rw [moduleNames_assign] at h
  exact fun hforbidden => Namespace.run_disjoint _ _ h (List.mem_append_left _ hforbidden)

/-- The properties that are looked up are those that were named for a record. -/
theorem exists_of_lookup_properties {t : TypeRef} {ps : List String}
    (h : (assign graph o).properties.lookup t = some ps) :
    ∃ r, ps = nameProperties o (moduleRun graph o).2.bound r := by
  rw [properties_assign] at h
  obtain ⟨t', -, ht'⟩ := List.mem_filterMap.1 (Ordered.mem_of_lookup h)
  obtain ⟨r, -, hr⟩ := Option.map_eq_some_iff.1 ht'
  exact ⟨r, (Prod.mk.inj hr).2.symm⟩

/-- The properties of a record are given names that its scope allows. -/
theorem mem_nameProperties {moduleNames : List String} {r : Record} {name : String}
    (h : name ∈ nameProperties o moduleNames r) :
    name ∉ globalForbidden ∧ name ∉ classLocals ∧ name ∉ moduleNames := by
  rw [nameProperties_eq] at h
  have hallowed : ¬ _ := Namespace.run_disjoint _ _ h
  simp only [Namespace.ofForbidden, List.append_nil, List.mem_append, not_or] at hallowed
  obtain ⟨⟨⟨⟨hkeyword, hglobal⟩, hlocal⟩, hconverter⟩, hmodule⟩ := hallowed
  exact ⟨not_mem_globalForbidden.2 ⟨hkeyword, hglobal, hconverter⟩, hlocal, hmodule⟩

/-- The cases that are looked up are those that were named for an enumeration. -/
theorem exists_of_lookup_cases {t : TypeRef} {cs : List String}
    (h : (assign graph o).cases.lookup t = some cs) : ∃ e, cs = nameCases o e := by
  obtain ⟨t', -, ht'⟩ := List.mem_filterMap.1 (Ordered.mem_of_lookup h)
  obtain ⟨e, -, he⟩ := Option.map_eq_some_iff.1 ht'
  exact ⟨e, (Prod.mk.inj he).2.symm⟩

/-- An assignment keeps the names of each scope apart. -/
theorem scoped_assign (graph : TypeGraph) (o : Options) : (assign graph o).Scoped := by
  refine ⟨?_, fun {name} h => ?_, fun {t ps} h => ?_, fun {t ps name} h hname => ?_,
    fun {t cs} h => ?_, fun {t cs name} h hname => ?_⟩
  · rw [moduleNames_assign]
    exact Namespace.run_nodup _ _
  · exact not_mem_globalForbidden.1 (not_mem_globalForbidden_of_module h)
  · obtain ⟨r, rfl⟩ := exists_of_lookup_properties h
    rw [nameProperties_eq]
    exact Namespace.run_nodup _ _
  · obtain ⟨r, rfl⟩ := exists_of_lookup_properties h
    obtain ⟨hfree, hlocal, hmodule⟩ := mem_nameProperties hname
    exact ⟨not_mem_globalForbidden.1 hfree, hlocal,
      fun hmem => hmodule ((mem_bound_moduleRun graph o).2 hmem)⟩
  · obtain ⟨e, rfl⟩ := exists_of_lookup_cases h
    rw [nameCases_eq]
    exact Namespace.run_nodup _ _
  · obtain ⟨e, rfl⟩ := exists_of_lookup_cases h
    rw [nameCases_eq] at hname
    exact fun hkeyword => Namespace.run_disjoint _ _ hname (List.mem_append_left _ hkeyword)

end NameTable

/-- An assignment names every record, enumeration, property, case and top-level of the graph, and
keeps the names of each scope apart. -/
theorem NameTable.assign_complete_and_scoped (graph : TypeGraph) (o : Options) :
    (assign graph o).Complete graph ∧ (assign graph o).Scoped :=
  ⟨complete_assign graph o, scoped_assign graph o⟩

/-! ## Readable names -/

/-- The names of types and properties can be read, and each stands for one thing only. -/
structure NameTable.Apart (names : NameTable) : Prop where
  type {t : TypeRef} {name : String} : names.types.lookup t = some name →
    IsName name ∧ name ∉ globalForbidden ∧ StartsLarge name.toList
  typeOnce {t t' : TypeRef} {name : String} : names.types.lookup t = some name →
    names.types.lookup t' = some name → t = t'
  properties {t : TypeRef} {ps : List String} : names.properties.lookup t = some ps →
    ps.Nodup ∧ ∀ name ∈ ps, IsName name ∧ name ∉ globalForbidden ∧ name ∉ classLocals ∧
      ∀ t', names.types.lookup t' ≠ some name

/-- A part of an identifier belongs to a word. -/
theorem isWordChar_of_isPart {g : Grammar} {c : Char} (h : g.isPart c) : isWordChar c := by
  unfold isWordChar
  by_cases hc : c.toNat < 0x80
  · have hpart : c.isAlphanum || c == '_' := by
      cases g with
      | ascii => exact h
      | unicode => rwa [Grammar.isPart, Text.isIdentifierContinue, if_pos hc] at h
    rw [hpart, Bool.true_or]
  · rw [decide_eq_true (Nat.le_of_not_lt hc), Bool.or_true]

/-- No digit starts an identifier. -/
theorem isDigit_of_isStart {g : Grammar} {c : Char} (h : g.isStart c) : c.isDigit = false := by
  by_cases hc : c.toNat < 0x80
  · exact Text.ascii_all (p := fun c => g.isStart c → c.isDigit = false)
      (by cases g <;> decide) hc h
  · rw [Bool.eq_false_iff]
    intro hdigit
    have hle : c.toNat ≤ 57 := (Char.isDigit_iff_toNat.1 hdigit).2
    omega

/-- An identifier that is no word of the language is a name. -/
theorem isName_of_isIdentifier {g : Grammar} {w : String} (h : g.IsIdentifier w.toList)
    (hw : w ∉ keywords) : IsName w := by
  obtain ⟨hadmits, c, rest, hstart, hlegal⟩ := h
  refine ⟨fun c hc => isWordChar_of_isPart (hadmits c hc),
    ⟨c, rest, hstart, isDigit_of_isStart hlegal⟩, ?_⟩
  rw [Bool.eq_false_iff]
  intro hreserved
  have hkeyword : ∀ word ∈ reserved, keywords.contains word := List.all_eq_true.1 rfl
  have hmem := hkeyword w (List.contains_iff_mem.1 hreserved)
  exact hw (List.contains_iff_mem.1 hmem)

/-- The names of types are identifiers that start with no small letter. -/
theorem mem_types_assign {graph : TypeGraph} {o : Options} {t : TypeRef} {name : String}
    (h : (t, name) ∈ (NameTable.assign graph o).types) :
    o.features.grammar.IsIdentifier name.toList ∧ StartsLarge name.toList := by
  rw [NameTable.types_assign] at h
  refine Namespace.forall_run (p := fun name => o.features.grammar.IsIdentifier name.toList ∧
    StartsLarge name.toList) ?_ _ name (List.of_mem_zip h).2
  intro r hr ns w hw
  obtain ⟨entry, -, rfl⟩ := List.mem_map.1 hr
  exact ⟨hw.isIdentifier, hw.startsLarge rfl⟩

/-- The names of properties are identifiers. -/
theorem isIdentifier_nameProperties {o : Options} {moduleNames : List String} {r : Record}
    {name : String} (h : name ∈ NameTable.nameProperties o moduleNames r) :
    o.features.grammar.IsIdentifier name.toList := by
  rw [NameTable.nameProperties_eq] at h
  refine Namespace.forall_run (p := fun name => o.features.grammar.IsIdentifier name.toList) ?_ _
    name h
  intro request hrequest ns w hw
  obtain ⟨label, -, rfl⟩ := List.mem_map.1 hrequest
  exact hw.isIdentifier

/-- The names of a module can be read, and each stands for one thing only. -/
theorem NameTable.apart_assign (graph : TypeGraph) (o : Options) : (assign graph o).Apart := by
  have hscoped := scoped_assign graph o
  have hnodup : ((assign graph o).types.map Prod.snd).Nodup :=
    (List.nodup_append.1 hscoped.moduleNodup).1
  have hmodule {t : TypeRef} {name : String} (h : (assign graph o).types.lookup t = some name) :
      name ∈ (assign graph o).moduleNames :=
    List.mem_append_left _ (List.mem_map_of_mem (f := Prod.snd) (Ordered.mem_of_lookup h))
  refine ⟨fun {t name} h => ?_, fun {t t' name} h h' => ?_, fun {t ps} h => ?_⟩
  · obtain ⟨hidentifier, hlarge⟩ := mem_types_assign (Ordered.mem_of_lookup h)
    have hfree := not_mem_globalForbidden_of_module (hmodule h)
    have hname := isName_of_isIdentifier hidentifier (not_mem_globalForbidden.1 hfree).1
    exact ⟨hname, hfree, hlarge⟩
  · exact congrArg Prod.fst (List.inj_on_of_nodup_map hnodup (Ordered.mem_of_lookup h)
      (Ordered.mem_of_lookup h') rfl)
  · refine ⟨hscoped.propertyNodup h, fun name hname => ?_⟩
    obtain ⟨hwords, hlocal, hapart⟩ := hscoped.propertyFree h hname
    have hfree := not_mem_globalForbidden.2 hwords
    obtain ⟨r, rfl⟩ := exists_of_lookup_properties h
    exact ⟨isName_of_isIdentifier (isIdentifier_nameProperties hname) hwords.1, hfree, hlocal,
      fun t' ht' => hapart (hmodule ht')⟩

end TypedJson.Code
