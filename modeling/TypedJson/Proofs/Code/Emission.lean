import TypedJson.Proofs.Code.Assignment
import TypedJson.Proofs.Code.Yields
import TypedJson.Proofs.Graph.Acceptance
import TypedJson.Proofs.Script.Behavior

/-!
# The definitions of a module

A module emits the support functions, a class for each record with the conversions between its
objects and dicts, and a class for each enumeration. `Context.Emits` says that a program consists of
these, and `exists_emits` that every rendered module has one. In such a program each name stands for
one thing, whatever its user has named the types and properties.
-/

namespace TypedJson.Code

open Naming Script

variable {ctx : Context} {P : Program}

/-! ## Emitted programs -/

/-- The class that is emitted for a record, somewhere behind the classes of others. -/
inductive Context.EmitsRecord (ctx : Context) (t : TypeRef) : RecordClass → Prop
  | intro {r : Record} {declared : List TypeRef} {name : String} {fields : List Field}
      {conversions : List Step} (hrecord : ctx.graph.record? t = some r)
      (hname : ctx.names.types.lookup t = some name)
      (hfields : (ctx.fields declared t r).Yields fields)
      (hconversions : (ctx.classConversions declared t name fields).Yields conversions) :
      EmitsRecord ctx t
        ⟨name, r.name, fields.map fun f => (f.name, f.key), linesOf conversions⟩

/-- The class has the name of the record. -/
theorem Context.EmitsRecord.name {t : TypeRef} {c : RecordClass} (h : ctx.EmitsRecord t c) :
    ctx.names.types.lookup t = some c.name := by
  cases h with
  | intro _ hname => exact hname

/-- The class that is emitted for an enumeration. -/
inductive Context.EmitsEnumeration (ctx : Context) (t : TypeRef) : EnumClass → Prop
  | intro {e : Enumeration} {name : String} (henumeration : ctx.graph.enumeration? t = some e)
      (hname : ctx.names.types.lookup t = some name) : EmitsEnumeration ctx t ⟨name, e⟩

/-- The program consists of what is emitted in a context: the support functions as their lines are
read, and the classes of all records and enumerations. -/
structure Context.Emits (ctx : Context) (P : Program) : Prop where
  functions : List.Forall₂
    (fun c d => Definition.find? c.name (linesOf (c.definition ctx.features)) = some d)
    Converter.all P.functions
  records : List.Forall₂ ctx.EmitsRecord ctx.graph.records P.records
  enumerations : List.Forall₂ ctx.EmitsEnumeration ctx.graph.enumerations P.enumerations

/-- The classes of records are emitted one by one. -/
theorem emits_classes {o : Options} (ho : o.justTypes = false) {declared ts : List TypeRef}
    {steps : List Step} (hts : ∀ t ∈ ts, ∃ r, ctx.graph.record? t = some r)
    (h : (ctx.classes o declared ts).Yields steps) :
    ∃ cs, List.Forall₂ ctx.EmitsRecord ts cs := by
  induction ts generalizing declared steps with
  | nil => exact ⟨[], .nil⟩
  | cons t rest ih =>
      rw [List.forall_mem_cons] at hts
      obtain ⟨⟨r, hr⟩, hrest⟩ := hts
      rw [Context.classes, hr] at h
      obtain ⟨first, hfirst, h⟩ := Gen.Yields.bind h
      obtain ⟨others, hothers, -⟩ := Gen.Yields.bind h
      obtain ⟨cs, hcs⟩ := ih hrest hothers
      obtain ⟨name, hname, hfirst⟩ := hfirst.bind
      obtain ⟨fields, hfields, hfirst⟩ := hfirst.bind
      have hfirst := Gen.Yields.when hfirst
      rw [ho] at hfirst
      obtain ⟨conversions, hconversions, -⟩ := Gen.Yields.bind hfirst
      exact ⟨_, .cons (.intro hr (Context.typeName_of_yields hname) hfields hconversions) hcs⟩

/-- The classes of enumerations are emitted one by one. -/
theorem emits_enumerations {ts : List TypeRef} {steps : List (List Step)}
    (hts : ∀ t ∈ ts, ∃ e, ctx.graph.enumeration? t = some e)
    (h : List.Forall₂ (fun t part => ∀ e, ctx.graph.enumeration? t = some e →
      (ctx.enumerationClass t e).Yields part) ts steps) :
    ∃ cs, List.Forall₂ ctx.EmitsEnumeration ts cs := by
  induction h with
  | nil => exact ⟨[], .nil⟩
  | cons hhead _ ih =>
      rw [List.forall_mem_cons] at hts
      obtain ⟨⟨e, he⟩, hrest⟩ := hts
      obtain ⟨name, hname, -⟩ := (hhead e he).bind
      obtain ⟨cs, hcs⟩ := ih hrest
      exact ⟨_, .cons (.intro he (Context.typeName_of_yields hname)) hcs⟩

/-- The support functions are read as their definitions. -/
theorem read_functions (f : Features) :
    List.Forall₂ (fun c d => Definition.find? c.name (linesOf (c.definition f)) = some d)
      Converter.all (Converter.all.map (supportDefinition f)) := by
  rw [List.forall₂_map_right_iff, List.forall₂_same]
  exact fun c _ => find?_definition f c

/-- The steps of a module emit its definitions. -/
theorem exists_emits_of_steps {o : Options} {steps : List Step} (ho : o.justTypes = false)
    (h : (ctx.moduleSteps o).Yields steps) (written : Value → String) :
    ∃ P : Program, P.written = written ∧ ctx.Emits P := by
  obtain ⟨parts, hparts, h⟩ := h.bind
  obtain ⟨_, hclasses, -⟩ := h.bind
  obtain ⟨records, hrecords⟩ := emits_classes ho (fun t => TypeGraph.mem_records.1) hclasses
  obtain ⟨enumerations, henumerations⟩ := emits_enumerations (fun t => TypeGraph.mem_enumerations.1)
    (hparts.mapM.imp fun t part hpart e he => by rwa [he] at hpart)
  exact ⟨⟨_, records, enumerations, written⟩, rfl, read_functions _, hrecords, henumerations⟩

/-- Every rendered module consists of emitted definitions. -/
theorem exists_emits {graph : TypeGraph} {o : Options} {text : String} (ho : o.justTypes = false)
    (h : renderModule graph o = .ok text) (written : Value → String) :
    ∃ P : Program, P.written = written ∧
      Context.Emits ⟨graph, NameTable.assign graph o, o.features⟩ P := by
  unfold renderModule renderNamed at h
  dsimp only at h
  split at h
  next steps required hrun => exact exists_emits_of_steps ho ⟨_, _, hrun⟩ written
  next => cases h

/-! ## Names of the module -/

/-- Nothing of another name is found by a name. -/
theorem find?_eq_none_of_ne {α : Type} {nameOf : α → String} {items : List α} {name : String}
    (h : ∀ a ∈ items, nameOf a ≠ name) : items.find? (nameOf · == name) = none := by
  rw [List.find?_eq_none]
  intro a ha heq
  exact h a ha (eq_of_beq heq)

/-- Something of a name is found by it. -/
theorem find?_eq_some_of_mem {α : Type} {f : α → String} {items : List α} {a : α}
    (h : a ∈ items) : ∃ b ∈ items, items.find? (f · == f a) = some b ∧
      f b = f a := by
  obtain ⟨b, hb⟩ : ∃ b, items.find? (f · == f a) = some b := by
    rw [← Option.isSome_iff_exists, List.find?_isSome]
    exact ⟨a, h, beq_self_eq_true _⟩
  have hname := List.find?_some hb
  exact ⟨b, List.mem_of_find?_eq_some hb, hb, eq_of_beq hname⟩

/-- A name of the language is spoken for. -/
theorem mem_globalForbidden_of_language {name : String}
    (h : (Builtin.ofName? name).isSome ∨ (constant? name).isSome) : name ∈ globalForbidden := by
  rcases h with h | h
  · unfold Builtin.ofName? at h
    split at h
    all_goals first | (cases h; done) | exact List.contains_iff_mem.1 rfl
  · unfold constant? at h
    split at h
    all_goals first | (cases h; done) | exact List.contains_iff_mem.1 rfl

/-- A name of the language is that of no support function. -/
theorem language_ne_converter {name : String}
    (h : (Builtin.ofName? name).isSome ∨ (constant? name).isSome) (c : Converter) :
    c.name ≠ name := by
  rintro rfl
  rcases h with h | h <;> cases c <;> cases h

namespace Context.Emits

variable (hP : ctx.Emits P)

include hP

/-- The functions of an emitted program are the support functions. -/
theorem functions_eq : P.functions = Converter.all.map (supportDefinition ctx.features) := by
  have hall := hP.functions
  generalize P.functions = ds, Converter.all = cs at hall ⊢
  induction hall with
  | nil => rfl
  | cons hhead _ ih =>
      rw [find?_definition] at hhead
      rw [List.map_cons, ← ih, Option.some.inj hhead]

/-- A function of an emitted program has the name of a support function. -/
theorem functions_find? {name : String} (h : ∀ c : Converter, c.name ≠ name) :
    P.functions.find? (·.name == name) = none := by
  refine find?_eq_none_of_ne fun d hd => ?_
  rw [hP.functions_eq] at hd
  obtain ⟨c, -, rfl⟩ := List.mem_map.1 hd
  have hc := h c
  cases c <;> exact hc

/-- A class of a record has the name of a record. -/
theorem name_of_record {c : RecordClass} (hc : c ∈ P.records) :
    ∃ t, ctx.names.types.lookup t = some c.name ∧ ctx.EmitsRecord t c := by
  obtain ⟨t, -, ht⟩ := exists_of_forall₂ hP.records hc
  exact ⟨t, ht.name, ht⟩

/-- A class of an enumeration has the name of an enumeration. -/
theorem name_of_enumeration {c : EnumClass} (hc : c ∈ P.enumerations) :
    ∃ t, ctx.names.types.lookup t = some c.name ∧ ctx.EmitsEnumeration t c := by
  obtain ⟨t, -, ht⟩ := exists_of_forall₂ hP.enumerations hc
  refine ⟨t, ?_, ht⟩
  cases ht with
  | intro _ hname => exact hname

/-- A name that no type has is no name of a class. -/
theorem classes_find? {name : String} (h : ∀ t, ctx.names.types.lookup t ≠ some name) :
    P.records.find? (·.name == name) = none ∧ P.enumerations.find? (·.name == name) = none := by
  constructor
  · refine find?_eq_none_of_ne fun c hc => ?_
    rintro rfl
    obtain ⟨t, ht, -⟩ := hP.name_of_record hc
    exact h t ht
  · refine find?_eq_none_of_ne fun c hc => ?_
    rintro rfl
    obtain ⟨t, ht, -⟩ := hP.name_of_enumeration hc
    exact h t ht

/-- A name that is neither spoken for nor that of a type stands for nothing. -/
theorem global?_eq_none {name : String} (hfree : name ∉ globalForbidden)
    (h : ∀ t, ctx.names.types.lookup t ≠ some name) : P.global? name = none := by
  have hfunctions : P.functions.find? (·.name == name) = none := hP.functions_find? fun c hc =>
    hfree (List.mem_append_right _ (hc ▸ List.mem_map_of_mem (by cases c <;> decide)))
  obtain ⟨hrecords, henumerations⟩ := hP.classes_find? h
  have hlanguage : Builtin.ofName? name = none ∧ constant? name = none := by
    constructor
    · exact Option.not_isSome_iff_eq_none.1 fun h =>
        hfree (mem_globalForbidden_of_language (.inl h))
    · exact Option.not_isSome_iff_eq_none.1 fun h =>
        hfree (mem_globalForbidden_of_language (.inr h))
  rw [Program.global?, hfunctions, hrecords, henumerations, hlanguage.1, hlanguage.2]
  rfl

variable (hnames : ctx.names.Apart)

include hnames

/-- The names of the language and of the support functions stand for what they are. -/
theorem supports : P.Supports ctx.features := by
  have htypes {name : String} (hname : name ∈ globalForbidden) (t : TypeRef) :
      ctx.names.types.lookup t ≠ some name :=
    fun ht => (hnames.type ht).2.1 hname
  refine ⟨fun c => ?_, fun {name b} h => ?_, fun {name v} h => ?_⟩
  · have hfind : (Converter.all.map (supportDefinition ctx.features)).find? (·.name == c.name) =
        some (supportDefinition ctx.features c) := by
      cases c <;> rfl
    rw [Program.global?, hP.functions_eq, hfind]
    rfl
  -- No class has the name of a builtin, since these names are not given to types.
  · have hsome : (Builtin.ofName? name).isSome ∨ (constant? name).isSome := .inl (by rw [h]; rfl)
    have hconstant : constant? name = none := by
      unfold Builtin.ofName? at h
      split at h
      all_goals first | (cases h; done) | rfl
    obtain ⟨hrecords, henumerations⟩ :=
      hP.classes_find? (htypes (mem_globalForbidden_of_language hsome))
    rw [Program.global?, hP.functions_find? (language_ne_converter hsome), hrecords,
      henumerations, hconstant, h]
    rfl
  · have hsome : (Builtin.ofName? name).isSome ∨ (constant? name).isSome := .inr (by rw [h]; rfl)
    obtain ⟨hrecords, henumerations⟩ :=
      hP.classes_find? (htypes (mem_globalForbidden_of_language hsome))
    rw [Program.global?, hP.functions_find? (language_ne_converter hsome), hrecords,
      henumerations, h]
    rfl

/-- The name of a record stands for the class that is emitted for it. -/
theorem global?_record {t : TypeRef} {r : Record} {name : String}
    (hr : ctx.graph.kind? t = some (.record r)) (ht : ctx.names.types.lookup t = some name) :
    ∃ c, P.global? name = some (.recordClass c) ∧ c ∈ P.records ∧ ctx.EmitsRecord t c := by
  have hmem : t ∈ ctx.graph.records := TypeGraph.mem_filter_refs hr rfl
  obtain ⟨c, hc, hemits⟩ := exists_of_forall₂ hP.records.flip hmem
  obtain rfl : c.name = name := Option.some.inj (hemits.name.symm.trans ht)
  -- The first class of the name is that of the record, since no two types share a name.
  obtain ⟨c', hc', hfind, hname⟩ := find?_eq_some_of_mem (f := RecordClass.name) hc
  obtain ⟨t', ht', hemits'⟩ := hP.name_of_record hc'
  obtain rfl := hnames.typeOnce (hname ▸ ht') ht
  have hfunctions : P.functions.find? (·.name == c.name) = none := hP.functions_find? fun d hd =>
    (hnames.type ht).2.1 (List.mem_append_right _
      (hd ▸ List.mem_map_of_mem (by cases d <;> decide)))
  refine ⟨c', ?_, hc', hemits'⟩
  rw [Program.global?, hfunctions, hfind]
  rfl

/-- The name of an enumeration stands for the class that is emitted for it. -/
theorem global?_enumeration {t : TypeRef} {e : Enumeration} {name : String}
    (he : ctx.graph.kind? t = some (.enumeration e))
    (ht : ctx.names.types.lookup t = some name) :
    P.global? name = some (.enumClass ⟨name, e⟩) := by
  have hmem : t ∈ ctx.graph.enumerations := TypeGraph.mem_filter_refs he rfl
  obtain ⟨c, hc, hemits⟩ := exists_of_forall₂ hP.enumerations.flip hmem
  have hname : c.name = name := by
    cases hemits with
    | intro _ hname => exact Option.some.inj (hname.symm.trans ht)
  subst hname
  obtain ⟨c', hc', hfind, hname⟩ := find?_eq_some_of_mem (f := EnumClass.name) hc
  obtain ⟨t', ht', hemits'⟩ := hP.name_of_enumeration hc'
  obtain rfl := hnames.typeOnce (hname ▸ ht') ht
  have hfunctions : P.functions.find? (·.name == c.name) = none := hP.functions_find? fun d hd =>
    (hnames.type ht).2.1 (List.mem_append_right _
      (hd ▸ List.mem_map_of_mem (by cases d <;> decide)))
  have hrecords : P.records.find? (·.name == c.name) = none := by
    refine find?_eq_none_of_ne fun d hd heq => ?_
    obtain ⟨u, hu, hrecord⟩ := hP.name_of_record hd
    obtain rfl := hnames.typeOnce (heq ▸ hu) ht
    cases hrecord with
    | intro hrecord =>
        rw [TypeGraph.record?, he] at hrecord
        cases hrecord
  have hc' : c' = ⟨c.name, e⟩ := by
    cases hemits' with
    | intro henumeration =>
        rw [TypeGraph.enumeration?, he] at henumeration
        cases henumeration
        cases hname
        rfl
  rw [Program.global?, hfunctions, hrecords, hfind, hc']
  rfl

end Context.Emits

end TypedJson.Code
