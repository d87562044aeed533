import TypedJson.Proofs.Code.Definitions
import TypedJson.Proofs.Code.Requirements

/-!
# Requirements are exact

A conversion records the support functions that it refers to outside of what it converts. The
functions of the classes and top-levels of a module refer to what the conversions of their types
need (`refersTo_fromDict`, `refersTo_toDict`, `refersTo_returning`), and that is what was recorded
for the module. So it defines the support functions that any of them refers to, each once, and no
other (`requirements_exact`).
-/

namespace TypedJson.Code

open Naming Script TypeGraph

namespace Context

/-- A function that a module defines besides its support functions: one of the class of a record, or
one of a top-level. -/
inductive Defines (ctx : Context) : Definition → Prop where
  | method {t : TypeRef} {c : RecordClass} {name : String} {d : Definition}
      (ht : t ∈ ctx.graph.records) (hc : ctx.EmitsRecord t c) (hd : c.definition? name = some d) :
      Defines ctx d
  | function {i : Nat} {top : TopLevel} {part : List Step} {name : String} {d : Definition}
      (htop : ctx.graph.topLevels[i]? = some top)
      (hpart : (ctx.topLevel ctx.graph.records top i).Yields part)
      (hd : Definition.find? name (linesOf part) = some d) : Defines ctx d

variable {ctx : Context} {cv : Converter} {r : Record} {c : RecordClass} {fields : List Field}
  {assignments : List (String × Expr)} {rows : List Row}

/-! ## References of functions -/

/-- A support function is not named by a name that is free. -/
theorem name_ne_of_free {name : String} (h : name ∉ globalForbidden) (cv : Converter) :
    cv.name ≠ name :=
  fun heq => h (heq ▸ name_mem_globalForbidden cv)

/-- The own names of decoding and encoding functions are none of support functions. -/
theorem own_names (cv : Converter) : cv.name ≠ "isinstance" ∧ cv.name ≠ "obj" ∧ cv.name ≠ "dict" ∧
    cv.name ≠ "self" ∧ cv.name ≠ "result" ∧ cv.name ≠ "s" ∧ cv.name ≠ "x" := by
  cases cv <;> decide

/-- A function that gives back a result refers to what the result does. -/
theorem refersTo_returning {name parameter : String} {result : Expr} (h : cv.name ≠ parameter) :
    (returning name parameter result).RefersTo cv.name ↔ cv.name ∈ result.names := by
  simp [Definition.RefersTo, returning, namesIn, Statement.names, assignedIn, Statement.assigned, h]

/-- A decoding function refers to what its assignments do, to its class and to its own names. -/
theorem mem_namesIn_fromDict {word name : String} :
    word ∈ namesIn (fromDictDefinition name assignments).body ↔
      word ∈ testOfObj.names ∨ (∃ a ∈ assignments, word ∈ a.2.names) ∨ word = name ∨
        word ∈ assignments.map Prod.fst := by
  have hcall : word ∈ (constructorCall name (assignments.map Prod.fst)).names ↔
      word = name ∨ word ∈ assignments.map Prod.fst := by
    simp [constructorCall, Expr.names, mem_itemNames]
  rw [← hcall]
  simp [fromDictDefinition, assignAndConstruct, mem_namesIn, Statement.names]

/-- An encoding function refers to what its rows do and to its own names. -/
theorem mem_namesIn_toDict {word : String} (h : word ≠ "self" ∧ word ≠ "result") :
    word ∈ namesIn (toDictDefinition rows).body ↔ ∃ row ∈ rows, word ∈ row.value.names := by
  have hrow (row : Row) : word ∈ row.statement.names ↔ word ∈ row.value.names := by
    rw [Row.statement]
    cases row.optional
    all_goals simp [Statement.names, namesIn, attributeOf, Expr.names, h]
  simp [toDictDefinition, mem_namesIn, hrow, Statement.names, Expr.names, h]

variable (hnames : ctx.names.Apart)

include hnames

/-- The decoding function of a class refers to what the types of its fields need. -/
theorem refersTo_fromDict (cv : Converter) (hclass : ctx.IsClass r c fields assignments rows)
    (hfree : c.name ∉ globalForbidden) :
    (fromDictDefinition c.name assignments).RefersTo cv.name ↔
      ∃ f ∈ fields, ctx.Needs .decode f.type cv := by
  obtain ⟨hisinstance, hobj, hdict, -⟩ := own_names cv
  have hneeds (f : Field) (a : String × Expr) (h : ctx.Assigns f a) :
      ctx.Needs .decode f.type cv ↔ cv.name ∈ a.2.names := by
    obtain ⟨text, htext, hchars⟩ := h.written
    have hoperand : cv.name ∉ (lookupInObj f.key).names := by
      simpa [lookupInObj, Expr.names, itemNames] using hobj
    exact (mem_names_convertValue hnames (printable_lookupInObj f.key) rfl (chars_lookupInObj _ _)
      htext h.printable hchars hoperand).symm
  have hassigned : cv.name ∉ assignments.map Prod.fst := by
    intro hmem
    obtain ⟨a, ha, hname⟩ := List.mem_map.1 hmem
    obtain ⟨f, hf, hassigns⟩ := exists_of_forall₂ hclass.assigned ha
    exact name_ne_of_free (hclass.holds.names f hf).2.1 cv (hname.symm.trans hassigns.name.symm)
  have htest : cv.name ∉ testOfObj.names := by
    simpa [testOfObj, Expr.names, itemNames] using ⟨hisinstance, hobj, hdict⟩
  rw [exists_mem_iff_of_forall₂ hclass.assigned hneeds, Definition.RefersTo, mem_namesIn_fromDict,
    or_iff_right htest, or_iff_left (not_or.2 ⟨name_ne_of_free hfree cv, hassigned⟩)]
  refine and_iff_left ⟨fun h => hobj (List.mem_singleton.1 h), ?_⟩
  exact (congrArg (cv.name ∉ ·) (assignedIn_assignAndConstruct _)).mpr hassigned

/-- The encoding function of a class refers to what the types of its fields need. -/
theorem refersTo_toDict (cv : Converter) (hclass : ctx.IsClass r c fields assignments rows) :
    (toDictDefinition rows).RefersTo cv.name ↔ ∃ f ∈ fields, ctx.Needs .encode f.type cv := by
  obtain ⟨-, -, -, hself, hresult, -⟩ := own_names cv
  have hneeds (f : Field) (row : Row) (h : IsName f.name ∧ ctx.AssignsEntry f row) :
      ctx.Needs .encode f.type cv ↔ cv.name ∈ row.value.names := by
    obtain ⟨text, htext, hchars⟩ := h.2.written
    have hoperand : cv.name ∉ (attributeOf f.name).names := by
      simpa [attributeOf, Expr.names] using hself
    exact (mem_names_convertValue hnames (printable_attributeOf h.1) rfl (chars_attributeOf _ _)
      htext h.2.printable hchars hoperand).symm
  have hentries := (List.forall₂_and_left (p := fun f : Field => IsName f.name) fields rows).2
    ⟨fun f hf => (hclass.holds.names f hf).1, hclass.entries⟩
  rw [exists_mem_iff_of_forall₂ hentries hneeds, Definition.RefersTo,
    mem_namesIn_toDict ⟨hself, hresult⟩, assignedIn_toDictDefinition]
  exact and_iff_left
    ⟨fun h => hself (List.mem_singleton.1 h), fun h => hresult (List.mem_singleton.1 h)⟩

/-- The functions of a class refer to what the types of the record's properties need. -/
theorem exists_method_iff {t : TypeRef} (hr : ctx.graph.record? t = some r)
    (hc : ctx.EmitsRecord t c) :
    (∃ name d, c.definition? name = some d ∧ d.RefersTo cv.name) ↔
      ∃ u ∈ kindRefs (.record r), ∃ d, ctx.Needs d u cv := by
  obtain ⟨fields, assignments, rows, hclass⟩ := hc.isClass hnames hr
  have hfromDict := refersTo_fromDict hnames cv hclass (hnames.type hc.name).2.1
  have htoDict := refersTo_toDict hnames cv hclass
  constructor
  · rintro ⟨name, d, hd, hrefers⟩
    have hfield : ∃ f ∈ fields, ∃ d, ctx.Needs d f.type cv := by
      by_cases hfrom : name = "from_dict"
      · subst hfrom
        obtain rfl := Option.some.inj (hd.symm.trans hclass.fromDict)
        obtain ⟨f, hf, hneeds⟩ := hfromDict.1 hrefers
        exact ⟨f, hf, .decode, hneeds⟩
      · by_cases hto : name = "to_dict"
        · subst hto
          obtain rfl := Option.some.inj (hd.symm.trans hclass.toDict)
          obtain ⟨f, hf, hneeds⟩ := htoDict.1 hrefers
          exact ⟨f, hf, .encode, hneeds⟩
        · rw [hclass.others name hfrom hto] at hd
          cases hd
    obtain ⟨f, hf, hneeds⟩ := hfield
    exact ⟨f.type, hclass.holds.type_mem hf, hneeds⟩
  · rintro ⟨u, hu, d, hneeds⟩
    obtain ⟨f, hf, rfl⟩ := hclass.holds.exists_field hu
    cases d with
    | decode => exact ⟨_, _, hclass.fromDict, hfromDict.2 ⟨f, hf, hneeds⟩⟩
    | encode => exact ⟨_, _, hclass.toDict, htoDict.2 ⟨f, hf, hneeds⟩⟩

/-- The functions of a top-level refer to what its type needs. -/
theorem exists_function_iff (hfunctions : ctx.names.FunctionsApart) {declared : List TypeRef}
    {top : TopLevel} {i : Nat} {part : List Step}
    (hpart : (ctx.topLevel declared top i).Yields part) :
    (∃ name d, Definition.find? name (linesOf part) = some d ∧ d.RefersTo cv.name) ↔
      ∃ d, ctx.Needs d top.type cv := by
  obtain ⟨names, hint, decode, encode, hlookup, hhint, hdecode, hencode, rfl⟩ :=
    topLevel_of_yields hnames hpart
  obtain ⟨hapart, hne⟩ := hfunctions i names hlookup
  obtain ⟨-, -, -, -, -, hs, hx⟩ := own_names cv
  -- The parameters of both functions are operands that name no support function.
  have hread {d : Direction} {parameter text : String} (hparameter : IsName parameter)
      (hne : cv.name ≠ parameter) (htext : (ctx.convertValue d parameter top.type).Yields text) :
      ∃ e : Expr, e.Printable ∧ e.chars ctx.features.markedText = text.toList ∧
        ∀ name, (returning name parameter e).RefersTo cv.name ↔ ctx.Needs d top.type cv := by
    have hprint : (Expr.name parameter).Printable := .name hparameter
    obtain ⟨e, he, hchars⟩ := isReadable_convertValue hnames hprint rfl rfl htext
    refine ⟨e, he, hchars, fun name => (refersTo_returning hne).trans ?_⟩
    exact mem_names_convertValue hnames hprint rfl rfl htext he hchars fun h =>
      hne (List.mem_singleton.1 h)
  obtain ⟨e, he, hchars, hrefers⟩ := hread (isName_of_chars rfl rfl rfl rfl) hs hdecode
  obtain ⟨e', he', hchars', hrefers'⟩ := hread isName_param hx hencode
  have hfind {d : Definition} := find?_topLevel (d := d) (fun name h => (hapart name h).1) hne hhint
    he hchars he' hchars'
  rw [exists_direction, ← hrefers names.fromDict, ← hrefers' names.toDict]
  constructor
  · rintro ⟨name, d, hd, hrefers⟩
    rcases hfind.1 ⟨name, hd⟩ with rfl | rfl
    · exact .inl hrefers
    · exact .inr hrefers
  · rintro (hrefers | hrefers)
    · obtain ⟨name, hd⟩ := hfind.2 (.inl rfl)
      exact ⟨name, _, hd, hrefers⟩
    · obtain ⟨name, hd⟩ := hfind.2 (.inr rfl)
      exact ⟨name, _, hd, hrefers⟩

end Context

/-! ## The module -/

section Rendered

variable {g : TypeGraph} {o : Options} {module : String} {cv : Converter}
  (ho : o.justTypes = false) (hrender : renderModule g o = .ok module)

include ho hrender

/-- The functions of a rendered module refer to what the conversions of its types need. -/
theorem exists_defines_iff : (∃ d, (contextOf g o).Defines d ∧ d.RefersTo cv.name) ↔
    ∃ t, IsConverted g t ∧ ∃ d, (contextOf g o).Needs d t cv := by
  have hnames : (contextOf g o).names.Apart := NameTable.apart_assign g o
  have hfunctions : (contextOf g o).names.FunctionsApart := NameTable.functionsApart_assign g o
  constructor
  · rintro ⟨d, hd, hrefers⟩
    cases hd with
    | @method t c name d ht hc hd =>
        obtain ⟨r, hr⟩ := mem_records.1 ht
        obtain ⟨u, hu, hneeds⟩ :=
          (Context.exists_method_iff hnames hr hc).1 ⟨name, d, hd, hrefers⟩
        exact ⟨u, .inr ⟨t, r, record?_eq_some.1 hr, hu⟩, hneeds⟩
    | @function i top part name d htop hpart hd =>
        have hneeds :=
          (Context.exists_function_iff hnames hfunctions hpart).1 ⟨name, d, hd, hrefers⟩
        exact ⟨top.type, .inl ⟨top, List.mem_of_getElem? htop, rfl⟩, hneeds⟩
  · rintro ⟨u, ⟨top, htop, rfl⟩ | ⟨t, r, hk, hu⟩, hneeds⟩
    · obtain ⟨i, part, hi, hpart⟩ := exists_topLevel ho hrender htop
      obtain ⟨name, d, hd, hrefers⟩ :=
        (Context.exists_function_iff hnames hfunctions hpart).2 hneeds
      exact ⟨d, .function hi hpart hd, hrefers⟩
    · have hr := record?_eq_some.2 hk
      obtain ⟨P, -, hP⟩ := exists_emits ho hrender fun _ => ""
      obtain ⟨c, -, hc⟩ := exists_of_forall₂ hP.records.flip (mem_records.2 ⟨r, hr⟩)
      obtain ⟨name, d, hd, hrefers⟩ := (Context.exists_method_iff hnames hr hc).2 ⟨u, hu, hneeds⟩
      exact ⟨d, .method (mem_records.2 ⟨r, hr⟩) hc hd, hrefers⟩

end Rendered

/-- A rendered module is the layout of its steps with the definitions that they require. -/
theorem exists_layout {g : TypeGraph} {o : Options} {module : String} (ho : o.justTypes = false)
    (hrender : renderModule g o = .ok module) :
    ∃ steps required, ((contextOf g o).moduleSteps o).Runs .empty steps required ∧
      ∃ front ∈ ["", "# -*- coding: utf-8 -*-\n"], module = front ++
        layout (writtenSteps o (contextOf g o).names.topLevels steps required)
          (required.closeImports o.features).imports := by
  unfold renderModule renderNamed at hrender
  dsimp only at hrender
  split at hrender
  next steps required hrun =>
    refine ⟨steps, required, hrun, ?_⟩
    cases hrender
    unfold moduleText
    simp only [ho, Bool.false_eq_true, if_false]
    split
    · exact ⟨_, List.mem_cons_of_mem _ List.mem_cons_self, rfl⟩
    · exact ⟨"", List.mem_cons_self, String.empty_append.symm⟩
  next => cases hrender

/-- The definition of a recorded support function is written. -/
theorem definition_infix_writtenSteps {o : Options} {functions : List TopLevelNames}
    {steps : List Step} {required : Requirements} {cv : Converter} (h : required.uses cv) :
    cv.definition o.features <:+: writtenSteps o functions steps required := by
  have hmem : cv ∈ required.used := List.mem_filter.2 ⟨by cases cv <;> decide, h⟩
  obtain ⟨before, behind, hused⟩ := List.append_of_mem hmem
  unfold writtenSteps Requirements.definitions
  rw [hused, List.flatMap_append, List.flatMap_cons]
  refine ⟨steps ++ (if o.features.typeHints then required.typeVariables else []) ++
    .enter .support :: before.flatMap (Converter.definition o.features),
    behind.flatMap (Converter.definition o.features) ++
      headerSteps (required.uses .fromDatetime) functions, ?_⟩
  simp only [List.append_assoc, List.cons_append]

/-- For every graph, type, direction and chain, a conversion records the support functions that it
refers to outside of what it converts, and no other. So a module that is rendered with its
conversions defines every support function that a function of its classes or top-levels refers to,
once, and no other. -/
theorem requirements_exact (g : TypeGraph) (o : Options) :
    (∀ d c t s c' s', ((contextOf g o).convert d c t).Runs s c' s' →
      ∃ links, Surrounds o.features.markedText links c c' ∧
        ∀ cv, s'.uses cv ↔ s.uses cv ∨ cv.name ∈ linkNames links) ∧
    ∀ module, o.justTypes = false → renderModule g o = .ok module →
      ∃ steps required, ((contextOf g o).moduleSteps o).Runs .empty steps required ∧
        let written := writtenSteps o (contextOf g o).names.topLevels steps required
        (∃ front ∈ ["", "# -*- coding: utf-8 -*-\n"],
          module = front ++ layout written (required.closeImports o.features).imports) ∧
        ∀ cv : Converter,
          ((∃ d, (contextOf g o).Defines d ∧ d.RefersTo cv.name) →
            cv.definition o.features <:+: written ∧
              definitionCount cv.name (linesOf written) = 1) ∧
          ((¬ ∃ d, (contextOf g o).Defines d ∧ d.RefersTo cv.name) →
            definitionCount cv.name (linesOf written) = 0) := by
  have hnames : (contextOf g o).names.Apart := NameTable.apart_assign g o
  have hfunctions : (contextOf g o).names.FunctionsApart := NameTable.functionsApart_assign g o
  refine ⟨fun d c t s c' s' h => Context.records_links hnames h, fun module ho hrender => ?_⟩
  obtain ⟨steps, required, hrun, hlayout⟩ := exists_layout ho hrender
  have hnone := Context.definesNone_moduleSteps hnames hfunctions ho ⟨_, _, hrun⟩
  refine ⟨steps, required, hrun, hlayout, fun cv => ?_⟩
  -- What is recorded for all steps is what the types need, which is what the functions refer to.
  have huses : required.uses cv ↔ ∃ d, (contextOf g o).Defines d ∧ d.RefersTo cv.name := by
    rw [exists_defines_iff ho hrender,
      Context.adds_moduleSteps hnames ho .empty steps required hrun cv]
    exact or_iff_right Bool.false_ne_true
  have hcount := definitionCount_writtenSteps o (contextOf g o).names.topLevels hnone required cv
  rw [← huses, hcount]
  exact ⟨fun h => ⟨definition_infix_writtenSteps h, if_pos h⟩, fun h => if_neg h⟩

/-- Counts are encoded by `to_class`, which is recorded, and there is a module for them. -/
theorem requirements_exact_count :
    let ctx := contextOf TypeGraph.countGraph .standard
    let required : Requirements := ⟨[.toClass], .empty⟩
    let encoder : Chain := .applied (.partialCall "to_class" ["Count"]) (.text "v")
    (ctx.convert .encode (.ofText "v") ⟨6⟩).Runs .empty encoder required ∧
      (∃ links, Surrounds false links (.ofText "v") encoder ∧
        ∀ cv, required.uses cv ↔ Requirements.empty.uses cv ∨ cv.name ∈ linkNames links) ∧
      ∃ module, renderModule TypeGraph.countGraph .standard = .ok module ∧
        ∃ steps required, (ctx.moduleSteps .standard).Runs .empty steps required ∧
          let written := writtenSteps .standard ctx.names.topLevels steps required
          ∀ cv : Converter, (∃ d, ctx.Defines d ∧ d.RefersTo cv.name) →
            definitionCount cv.name (linesOf written) = 1 := by
  intro ctx required encoder
  obtain ⟨hlinks, hmodule⟩ := requirements_exact TypeGraph.countGraph .standard
  have hrun : (ctx.convert .encode (.ofText "v") ⟨6⟩).Runs .empty encoder required :=
    Prod.ext (by decide +kernel) (by decide +kernel)
  obtain ⟨module, hrender⟩ := rendered_countGraph
  obtain ⟨steps, required', hsteps, -, hdefined⟩ := hmodule module rfl hrender
  exact ⟨hrun, hlinks _ _ _ _ _ _ hrun, module, hrender, steps, required', hsteps,
    fun cv h => ((hdefined cv).1 h).2⟩

end TypedJson.Code
