import TypedJson.Proofs.Code.TopLevels

/-!
# Where support functions are defined

A function of a module is defined at the left margin. The classes and the functions of top-levels
define no support function there (`defines_moduleSteps`), so that the module defines those that were
recorded, each once (`definitionCount_writtenSteps`).
-/

namespace TypedJson.Code

open Naming Script

/-- How often the lines start the definition of a function of the name at the left margin. -/
def definitionCount (name : String) (lines : List Line) : Nat :=
  lines.countP fun line => line.column = 0 ∧ (signature? line.text).map Prod.fst = some name

/-- The steps that a module is laid out from. -/
def writtenSteps (o : Options) (functions : List TopLevelNames) (steps : List Step)
    (required : Requirements) : List Step :=
  steps ++ required.definitions o.features ++ headerSteps (required.uses .fromDatetime) functions

variable {cv : Converter} {name : String} {text : String} {steps others : List Step}

/-- A line that is indented or starts no definition of the name does not count. -/
theorem definitionCount_cons {line : Line} {lines : List Line}
    (h : line.column = 0 → (signature? line.text).map Prod.fst ≠ some name) :
    definitionCount name (line :: lines) = definitionCount name lines := by
  unfold definitionCount
  rw [List.countP_cons_of_neg]
  simpa using h

/-! ## Indented steps -/

/-- The steps stay at their level of indentation, or deeper. -/
inductive Nested : List Step → Prop where
  | nil : Nested []
  | line (text : String) {rest : List Step} : Nested rest → Nested (.line text :: rest)
  | blank (count : Nat) {rest : List Step} : Nested rest → Nested (.blank count :: rest)
  | indented {body rest : List Step} : Nested body → Nested rest → Nested (indented body ++ rest)

/-- Steps behind steps stay at their level. -/
theorem Nested.append (h : Nested steps) (h' : Nested others) : Nested (steps ++ others) := by
  induction h with
  | nil => exact h'
  | line text _ ih => exact .line text ih
  | blank count _ ih => exact .blank count ih
  | indented hbody _ _ ih =>
      rw [List.append_assoc]
      exact .indented hbody ih

/-- Indented steps stay deeper. -/
theorem nested_indented (h : Nested steps) : Nested (indented steps) :=
  List.append_nil (indented steps) ▸ .indented h .nil

/-- Lines stay at their level. -/
theorem nested_lines {α : Type} (f : α → String) (items : List α) :
    Nested (items.map fun a => .line (f a)) := by
  induction items with
  | nil => exact .nil
  | cons a items ih => exact .line (f a) ih

/-- So do the steps for the items of a list. -/
theorem nested_flatMap {α : Type} {items : List α} {f : α → List Step}
    (h : ∀ a ∈ items, Nested (f a)) : Nested (items.flatMap f) := by
  induction items with
  | nil => exact .nil
  | cons a items ih =>
      rw [List.forall_mem_cons] at h
      rw [List.flatMap_cons]
      exact h.1.append (ih h.2)

/-- An indented line at the left margin is empty. -/
theorem text_of_column_eq_zero {level : Nat}
    (h : (Line.ofChars (indentLine (level + 1) text).toList).column = 0) :
    (Line.ofChars (indentLine (level + 1) text).toList).text = [] := by
  unfold indentLine at h ⊢
  split
  · rfl
  next hne =>
    rw [if_neg hne, indentation, String.toList_append, String.toList_ofList, Nat.mul_succ,
      List.replicate_succ, List.cons_append] at h
    cases h

/-- Below the left margin, nothing is defined there. -/
theorem Nested.definitionCount (h : Nested steps) (level : Nat) (rest : List Step) :
    definitionCount name (linesAt (level + 1) (steps ++ rest)) =
      definitionCount name (linesAt (level + 1) rest) := by
  induction h generalizing level rest with
  | nil => rfl
  | line text _ ih =>
      refine (definitionCount_cons fun hcolumn => ?_).trans (ih level rest)
      rw [text_of_column_eq_zero hcolumn]
      exact nofun
  | blank count _ ih => exact ih level rest
  | @indented body steps _ _ ihbody ih =>
      rw [List.append_assoc]
      show Code.definitionCount name
        (linesAt (level + 2) (body ++ [.dedent] ++ (steps ++ rest))) = _
      rw [List.append_assoc, ihbody]
      exact ih level rest

/-! ## Steps without support functions -/

/-- At the left margin, the steps define no support function, and end there. -/
def DefinesNone (steps : List Step) : Prop :=
  ∀ (cv : Converter) rest, definitionCount cv.name (linesAt 0 (steps ++ rest)) =
    definitionCount cv.name (linesAt 0 rest)

/-- No steps define none. -/
theorem definesNone_nil : DefinesNone [] :=
  fun _ _ => rfl

/-- Steps behind steps define none if both do not. -/
theorem DefinesNone.append (h : DefinesNone steps) (h' : DefinesNone others) :
    DefinesNone (steps ++ others) := by
  intro cv rest
  rw [List.append_assoc, h, h']

/-- So do steps one behind the other. -/
theorem definesNone_flatten {parts : List (List Step)} (h : ∀ part ∈ parts, DefinesNone part) :
    DefinesNone parts.flatten := by
  induction parts with
  | nil => exact definesNone_nil
  | cons part parts ih =>
      rw [List.forall_mem_cons] at h
      exact h.1.append (ih h.2)

/-- A region is entered without a definition. -/
theorem DefinesNone.enter (region : Region) (h : DefinesNone steps) :
    DefinesNone (.enter region :: steps) := by
  intro cv rest
  rw [List.cons_append, linesAt_enter, h]

/-- Blank lines define nothing. -/
theorem DefinesNone.blank (count : Nat) (h : DefinesNone steps) :
    DefinesNone (.blank count :: steps) :=
  h

/-- A line that starts no definition defines nothing. -/
theorem DefinesNone.line (hdark : StartsDark text) (hnone : signature? text.toList = none)
    (h : DefinesNone steps) : DefinesNone (.line text :: steps) := by
  intro cv rest
  rw [List.cons_append, linesAt_line hdark, definitionCount_cons, h]
  rw [hnone]
  exact fun _ => nofun

/-- Neither do indented lines. -/
theorem DefinesNone.indented {body : List Step} (hbody : Nested body) (h : DefinesNone steps) :
    DefinesNone (indented body ++ steps) := by
  intro cv rest
  show definitionCount cv.name (linesAt 1 (body ++ [.dedent] ++ steps ++ rest)) = _
  rw [List.append_assoc, List.append_assoc, hbody.definitionCount]
  exact h cv rest

/-- Lines that start no definition define nothing. -/
theorem definesNone_lines {texts : List String}
    (h : ∀ text ∈ texts, StartsDark text ∧ signature? text.toList = none) :
    DefinesNone (texts.map .line) := by
  induction texts with
  | nil => exact definesNone_nil
  | cons text texts ih =>
      rw [List.forall_mem_cons] at h
      exact (ih h.2).line h.1.1 h.1.2

/-- The functions of a top-level are no support functions. -/
theorem definesNone_topLevel {names : TopLevelNames} {hint : Option String}
    (hnames : ∀ name ∈ [names.fromDict, names.toDict], IsName name ∧ name ∉ globalForbidden)
    (hhint : ∀ text ∈ hint, PassedOver text.toList) (decode encode : String) :
    DefinesNone (topLevelSteps names hint decode encode) := by
  intro cv rest
  obtain ⟨hfirst, hsecond⟩ := signature?_topLevel (fun name h => (hnames name h).1) hhint
  have hreturning {signature name parameter result : String} {lines : List Line}
      (hsignature : signature? signature.toList = some (name, [parameter]))
      (hfree : name ∉ globalForbidden) :
      definitionCount cv.name (returningLines signature result ++ lines) =
        definitionCount cv.name lines := by
    refine (definitionCount_cons fun _ => ?_).trans (definitionCount_cons nofun)
    rw [hsignature]
    rintro ⟨⟩
    exact hfree (name_mem_globalForbidden cv)
  rw [linesAt_topLevel, hreturning hfirst (hnames _ List.mem_cons_self).2,
    hreturning hsecond (hnames _ (List.mem_cons_of_mem _ List.mem_cons_self)).2]

/-! ## The steps of a module -/

/-- A docstring stays at its level. -/
theorem nested_docSteps (description : Option String) : Nested (docSteps description) := by
  cases description with
  | none => exact .nil
  | some text => exact nested_lines _ _

/-- The fields of a class stay at their level. -/
theorem nested_fieldSteps (f : Features) (fields : List Field) : Nested (fieldSteps f fields) :=
  nested_flatMap fun field _ => .line _ (nested_docSteps field.description)

/-- So does the constructor. -/
theorem nested_constructorSteps (hints : Bool) (fields : List Field) :
    Nested (constructorSteps hints fields) := by
  refine .line _ (nested_indented ?_)
  split
  · exact .line _ .nil
  · refine nested_flatMap fun f _ => .append ?_ (.line _ .nil)
    split
    · exact .nil
    · cases f.description with
      | none => exact .nil
      | some text => exact nested_lines _ _

/-- So do the functions of a class. -/
theorem nested_classConversions (name : String) (returned : Option String) (hints : Bool)
    (values assignments : List (Field × String)) :
    Nested (fromDictSteps name returned values ++
      ([.blank 1] ++ toDictSteps hints assignments)) := by
  refine .append (.line _ (.line _ (nested_indented ?_))) (.blank 1 (.line _ (nested_indented ?_)))
  · exact .line _ ((nested_lines _ values).append (.line _ .nil))
  · refine .line _ ((nested_flatMap fun a _ => ?_).append (.line _ .nil))
    split
    · exact .line _ (nested_indented (.line _ .nil))
    · exact .line _ .nil

/-- Parts of a class stay at their level if each of them does. -/
theorem nested_joinParts {parts : List (List Step)} (h : ∀ part ∈ parts, Nested part) :
    Nested (joinParts parts) := by
  induction parts with
  | nil => exact .nil
  | cons part parts ih =>
      rw [List.forall_mem_cons] at h
      cases part with
      | nil => exact ih h.2
      | cons step part =>
          have hothers := ih h.2
          unfold joinParts
          split
          · exact h.1
          next others _ => exact h.1.append (.blank 1 hothers)

/-- The body of a class does. -/
theorem nested_classBody (f : Features) (description : Option String) (fields : List Field)
    {conversions : List Step} (h : Nested conversions) :
    Nested (classBody f description fields conversions) := by
  have hdeclared :
      Nested (docSteps description ++ if f.typeHints then fieldSteps f fields else []) := by
    refine (nested_docSteps description).append ?_
    split
    · exact nested_fieldSteps f fields
    · exact .nil
  have hconstructor :
      Nested (if f.dataclasses then [] else constructorSteps f.typeHints fields) := by
    split
    · exact .nil
    · exact nested_constructorSteps _ _
  have hparts : Nested (joinParts [_, _, conversions]) := nested_joinParts <|
    List.forall_mem_cons.2
      ⟨hdeclared, List.forall_mem_cons.2 ⟨hconstructor, List.forall_mem_singleton.2 h⟩⟩
  unfold classBody
  dsimp only
  split
  · exact .line _ .nil
  · exact hparts

namespace Context

variable {ctx : Context} {o : Options} {declared : List TypeRef} {t : TypeRef} {part : List Step}

/-- The class of an enumeration defines no support function. -/
theorem definesNone_enumerationClass {e : Enumeration}
    (h : (ctx.enumerationClass t e).Yields part) : DefinesNone part := by
  obtain ⟨name, -, h⟩ := h.bind
  obtain ⟨cases, -, h⟩ := h.require.bind
  obtain rfl := h.pure
  have hclass : StartsDark "class " := startsDark_ofList (by decide)
  refine .append (.append (.enter _ (.line ((hclass.append name).append _) ?_ definesNone_nil)) ?_)
    (.blank 2 definesNone_nil)
  · simp only [String.toList_append, List.append_assoc]
    rfl
  · refine List.append_nil (indented _) ▸ .indented ?_ definesNone_nil
    refine ((nested_docSteps _).append (nested_lines _ _)).append ?_
    split
    · exact .line _ .nil
    · exact .nil

/-- The class of a record defines no support function. -/
theorem definesNone_recordClass {r : Record} (ho : o.justTypes = false)
    (h : (ctx.recordClass o declared t r).Yields part) : DefinesNone part := by
  obtain ⟨name, -, h⟩ := h.bind
  obtain ⟨fields, -, h⟩ := h.bind
  have h := Gen.Yields.when h
  rw [ho] at h
  obtain ⟨conversions, hconversions, h⟩ := Gen.Yields.bind h
  obtain rfl := h.pure
  obtain ⟨returned, values, assignments, rfl, -⟩ := classConversions_of_yields hconversions
  have hbody := nested_classBody ctx.features r.description fields
    (nested_classConversions name returned ctx.features.typeHints values assignments)
  have hclass : StartsDark "class " := startsDark_ofList (by decide)
  have hnested : DefinesNone (indented _) :=
    List.append_nil (indented _) ▸ DefinesNone.indented hbody definesNone_nil
  refine .append (.append (.enter _ ?_) (.line (((hclass.append _).append _).append _) ?_ hnested))
    (.blank 2 definesNone_nil)
  · split
    · exact .line (startsDark_ofList (by decide))
        ((congrArg signature? String.toList_ofList).trans rfl) definesNone_nil
    · exact definesNone_nil
  · simp only [String.toList_append, List.append_assoc]
    rfl

/-- The classes of records define no support function. -/
theorem definesNone_classes (ho : o.justTypes = false) {ts : List TypeRef}
    (h : (ctx.classes o declared ts).Yields part) : DefinesNone part := by
  induction ts generalizing declared part with
  | nil =>
      obtain rfl := Gen.Yields.pure h
      exact definesNone_nil
  | cons t rest ih =>
      unfold classes at h
      cases hr : ctx.graph.record? t with
      | none =>
          rw [hr] at h
          obtain ⟨first, hfirst, h⟩ := Gen.Yields.bind h
          obtain ⟨others, hothers, h⟩ := Gen.Yields.bind h
          obtain rfl := hfirst.pure
          obtain rfl := h.pure
          exact ih hothers
      | some r =>
          rw [hr] at h
          obtain ⟨first, hfirst, h⟩ := Gen.Yields.bind h
          obtain ⟨others, hothers, h⟩ := Gen.Yields.bind h
          obtain rfl := h.pure
          exact (definesNone_recordClass ho hfirst).append (ih hothers)

/-- The steps of a module define no support function. -/
theorem definesNone_moduleSteps (hnames : ctx.names.Apart) (hfunctions : ctx.names.FunctionsApart)
    (ho : o.justTypes = false) (h : (ctx.moduleSteps o).Yields steps) : DefinesNone steps := by
  obtain ⟨enumerations, henumerations, h⟩ := h.bind
  obtain ⟨classes, hclasses, h⟩ := h.bind
  rw [ho] at h
  obtain ⟨topLevels, htopLevels, h⟩ := Gen.Yields.bind h
  obtain rfl := h.pure
  refine .append (.append (definesNone_flatten fun part hpart => ?_)
    (definesNone_classes ho hclasses)) (definesNone_flatten fun part hpart => ?_)
  · obtain ⟨t, -, ht⟩ := exists_of_forall₂ henumerations.mapM hpart
    split at ht
    · exact definesNone_enumerationClass ht
    · obtain rfl := ht.pure
      exact definesNone_nil
  · obtain ⟨top, -, htop⟩ := exists_of_forall₂ htopLevels.mapM hpart
    obtain ⟨names, hint, decode, encode, hlookup, hhint, -, -, rfl⟩ :=
      topLevel_of_yields hnames htop
    exact definesNone_topLevel (hfunctions _ _ hlookup).1 hhint _ _

end Context

/-! ## Written modules -/

/-- The header defines nothing. -/
theorem definesNone_headerSteps (parsesDates : Bool) (functions : List TopLevelNames) :
    DefinesNone (headerSteps parsesDates functions) := by
  refine .enter _ (definesNone_lines fun text htext => ?_)
  rcases List.mem_append.1 htext with htext | htext
  · have htext : text ∈ ["# This code parses date/times, so please", "#",
        "#     pip install python-dateutil", "#", "# To use this code, make sure you", "#",
        "#     import json", "#", "# and then, to convert JSON from a string, do", "#"] := by
      rcases List.mem_append.1 htext with htext | htext
      · cases parsesDates with
        | false => cases htext
        | true => exact List.mem_append_left _ htext
      · exact List.mem_append_right ["# This code parses date/times, so please", "#",
          "#     pip install python-dateutil", "#"] htext
    simp only [List.mem_cons, List.not_mem_nil, or_false] at htext
    rcases htext with rfl | rfl | rfl | rfl | rfl | rfl | rfl | rfl | rfl | rfl
    all_goals
      exact ⟨startsDark_ofList (by decide), (congrArg signature? String.toList_ofList).trans rfl⟩
  · obtain ⟨names, -, rfl⟩ := List.mem_map.1 htext
    have hresult : StartsDark "#     result = " := startsDark_ofList (by decide)
    refine ⟨(hresult.append _).append _, ?_⟩
    simp only [String.toList_append, List.append_assoc]
    rfl

/-- Type variables are no functions. -/
theorem definesNone_typeVariables (required : Requirements) :
    DefinesNone required.typeVariables := by
  refine .append (.enter _ ?_) ?_
  all_goals
    split
    · exact .line (startsDark_ofList (by decide))
        ((congrArg signature? String.toList_ofList).trans rfl) definesNone_nil
    · exact definesNone_nil

/-- Support functions are defined as often as they are listed. -/
theorem definitionCount_support (f : Features) (cv : Converter) (listed : List Converter)
    (rest : List Step) :
    definitionCount cv.name (linesAt 0 (listed.flatMap (Converter.definition f) ++ rest)) =
      listed.count cv + definitionCount cv.name (linesAt 0 rest) := by
  induction listed with
  | nil => exact (Nat.zero_add _).symm
  | cons c listed ih =>
      have hbody : DefinesNone (indented ((c.body f).map .line) ++ [.blank 2]) :=
        .indented (nested_lines _ _) (.blank 2 definesNone_nil)
      -- Only the first line of a definition starts one, and it names the function.
      have hfirst (lines : List Line) : definitionCount cv.name
          (⟨0, (c.signature f.typeHints).toList⟩ :: lines) =
            definitionCount cv.name lines + if c = cv then 1 else 0 := by
        rw [definitionCount, List.countP_cons]
        show definitionCount cv.name lines + (if decide (0 = 0 ∧
          (signature? (c.signature f.typeHints).toList).map Prod.fst = some cv.name) then 1 else 0) = _
        rw [signature?_support f.typeHints f c]
        simp only [Option.map_some, Option.some.injEq, Converter.name_injective.eq_iff, true_and,
          decide_eq_true_eq]
      rw [List.flatMap_cons, List.append_assoc, Converter.definition, List.append_assoc,
        List.cons_append, linesAt_line (startsDark_signature _ c), hfirst]
      have hrest := hbody cv (listed.flatMap (Converter.definition f) ++ rest)
      rw [List.append_assoc] at hrest
      rw [hrest, ih, List.count_cons, Nat.add_right_comm]
      simp only [beq_iff_eq]

/-- A support function is listed once if it is recorded. -/
theorem count_used (required : Requirements) (cv : Converter) :
    required.used.count cv = if required.uses cv then 1 else 0 := by
  unfold Requirements.used
  split
  next h =>
    rw [List.count_filter h]
    cases cv <;> rfl
  next h =>
    refine List.count_eq_zero_of_not_mem fun hmem => h ?_
    exact (List.mem_filter.1 hmem).2

/-- A module defines the support functions that were recorded, each once. -/
theorem definitionCount_writtenSteps (o : Options) (functions : List TopLevelNames)
    (h : DefinesNone steps) (required : Requirements) (cv : Converter) :
    definitionCount cv.name (linesOf (writtenSteps o functions steps required)) =
      if required.uses cv then 1 else 0 := by
  have hvariables : DefinesNone (if o.features.typeHints then required.typeVariables else []) := by
    split
    · exact definesNone_typeVariables required
    · exact definesNone_nil
  have hheader := definesNone_headerSteps (required.uses .fromDatetime) functions cv []
  show definitionCount cv.name (linesAt 0 _) = _
  unfold writtenSteps Requirements.definitions
  rw [List.append_assoc, h, List.append_assoc, hvariables, List.cons_append, linesAt_enter,
    definitionCount_support, count_used]
  rw [List.append_nil] at hheader
  rw [hheader]
  rfl

end TypedJson.Code
