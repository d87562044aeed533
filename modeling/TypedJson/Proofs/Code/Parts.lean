import TypedJson.Proofs.Code.Agreement
import TypedJson.Proofs.Code.Blocks
import TypedJson.Proofs.Code.Definitions
import TypedJson.Proofs.Code.Importing
import TypedJson.Proofs.Script.CodeLines

/-!
# The parts of a module

A module is written part by part: one for each enumeration, record and top-level, and behind these
the type variables, the support functions and the header (`exists_parts`). A part enters its region
and writes there without leaving it, so the lines of a region are those of its parts, one behind the
other, with blank ones between them (`dark_regionLines`).
-/

namespace TypedJson.Code

open Script

/-! ## Parts -/

/-- Where writing stands does not change behind steps that stay at their level. -/
theorem Nested.foldl_move {steps : List Step} (h : Nested steps) (place : Region × Nat) :
    steps.foldl (fun place step => step.move place) place = place := by
  induction h generalizing place with
  | nil => rfl
  | line text _ ih => exact ih place
  | blank count _ ih => exact ih place
  | @indented body rest _ _ ihbody ih =>
      rw [List.foldl_append]
      show rest.foldl _ ((body ++ [Step.dedent]).foldl _ (place.1, place.2 + 1)) = place
      rw [List.foldl_append, ihbody]
      exact ih place

/-- Steps behind steps that stay at their level write from there. -/
theorem Nested.entriesFrom_append {steps : List Step} (h : Nested steps) (region : Region)
    (level : Nat) (others : List Step) : entriesFrom region level (steps ++ others) =
      entriesFrom region level steps ++ entriesFrom region level others := by
  rw [Code.entriesFrom_append, h.foldl_move]

/-- Their lines stand behind those of the first steps. -/
theorem Nested.linesAt_append {steps : List Step} (h : Nested steps) (level : Nat)
    (others : List Step) :
    linesAt level (steps ++ others) = linesAt level steps ++ linesAt level others := by
  unfold linesAt
  rw [h.entriesFrom_append, List.filterMap_append]

/-- Steps that stay at their level stay in their region. -/
theorem Nested.region_eq {steps : List Step} (h : Nested steps) (region : Region) (level : Nat) :
    ∀ e ∈ entriesFrom region level steps, e.1 = region := by
  induction h generalizing level with
  | nil => exact List.forall_mem_nil _
  | line text _ ih => exact List.forall_mem_cons.2 ⟨rfl, ih level⟩
  | blank count _ ih => exact List.forall_mem_cons.2 ⟨rfl, ih level⟩
  | @indented body rest hbody _ ihbody ih =>
      have hsplit : entriesFrom region level (Code.indented body ++ rest) =
          entriesFrom region (level + 1) body ++ entriesFrom region level rest := by
        show entriesFrom region (level + 1) (body ++ [.dedent] ++ rest) = _
        rw [List.append_assoc, hbody.entriesFrom_append]
        rfl
      rw [hsplit]
      exact List.forall_mem_append.2 ⟨ihbody (level + 1), ih level⟩

/-- A part of a module: what is written in a region without leaving it. -/
structure Part where
  region : Region
  body : List Step
  nested : Nested body

namespace Part

/-- The steps of a part. -/
def steps (p : Part) : List Step :=
  .enter p.region :: p.body

/-- The lines of a part. -/
def lines (p : Part) : List Line :=
  linesAt 0 p.body

end Part

/-- The steps of parts. -/
def stepsOf (parts : List Part) : List Step :=
  parts.flatMap Part.steps

/-- Parts write their bodies in their regions, from wherever writing stood. -/
theorem entriesFrom_stepsOf (region : Region) (level : Nat) (parts : List Part) :
    entriesFrom region level (stepsOf parts) =
      parts.flatMap fun p => entriesFrom p.region 0 p.body := by
  induction parts generalizing region level with
  | nil => rfl
  | cons p parts ih =>
      show entriesFrom p.region 0 (p.body ++ stepsOf parts) = _
      rw [p.nested.entriesFrom_append, ih]
      rfl

/-! ## The lines of a region -/

/-- The lines of a region as it is laid out. -/
def regionLines (steps : List Step) (imports : Imports) (region : Region) : List Line :=
  (blockOf steps imports region).map fun row => .ofChars row.toList

/-- The line of an entry, if it is one. -/
def Entry.line? : Entry → Option Line
  | .line level text => some (.ofChars (indentLine level text).toList)
  | .blank _ => none

/-- Lines are those of entries, in whatever region these are. -/
theorem linesAt_eq (region : Region) (level : Nat) (steps : List Step) :
    linesAt level steps =
      ((entriesFrom region level steps).map Prod.snd).filterMap Entry.line? := by
  rw [lines_entriesFrom region .header, List.filterMap_map]
  exact List.filterMap_congr fun e _ => by rcases e with ⟨_, _ | _⟩ <;> rfl

/-- Empty rows are blank lines. -/
theorem dark_rows (rows : List String) :
    dark ((rows.filter (· ≠ "")).map fun row => .ofChars row.toList) =
      dark (rows.map fun row => .ofChars row.toList) := by
  induction rows with
  | nil => rfl
  | cons row rows ih =>
      by_cases hrow : row = ""
      · rw [List.filter_cons_of_neg (by simpa using hrow), List.map_cons, hrow, ih]
        rfl
      · rw [List.filter_cons_of_pos (by simpa using hrow), List.map_cons, List.map_cons, dark_cons,
          ih, ← dark_cons]

/-- The rows that are written for entries are their lines, blank ones apart. -/
theorem dark_writtenRows (held : List Entry) :
    dark ((writtenRows held).map fun row => .ofChars row.toList) =
      dark (held.filterMap Entry.line?) := by
  rw [writtenRows, List.map_filterMap]
  induction held with
  | nil => rfl
  | cons entry held ih =>
      cases entry with
      | blank count => exact ih
      | line level text =>
          by_cases htext : text = ""
          · subst htext
            exact ih
          · rw [List.filterMap_cons, List.filterMap_cons]
            simp only [htext, if_false, Option.map_some, Entry.line?, indentLine]
            rw [dark_cons, ih, ← dark_cons]

variable {imports : Imports} {region : Region}

/-- What is held in a region is what its parts write. -/
theorem regionEntries_stepsOf (parts : List Part) (h : region ≠ .imports) :
    regionEntries imports (entries (stepsOf parts)) region =
      (parts.filter (·.region = region)).flatMap fun p =>
        (entriesFrom p.region 0 p.body).map Prod.snd := by
  rw [regionEntries, if_neg h, entries, entriesFrom_stepsOf]
  induction parts with
  | nil => rfl
  | cons p parts ih =>
      rw [List.flatMap_cons, List.filter_append, List.map_append, ih]
      have hregion := p.nested.region_eq p.region 0
      by_cases hp : p.region = region
      · rw [List.filter_cons_of_pos (by simpa using hp), List.flatMap_cons,
          List.filter_eq_self.2 fun e he => by simp [hregion e he, hp]]
      · rw [List.filter_cons_of_neg (by simpa using hp),
          List.filter_eq_nil_iff.2 fun e he => by simp [hregion e he, hp]]
        rfl

/-- The lines of a region are those of its parts, blank ones apart. -/
theorem dark_regionLines (parts : List Part) (h : region ≠ .imports) :
    dark (regionLines (stepsOf parts) imports region) =
      dark ((parts.filter (·.region = region)).flatMap Part.lines) := by
  have hlines : (regionEntries imports (entries (stepsOf parts)) region).filterMap Entry.line? =
      (parts.filter (·.region = region)).flatMap Part.lines := by
    rw [regionEntries_stepsOf parts h, List.filterMap_flatMap]
    exact List.flatMap_congr fun p _ => (linesAt_eq p.region 0 p.body).symm
  rw [regionLines, ← dark_rows, blockOf, filter_dropLastEmpty, filter_linesFrom, dark_writtenRows,
    hlines]

/-- What is said of the code of a region is said of that of its parts, if blank lines make no
difference to it. -/
theorem eachCode_regionLines_iff {P : Line → List Line → Prop}
    (hP : ∀ line rest, P line (dark rest) ↔ P line rest) (parts : List Part)
    (h : region ≠ .imports) : EachCode P false (regionLines (stepsOf parts) imports region) ↔
      EachCode P false ((parts.filter (·.region = region)).flatMap Part.lines) := by
  rw [← eachCode_dark_iff hP, dark_regionLines parts h, eachCode_dark_iff hP]

/-- What suits all parts of a region suits its lines. -/
theorem eachCode_regionLines {P : Line → List Line → Prop}
    (hP : ∀ line rest, P line (dark rest) ↔ P line rest) {parts : List Part}
    (h : region ≠ .imports) (hparts : ∀ p ∈ parts, p.region = region → Suits P p.body) :
    EachCode P false (regionLines (stepsOf parts) imports region) := by
  have hbodies : (parts.filter (·.region = region)).flatMap Part.lines =
      linesAt 0 ((parts.filter (·.region = region)).flatMap Part.body) := by
    induction parts.filter (·.region = region) with
    | nil => rfl
    | cons p parts ih =>
        rw [List.flatMap_cons, ih, List.flatMap_cons, p.nested.linesAt_append]
        rfl
  rw [eachCode_regionLines_iff hP parts h, hbodies]
  have hsuits : Suits P ((parts.filter (·.region = region)).flatMap Part.body) := by
    refine suits_flatMap fun p hp => ?_
    obtain ⟨hmem, hregion⟩ := List.mem_filter.1 hp
    exact hparts p hmem (of_decide_eq_true hregion)
  have hall := hsuits 0 [] rfl
  rwa [List.append_nil] at hall

/-! ## The parts of definitions -/

/-- Items, each behind those in front of it, the nearest first. -/
def behindOthers {α : Type} : List α → List α → List (List α × α)
  | _, [] => []
  | front, a :: rest => (front, a) :: behindOthers (a :: front) rest

namespace Context

variable {ctx : Context} {o : Options} {declared : List TypeRef} {i : Imports} {steps : List Step}

/-- The part is the class of an enumeration, as it is generated within what is imported. -/
def IsEnumerationPart (ctx : Context) (i : Imports) (t : TypeRef) (p : Part) : Prop :=
  p.region = .enumerations ∧ ∃ e, ctx.graph.enumeration? t = some e ∧
    (ctx.enumerationClass t e).YieldsWithin i p.steps

/-- The part is the class of a record behind those of others. -/
def IsClassPart (ctx : Context) (o : Options) (i : Imports) (place : List TypeRef × TypeRef)
    (p : Part) : Prop :=
  p.region = .classes ∧ ∃ r, ctx.graph.record? place.2 = some r ∧
    (ctx.recordClass o place.1 place.2 r).YieldsWithin i p.steps

/-- The part holds the functions of a top-level. -/
def IsFunctionsPart (ctx : Context) (i : Imports) (top : TopLevel × Nat) (p : Part) : Prop :=
  p.region = .topLevels ∧
    (ctx.topLevel ctx.graph.records top.1 top.2).YieldsWithin i p.steps

/-- The class of an enumeration is a part. -/
theorem exists_enumerationPart {t : TypeRef} {e : Enumeration}
    (he : ctx.graph.enumeration? t = some e)
    (h : (ctx.enumerationClass t e).YieldsWithin i steps) :
    ∃ p : Part, p.steps = steps ∧ ctx.IsEnumerationPart i t p := by
  obtain ⟨name, -, hrest⟩ := h.yields.bind
  obtain ⟨cases, -, hrest⟩ := hrest.require.bind
  have hnested : Nested (docSteps e.description ++ cases.map .line ++
      if cases.isEmpty && e.description.isNone then [.line "pass"] else []) := by
    refine ((nested_docSteps _).append (nested_lines id cases)).append ?_
    split
    · exact .line _ .nil
    · exact .nil
  obtain rfl := hrest.pure
  exact ⟨⟨.enumerations, _, .line _ ((nested_indented hnested).append (.blank 2 .nil))⟩, rfl, rfl,
    e, he, h⟩

/-- The class of a record is one. -/
theorem exists_classPart {t : TypeRef} {r : Record} (hr : ctx.graph.record? t = some r)
    (h : (ctx.recordClass o declared t r).YieldsWithin i steps) :
    ∃ p : Part, p.steps = steps ∧ ctx.IsClassPart o i (declared, t) p := by
  obtain ⟨name, -, hrest⟩ := h.yields.bind
  obtain ⟨fields, -, hrest⟩ := hrest.bind
  obtain ⟨conversions, hnested, hsteps⟩ : ∃ conversions, Nested conversions ∧
      steps = .enter .classes :: (if ctx.features.dataclasses then [.line "@dataclass"] else [])
        ++ .line ("class " ++ name ++ (if ctx.features.objectBase then "(object)" else "") ++ ":")
        :: indented (classBody ctx.features r.description fields conversions) ++ [.blank 2] := by
    have hrest := Gen.Yields.when hrest
    cases hjust : o.justTypes with
    | true =>
        rw [hjust] at hrest
        obtain ⟨conversions, hconversions, hrest⟩ := Gen.Yields.bind hrest
        obtain rfl := Gen.Yields.pure hconversions
        exact ⟨[], .nil, hrest.pure⟩
    | false =>
        rw [hjust] at hrest
        obtain ⟨conversions, hconversions, hrest⟩ := Gen.Yields.bind hrest
        obtain ⟨returned, values, assignments, rfl, -⟩ := classConversions_of_yields hconversions
        exact ⟨_, nested_classConversions _ _ _ _ _, hrest.pure⟩
  have hdecorated : Nested ((if ctx.features.dataclasses then [.line "@dataclass"] else [])
      ++ .line ("class " ++ name ++ (if ctx.features.objectBase then "(object)" else "") ++ ":")
      :: indented (classBody ctx.features r.description fields conversions) ++ [.blank 2]) := by
    refine .append (.append ?_ (.line _ (nested_indented (nested_classBody _ _ _ hnested))))
      (.blank 2 .nil)
    split
    · exact .line _ .nil
    · exact .nil
  subst hsteps
  exact ⟨⟨.classes, _, hdecorated⟩, rfl, rfl, r, hr, h⟩

/-- So are the functions of a top-level. -/
theorem exists_functionsPart {top : TopLevel × Nat}
    (h : (ctx.topLevel ctx.graph.records top.1 top.2).YieldsWithin i steps) :
    ∃ p : Part, p.steps = steps ∧ ctx.IsFunctionsPart i top p := by
  obtain ⟨names, hint, decode, encode, rfl⟩ : ∃ names hint decode encode,
      steps = topLevelSteps names hint decode encode := by
    obtain ⟨names, -, hrest⟩ := h.yields.bind
    obtain ⟨decode, -, hrest⟩ := hrest.bind
    obtain ⟨encode, -, hrest⟩ := hrest.bind
    dsimp only at hrest
    split at hrest
    · obtain ⟨_, -, hrest⟩ := hrest.bind
      obtain ⟨_, -, hrest⟩ := hrest.bind
      obtain ⟨hint, -, hrest⟩ := hrest.bind
      exact ⟨names, hint, decode, encode, hrest.pure⟩
    · obtain ⟨hint, -, hrest⟩ := hrest.bind
      exact ⟨names, hint, decode, encode, hrest.pure⟩
  have hnested : Nested (topLevelSteps names hint decode encode).tail :=
    .line _ (((nested_indented (.line _ .nil)).append (.blank 2 (.line _ .nil))).append
      (nested_indented (.line _ .nil)) |>.append (.blank 2 .nil))
  exact ⟨⟨.topLevels, _, hnested⟩, rfl, rfl, h⟩

/-- The classes of records are parts, each behind those in front of it. -/
theorem exists_classParts {ts : List TypeRef} (hts : ∀ t ∈ ts, ∃ r, ctx.graph.record? t = some r)
    (h : (ctx.classes o declared ts).YieldsWithin i steps) :
    ∃ parts, steps = stepsOf parts ∧
      List.Forall₂ (ctx.IsClassPart o i) (behindOthers declared ts) parts := by
  induction ts generalizing declared steps with
  | nil =>
      obtain rfl := Gen.YieldsWithin.pure h
      exact ⟨[], rfl, .nil⟩
  | cons t rest ih =>
      obtain ⟨⟨r, hr⟩, hrest⟩ := List.forall_mem_cons.1 hts
      rw [classes, hr] at h
      obtain ⟨first, hfirst, h⟩ := Gen.YieldsWithin.bind h fun first =>
        (keepsImports_classes rest).bind fun others => Gen.keepsImports_pure (first ++ others)
      obtain ⟨others, hothers, h⟩ := Gen.YieldsWithin.bind h fun others =>
        Gen.keepsImports_pure (first ++ others)
      obtain rfl := h.pure
      obtain ⟨p, rfl, hp⟩ := exists_classPart hr hfirst
      obtain ⟨parts, rfl, hparts⟩ := ih hrest hothers
      exact ⟨p :: parts, rfl, .cons hp hparts⟩

/-- Parts are put together as the items of a list are. -/
theorem exists_stepsOf {α : Type} {R : α → Part → Prop} {items : List α}
    {written : List (List Step)}
    (h : List.Forall₂ (fun a steps => ∃ p : Part, p.steps = steps ∧ R a p) items written) :
    ∃ parts, written.flatten = stepsOf parts ∧ List.Forall₂ R items parts := by
  induction h with
  | nil => exact ⟨[], rfl, .nil⟩
  | cons hhead _ ih =>
      obtain ⟨p, rfl, hp⟩ := hhead
      obtain ⟨parts, hflatten, hparts⟩ := ih
      exact ⟨p :: parts, by rw [List.flatten_cons, hflatten]; rfl, .cons hp hparts⟩

/-- The definitions of a module are parts: the classes of enumerations and records, and the
functions of top-levels unless only types are written. -/
theorem parts_of_within (h : (ctx.moduleSteps o).YieldsWithin i steps) :
    ∃ enumerations classes functions, steps = stepsOf (enumerations ++ classes ++ functions) ∧
      List.Forall₂ (ctx.IsEnumerationPart i) ctx.graph.enumerations enumerations ∧
      List.Forall₂ (ctx.IsClassPart o i) (behindOthers [] ctx.graph.records) classes ∧
      List.Forall₂ (ctx.IsFunctionsPart i)
        (if o.justTypes then [] else ctx.graph.topLevels.zipIdx) functions := by
  have hjoined (enumerations : List (List Step)) (classes : List Step)
      (functions : List (List Step)) : Gen.KeepsImports
        (pure (enumerations.flatten ++ classes ++ functions.flatten) : Gen (List Step)) :=
    Gen.keepsImports_pure _
  have hfunctions (enumerations : List (List Step)) (classes : List Step) :
      (do
        let topLevels ←
          if o.justTypes then pure []
          else ctx.graph.topLevels.zipIdx.mapM fun top =>
            ctx.topLevel ctx.graph.records top.1 top.2
        return enumerations.flatten ++ classes ++ topLevels.flatten :
          Gen (List Step)).KeepsImports := by
    cases o.justTypes with
    | true => exact (Gen.keepsImports_pure _).bind fun _ => hjoined _ _ _
    | false =>
        exact (Gen.keepsImports_mapM (fun _ => keepsImports_topLevel _ _ _) _).bind
          fun _ => hjoined _ _ _
  obtain ⟨enumerations, henumerations, h⟩ := h.bind fun enumerations =>
    (keepsImports_classes _).bind fun classes => hfunctions enumerations classes
  obtain ⟨classes, hclasses, h⟩ := h.bind fun classes => hfunctions enumerations classes
  obtain ⟨functions, hfunctions, rfl⟩ : ∃ functions,
      List.Forall₂ (fun top part =>
          (ctx.topLevel ctx.graph.records top.1 top.2).YieldsWithin i part)
        (if o.justTypes then [] else ctx.graph.topLevels.zipIdx) functions ∧
      steps = enumerations.flatten ++ classes ++ functions.flatten := by
    cases hjust : o.justTypes with
    | true =>
        rw [hjust] at h
        obtain ⟨functions, hpure, h⟩ := Gen.YieldsWithin.bind h fun _ => hjoined _ _ _
        obtain rfl := Gen.YieldsWithin.pure hpure
        exact ⟨[], .nil, h.pure⟩
    | false =>
        rw [hjust] at h
        obtain ⟨functions, hmap, h⟩ := Gen.YieldsWithin.bind h fun _ => hjoined _ _ _
        exact ⟨functions, Gen.YieldsWithin.mapM hmap fun _ => keepsImports_topLevel _ _ _, h.pure⟩
  have hwritten : List.Forall₂ (fun t part => ∃ p : Part, p.steps = part ∧
      ctx.IsEnumerationPart i t p) ctx.graph.enumerations enumerations := by
    have hyields := henumerations.mapM fun t => by
      split
      · exact keepsImports_enumerationClass _ _
      · exact Gen.keepsImports_pure _
    refine ((List.forall₂_and_left _ _).2 ⟨fun t => TypeGraph.mem_enumerations.1, hyields⟩).imp ?_
    rintro t part ⟨⟨e, he⟩, hpart⟩
    rw [he] at hpart
    exact exists_enumerationPart he hpart
  obtain ⟨es, hes, hesparts⟩ := exists_stepsOf hwritten
  obtain ⟨cs, rfl, hcs⟩ := exists_classParts (fun t => TypeGraph.mem_records.1) hclasses
  obtain ⟨fs, hfs, hfsparts⟩ := exists_stepsOf (hfunctions.imp fun _ _ => exists_functionsPart)
  exact ⟨es, cs, fs, by rw [hes, hfs, stepsOf, stepsOf, stepsOf, stepsOf, List.flatMap_append,
    List.flatMap_append], hesparts, hcs, hfsparts⟩

end Context

/-! ## Support functions and header -/

/-- The steps that a page is laid out from. Types only need no support functions and no header. -/
def pageSteps (o : Options) (functions : List TopLevelNames) (steps : List Step)
    (required : Requirements) : List Step :=
  if o.justTypes then steps else writtenSteps o functions steps required

/-- What a page imports. -/
def pageImports (o : Options) (required : Requirements) : Imports :=
  if o.justTypes then required.imports else (required.closeImports o.features).imports

/-- A rendered module is laid out from what its steps end with. -/
theorem exists_page {g : TypeGraph} {o : Options} {module : String}
    (h : renderModule g o = .ok module) :
    ∃ steps required, ((contextOf g o).moduleSteps o).Runs .empty steps required ∧
      ∃ front ∈ ["", "# -*- coding: utf-8 -*-\n"],
        module = front ++ layout (pageSteps o (NameTable.assign g o).topLevels steps required)
          (pageImports o required) := by
  unfold renderModule renderNamed at h
  dsimp only at h
  split at h
  next steps required hrun =>
    refine ⟨steps, required, hrun, ?_⟩
    cases h
    have htext : moduleText o (NameTable.assign g o).topLevels steps required =
        let text := layout (pageSteps o (NameTable.assign g o).topLevels steps required)
          (pageImports o required)
        if o.features.markedText && text.toList.any (fun c => 0x80 ≤ c.toNat) then
          "# -*- coding: utf-8 -*-\n" ++ text
        else text := by
      unfold moduleText pageSteps pageImports
      cases o.justTypes <;> rfl
    rw [htext]
    dsimp only
    split
    · exact ⟨_, List.mem_cons_of_mem _ List.mem_cons_self, rfl⟩
    · exact ⟨"", List.mem_cons_self, String.empty_append.symm⟩
  next => cases h

/-- The part of the type variables. -/
def variablesPart (required : Requirements) : Part where
  region := .prelude
  body :=
    (if required.used.any Converter.usesTypeVariable then [.line "T = TypeVar(\"T\")"] else [])
    ++ if required.uses .toEnum then [.line "EnumT = TypeVar(\"EnumT\", bound=Enum)"] else []
  nested := by
    refine .append ?_ ?_ <;>
      · split
        · exact .line _ .nil
        · exact .nil

/-- The part of the support functions. -/
def supportPart (f : Features) (required : Requirements) : Part where
  region := .support
  body := required.used.flatMap (Converter.definition f)
  nested := nested_flatMap fun c _ =>
    .line _ ((nested_indented (nested_lines id (c.body f))).append (.blank 2 .nil))

/-- The part of the header. -/
def headerPart (parsesDates : Bool) (functions : List TopLevelNames) : Part where
  region := .header
  body := (headerSteps parsesDates functions).tail
  nested := nested_lines id _

/-- The parts of a page besides those of its definitions. -/
def commonParts (o : Options) (functions : List TopLevelNames) (required : Requirements) :
    List Part :=
  if o.justTypes then []
  else (if o.features.typeHints then [variablesPart required] else [])
    ++ [supportPart o.features required, headerPart (required.uses .fromDatetime) functions]

/-- A page is laid out from the parts of its definitions and those. -/
theorem pageSteps_eq (o : Options) (functions : List TopLevelNames) (parts : List Part)
    (required : Requirements) : pageSteps o functions (stepsOf parts) required =
      stepsOf (parts ++ commonParts o functions required) := by
  unfold pageSteps commonParts stepsOf
  split
  · rw [List.append_nil]
  · rw [List.flatMap_append, writtenSteps, List.append_assoc, Requirements.definitions]
    refine congrArg (_ ++ ·) ?_
    split <;>
      · simp only [List.append_assoc, List.cons_append, List.nil_append, List.flatMap_cons,
          List.flatMap_nil, List.append_nil]
        rfl

/-- The common parts are not in the regions of definitions. -/
theorem region_commonParts {o : Options} {functions : List TopLevelNames}
    {required : Requirements} {p : Part} (hp : p ∈ commonParts o functions required) :
    p.region = .prelude ∨ p.region = .support ∨ p.region = .header := by
  unfold commonParts at hp
  split at hp
  · cases hp
  · rcases List.mem_append.1 hp with hp | hp
    · split at hp
      · rw [List.mem_singleton.1 hp]
        exact .inl rfl
      · cases hp
    · rcases List.mem_cons.1 hp with rfl | hp
      · exact .inr (.inl rfl)
      · rw [List.mem_singleton.1 hp]
        exact .inr (.inr rfl)

/-- A rendered module is laid out from the parts of its definitions and the common ones, and these
are written within what it imports. -/
theorem exists_parts {g : TypeGraph} {o : Options} {module : String}
    (h : renderModule g o = .ok module) :
    ∃ steps required enumerations classes functions,
      ((contextOf g o).moduleSteps o).Runs .empty steps required ∧
      (∃ front ∈ ["", "# -*- coding: utf-8 -*-\n"],
        module = front ++ layout (pageSteps o (NameTable.assign g o).topLevels steps required)
          (pageImports o required)) ∧
      pageSteps o (NameTable.assign g o).topLevels steps required = stepsOf (enumerations ++
        classes ++ functions ++ commonParts o (NameTable.assign g o).topLevels required) ∧
      List.Forall₂ ((contextOf g o).IsEnumerationPart (pageImports o required)) g.enumerations
        enumerations ∧
      List.Forall₂ ((contextOf g o).IsClassPart o (pageImports o required))
        (behindOthers [] g.records) classes ∧
      List.Forall₂ ((contextOf g o).IsFunctionsPart (pageImports o required))
        (if o.justTypes then [] else g.topLevels.zipIdx) functions := by
  obtain ⟨steps, required, hrun, hmodule⟩ := exists_page h
  have himports : required.imports ⊆ pageImports o required := by
    unfold pageImports
    split
    · exact Imports.subset_refl _
    · exact Requirements.subset_closeImports _ _
  obtain ⟨enumerations, classes, functions, rfl, hparts⟩ :=
    Context.parts_of_within ⟨_, _, hrun, himports⟩
  exact ⟨_, required, enumerations, classes, functions, hrun, hmodule, pageSteps_eq _ _ _ _,
    hparts⟩

end TypedJson.Code
