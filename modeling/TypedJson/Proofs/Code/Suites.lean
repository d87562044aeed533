import TypedJson.Proofs.Code.Outlines

/-!
# No block is empty

A line that starts with `class`, `def` or `if` opens a block, and what stands further to the right
behind it is in the block. Read `block_filled` first: in the definitions of a rendered module, every
such line has a line in its block that is neither blank nor a comment. The outline of a definition
is written so, and other lines open no block (`spares_fillsBlock`).
-/

namespace TypedJson.Code

open Script

/-- A line that opens a block has a line in it. -/
def FillsBlock (line : Line) (rest : List Line) : Prop :=
  opensBlock line.text → Filled line.column rest

/-- Blank lines make no difference to what is claimed of lines that open blocks. -/
theorem fillsBlock_dark (line : Line) (rest : List Line) :
    FillsBlock line (dark rest) ↔ FillsBlock line rest :=
  imp_congr_right fun _ => filled_dark line.column rest

/-- Nothing is claimed of lines that open none. -/
theorem stands_fillsBlock {text : String} (hstart : StartsCode text)
    (h : opensBlock text.toList = false) : Stands FillsBlock text := by
  refine ⟨hstart, fun column rest hopens => ?_⟩
  rw [h] at hopens
  cases hopens

/-- So nothing is claimed of statements. -/
theorem spares_fillsBlock : Spares FillsBlock :=
  fun _ h => (stands_fillsBlock h.starts h.opens).holds

/-- The first line of a block that is filled is as it is claimed to be. -/
theorem heads_fillsBlock {text : String} (hstart : StartsCode text) : Heads FillsBlock text :=
  ⟨hstart, fun _ _ hfilled _ => hfilled⟩

namespace Context

variable {ctx : Context} {fields : List Field}

/-- The outline of a class leaves no block empty. -/
theorem suitsClass_fillsBlock (returned : Option String)
    (hnames : ∀ f ∈ fields, ctx.IsFieldName f.name) :
    SuitsClass FillsBlock ctx.features fields returned where
  declarations hhints field hfield := by
    obtain ⟨hname, hfree, -⟩ := hnames field hfield
    have htext : (fieldLine ctx.features field).toList = field.name.toList ++ ':' :: (' ' ::
        (field.hint ++ if ctx.features.dataclasses && field.optional then " = None" else "").toList)
        := by
      unfold fieldLine Field.declaration
      rw [if_pos rfl]
      simp only [String.toList_append, List.append_assoc]
      rfl
    refine stands_fillsBlock (((hname.startsCode.append _).append _).append _) ?_
    rw [htext]
    exact opensBlock_name hname (not_mem_globalForbidden.1 hfree).1 (by decide) _
  constructor := by
    have hdef : StartsCode "def __init__(" := startsCode_ofList (by decide)
    exact heads_fillsBlock (((hdef.append _).append _).append _ |>.append _)
  static := stands_fillsBlock (startsCode_ofList (by decide)) (by decide)
  fromDict := by
    have hdef : StartsCode "def from_dict(obj: Any) -> " := startsCode_ofList (by decide)
    cases returned with
    | none => exact heads_fillsBlock (startsCode_ofList (by decide))
    | some hint => exact heads_fillsBlock ((hdef.append hint).append _)
  toDict := by
    unfold toDictSignature
    split <;> exact heads_fillsBlock (startsCode_ofList (by decide))
  result := by
    unfold resultLine
    split <;> exact stands_fillsBlock (startsCode_ofList (by decide)) (by decide)
  presence field _ := by
    have hif : StartsCode "if self." := startsCode_ofList (by decide)
    exact heads_fillsBlock ((hif.append _).append _)

variable {g : TypeGraph} {o : Options} {i : Imports} {p : Part}

/-- The classes of enumerations leave no block empty. -/
theorem IsEnumerationPart.fillsBlocks {t : TypeRef}
    (h : (contextOf g o).IsEnumerationPart i t p) : Suits FillsBlock p.body := by
  have hclass : StartsCode "class " := startsCode_ofList (by decide)
  exact h.suits spares_fillsBlock fun name _ _ => heads_fillsBlock ((hclass.append _).append _)

/-- Neither do the classes of records. -/
theorem IsClassPart.fillsBlocks {place : List TypeRef × TypeRef}
    (h : (contextOf g o).IsClassPart o i place p) : Suits FillsBlock p.body := by
  have hclass : StartsCode "class " := startsCode_ofList (by decide)
  refine IsClassPart.suits spares_fillsBlock (NameTable.apart_assign g o) h
    fun name fields returned hwrites => ⟨fun _ => ?_, ?_, suitsClass_fillsBlock _ hwrites.names⟩
  · exact stands_fillsBlock (startsCode_ofList (by decide)) (by decide)
  · exact heads_fillsBlock ((hclass.append _).append _ |>.append _)

/-- Neither do the functions of top-levels. -/
theorem IsFunctionsPart.fillsBlocks {top : TopLevel × Nat}
    (h : ctx.IsFunctionsPart i top p) : Suits FillsBlock p.body := by
  have hdef : StartsCode "def " := startsCode_ofList (by decide)
  refine h.suits spares_fillsBlock fun names hint _ _ => ?_
  cases hint with
  | none =>
      exact ⟨heads_fillsBlock ((hdef.append _).append _),
        heads_fillsBlock ((hdef.append _).append _)⟩
  | some hint =>
      exact ⟨heads_fillsBlock ((((hdef.append _).append _).append _).append _),
        heads_fillsBlock ((((hdef.append _).append _).append _).append _)⟩

end Context

/-- In the definitions of a rendered module, no block is empty: no docstring is left open, and each
line of code that starts with `class`, `def` or `if` has a line in its block that is neither blank
nor a comment. -/
theorem block_filled {g : TypeGraph} {o : Options} {module : String}
    (h : renderModule g o = .ok module) :
    ∃ steps required, ((contextOf g o).moduleSteps o).Runs .empty steps required ∧
      let page := pageSteps o (NameTable.assign g o).topLevels steps required
      let imports := pageImports o required
      (∃ front ∈ ["", "# -*- coding: utf-8 -*-\n"], module = front ++ layout page imports) ∧
      ∀ region ∈ [.enumerations, .classes, .topLevels],
        openBehind (regionLines page imports region) = false ∧
        ∀ before line after, regionLines page imports region = before ++ line :: after →
          isCode (openBehind before) line → opensBlock line.text → Filled line.column after := by
  obtain ⟨steps, required, enumerations, classes, functions, hrun, hmodule, hpage,
    henumerations, hclasses, hfunctions⟩ := exists_parts h
  refine ⟨steps, required, hrun, hmodule, fun region hregion => ?_⟩
  have hregions : region ≠ .imports ∧ region ≠ .prelude ∧ region ≠ .support ∧
      region ≠ .header := by
    rcases List.mem_cons.1 hregion with rfl | hregion
    · decide
    · rcases List.mem_cons.1 hregion with rfl | hregion
      · decide
      · rw [List.mem_singleton.1 hregion]
        decide
  rw [hpage]
  refine eachCode_iff.1 (eachCode_regionLines fillsBlock_dark hregions.1 fun p hp hpregion => ?_)
  rcases List.mem_append.1 hp with hp | hp
  · rcases List.mem_append.1 hp with hp | hp
    · rcases List.mem_append.1 hp with hp | hp
      · obtain ⟨t, -, ht⟩ := exists_of_forall₂ henumerations hp
        exact ht.fillsBlocks
      · obtain ⟨place, -, hplace⟩ := exists_of_forall₂ hclasses hp
        exact hplace.fillsBlocks
    · obtain ⟨top, -, htop⟩ := exists_of_forall₂ hfunctions hp
      exact htop.fillsBlocks
  · have hcommon := region_commonParts hp
    rw [hpregion] at hcommon
    simp [hregions] at hcommon

/-- An enumeration without cases and a record without properties. -/
def emptyGraph : TypeGraph where
  types := #[⟨.enumeration ⟨"Kind", [], none⟩, none⟩,
    ⟨.record ⟨"Note", [], some "Free text."⟩, none⟩]
  topLevels := [⟨"Note", ⟨1⟩⟩]

/-- A class with nothing but a description has that in its block, and its constructor has a word. -/
theorem block_filled_empty_class :
    let o : Options := ⟨.v35, true, true⟩
    let module := "from enum import Enum\n\n\nclass Kind(Enum):\n    pass\n\n\nclass Note:\n" ++
      "    \"\"\"Free text.\"\"\"\n\n    def __init__(self):\n        pass\n"
    let body : List Line := [⟨4, "\"\"\"Free text.\"\"\"".toList⟩, ⟨0, []⟩,
      ⟨4, "def __init__(self):".toList⟩, ⟨8, "pass".toList⟩]
    renderModule emptyGraph o = .ok module ∧
      ∃ steps required, ((contextOf emptyGraph o).moduleSteps o).Runs .empty steps required ∧
        regionLines steps required.imports .classes = ⟨0, "class Note:".toList⟩ :: body ∧
        Filled 0 body ∧ Filled 4 [⟨8, "pass".toList⟩] := by
  intro o module body
  have hrender : renderModule emptyGraph o = .ok module := by decide +kernel
  obtain ⟨steps, required, hrun, -, hfilled⟩ := block_filled hrender
  have hknown : ((contextOf emptyGraph o).moduleSteps o).Runs .empty [.enter .enumerations,
      .line "class Kind(Enum):", .indent, .line "pass", .dedent, .blank 2, .enter .classes,
      .line "class Note:", .indent, .line "\"\"\"Free text.\"\"\"", .blank 1,
      .line "def __init__(self):", .indent, .line "pass", .dedent, .dedent, .blank 2]
      ⟨[], [("enum", ["Enum"])], []⟩ := Prod.ext (by decide +kernel) rfl
  obtain ⟨hsteps, hrequired⟩ := Prod.mk.inj (hrun.symm.trans hknown)
  have hlines : regionLines steps required.imports .classes =
      ⟨0, "class Note:".toList⟩ :: body := by
    rw [Except.ok.inj hsteps, hrequired]
    decide +kernel
  refine ⟨hrender, steps, required, hrun, hlines, ?_, ?_⟩
  · exact (hfilled .classes (by decide)).2 [] _ body hlines (by decide) (by decide)
  · exact (hfilled .classes (by decide)).2 (⟨0, "class Note:".toList⟩ :: body.take 2) _ _ hlines
      (by decide) (by decide)

end TypedJson.Code
