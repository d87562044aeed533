import TypedJson.Proofs.Code.Blocks
import TypedJson.Proofs.Code.WrittenModules
import TypedJson.Proofs.Script.Docstring

/-!
# Modules of ASCII

Where identifiers are of ASCII, so is all that a module takes from labels and keys: words are
identifiers, and other texts stand in literals, which are escaped. Only descriptions are written as
they are. A module is of ASCII if they are, and one that is not tells its coding on its first line
(`ascii_of_descriptions`).
-/

namespace TypedJson.Code

open Script Text

/-! ## Texts of ASCII -/

variable {front back : String}

/-- Texts of ASCII one behind the other are of ASCII. -/
theorem IsAscii.append (h : IsAscii front) (h' : IsAscii back) : IsAscii (front ++ back) := by
  unfold IsAscii
  rw [String.toList_append]
  exact List.forall_mem_append.2 ⟨h, h'⟩

/-- So are they with such a text between them. -/
theorem IsAscii.intercalate {separator : String} (hseparator : IsAscii separator)
    {texts : List String} (h : ∀ text ∈ texts, IsAscii text) :
    IsAscii (separator.intercalate texts) := by
  induction texts with
  | nil => exact isAscii_fixed rfl
  | cons first texts ih =>
      obtain ⟨hfirst, htexts⟩ := List.forall_mem_cons.1 h
      cases texts with
      | nil => exact hfirst
      | cons second texts =>
          rw [String.intercalate_cons_cons]
          exact (hfirst.append hseparator).append (ih htexts)

/-- Characters of a vocabulary of ASCII are of ASCII. -/
theorem isAscii_of_isOf {vocabulary : List String} (hV : ∀ w ∈ vocabulary, IsAscii w)
    {text : String} (h : ∀ c ∈ text.toList, IsOf vocabulary c) : IsAscii text := by
  intro c hc
  rcases h c hc with hascii | ⟨w, hw, hmem⟩
  · exact hascii
  · exact hV w hw c hmem

/-! ## Descriptions -/

section Descriptions

variable {p : Char → Prop} {cs : List Char}

/-- What holds of the characters of a text and of a backslash holds of the escaped text. -/
theorem forall_escapeDoc (hback : p '\\') (h : ∀ c ∈ cs, p c) : ∀ c ∈ escapeDoc cs, p c := by
  induction cs using escapeDoc_induction with
  | nil => exact h
  | backslash rest ih =>
      exact List.forall_mem_cons.2 ⟨hback, List.forall_mem_cons.2
        ⟨hback, ih (List.forall_mem_cons.1 h).2⟩⟩
  | run rest ih =>
      simp only [List.forall_mem_cons] at h
      simp only [escapeDoc, List.forall_mem_cons]
      exact ⟨hback, h.1, hback, h.1, hback, h.1, ih h.2.2.2⟩
  | plain c rest hc hrun ih =>
      rw [escapeDoc_plain hc hrun]
      rw [List.forall_mem_cons] at h ⊢
      exact ⟨h.1, ih h.2⟩

/-- It holds of the text with its last quote escaped. -/
theorem forall_escapeLastQuote (hback : p '\\') (h : ∀ c ∈ cs, p c) :
    ∀ c ∈ escapeLastQuote cs, p c := by
  unfold escapeLastQuote
  split
  next => exact h
  next before _ hreverse =>
    have hcs : ∀ c ∈ '"' :: before, p c := fun c hc =>
      h c (List.mem_reverse.1 (hreverse ▸ hc))
    obtain ⟨hquote, hbefore⟩ := List.forall_mem_cons.1 hcs
    simp only [List.forall_mem_append, List.forall_mem_cons, List.mem_reverse]
    exact ⟨hbefore, hback, hquote, List.forall_mem_nil _⟩
  next => exact h

/-- It holds of every line of the text. -/
theorem forall_lines (h : ∀ c ∈ cs, p c) : ∀ line ∈ lines cs, ∀ c ∈ line, p c := by
  induction cs using lines_induction with
  | last cs hcs =>
      by_cases hne : cs = []
      · rw [hne]
        exact List.forall_mem_nil _
      · rw [lines_last hcs hne]
        exact List.forall_mem_singleton.2 h
  | line cs rest hcs ih =>
      obtain ⟨hline, hrest⟩ := List.forall_mem_append.1 h
      rw [lines_line hcs]
      refine List.forall_mem_cons.2 ⟨fun c hc => hline c ?_, ih (List.forall_mem_cons.1 hrest).2⟩
      obtain ⟨kept, hkept, heq⟩ | ⟨-, heq⟩ := withoutReturn_cases cs
      · rw [hkept]
        exact List.mem_append_left _ (heq ▸ hc)
      · exact heq ▸ hc

/-- With quotes, it holds of every line of the docstring of the text. -/
theorem forall_docstringChars (hback : p '\\') (hquote : p '"') (h : ∀ c ∈ cs, p c) :
    ∀ line ∈ docstringChars cs, ∀ c ∈ line, p c := by
  have hlines := forall_lines (forall_escapeLastQuote hback (forall_escapeDoc hback h))
  have htriple : ∀ c ∈ tripleQuote, p c := by
    intro c hc
    rwa [List.eq_of_mem_replicate (n := 3) hc]
  unfold docstringChars
  split
  next => exact List.forall_mem_singleton.2 (List.forall_mem_append.2 ⟨htriple, htriple⟩)
  next only heq =>
    rw [heq, List.forall_mem_singleton] at hlines
    exact List.forall_mem_singleton.2 (List.forall_mem_append.2
      ⟨List.forall_mem_append.2 ⟨htriple, hlines⟩, htriple⟩)
  next first rest _ heq =>
    rw [heq, List.forall_mem_cons] at hlines
    exact List.forall_mem_cons.2 ⟨List.forall_mem_append.2 ⟨htriple, hlines.1⟩,
      List.forall_mem_append.2 ⟨hlines.2, List.forall_mem_singleton.2 htriple⟩⟩

end Descriptions

/-- A description of ASCII is written with lines of ASCII. -/
theorem isAscii_of_isNote {descriptions : List String} (h : ∀ text ∈ descriptions, IsAscii text)
    {text : String} (htext : IsNote descriptions text) : IsAscii text := by
  obtain ⟨description, hdescription, htext | htext⟩ := htext
  · obtain ⟨line, hline, heq⟩ := List.mem_map.1 htext
    obtain ⟨cs, hcs, rfl⟩ := List.mem_map.1 hline
    rw [← Step.line.inj heq, IsAscii, String.toList_ofList]
    exact forall_docstringChars (by decide) (by decide) (h description hdescription) cs hcs
  · obtain ⟨line, hline, heq⟩ := List.mem_map.1 htext
    rw [← Step.line.inj heq]
    refine IsAscii.append (isAscii_fixed rfl) ?_
    rw [IsAscii, String.toList_ofList]
    exact forall_lines (h description hdescription) line hline

/-! ## Layout -/

/-- All lines among the entries are of ASCII. -/
def EntriesAscii (held : List Entry) : Prop :=
  ∀ level text, .line level text ∈ held → IsAscii text

/-- The entries of steps have the lines of the steps. -/
theorem entriesAscii_entriesFrom {steps : List Step} (h : AllLines IsAscii steps) (region : Region)
    (level : Nat) : EntriesAscii ((entriesFrom region level steps).map Prod.snd) := by
  induction steps generalizing region level with
  | nil => exact fun _ _ h => nomatch h
  | cons step steps ih =>
      have hsteps : AllLines IsAscii steps := fun text htext =>
        h text (List.mem_cons_of_mem _ htext)
      cases step with
      | enter other => exact ih hsteps other 0
      | line text =>
          intro level' text' hmem
          rcases List.mem_cons.1 hmem with heq | hmem
          · rw [(Entry.line.inj heq).2]
            exact h text List.mem_cons_self
          · exact ih hsteps region level level' text' hmem
      | blank count =>
          intro level' text' hmem
          rcases List.mem_cons.1 hmem with heq | hmem
          · cases heq
          · exact ih hsteps region level level' text' hmem
      | indent => exact ih hsteps region (level + 1)
      | dedent => exact ih hsteps region (level - 1)

/-- Import statements are of ASCII if what is imported is. -/
theorem isAscii_importLines {imports : Imports} (h : imports.IsAscii) :
    ∀ text ∈ imports.lines, IsAscii text := by
  refine List.forall_mem_append.2 ⟨List.forall_mem_map.2 fun entry hentry => ?_,
    List.forall_mem_map.2 fun module hmodule => ?_⟩
  · obtain ⟨hmodule, hnames⟩ := h.names entry hentry
    exact (((isAscii_fixed rfl : IsAscii "from ").append hmodule).append
      (isAscii_fixed rfl)).append (IsAscii.intercalate (isAscii_fixed rfl) hnames)
  · exact (isAscii_fixed rfl : IsAscii "import ").append (h.modules module hmodule)

/-- An indented line of ASCII is of ASCII. -/
theorem isAscii_indentLine {text : String} (h : IsAscii text) (level : Nat) :
    IsAscii (indentLine level text) := by
  unfold indentLine
  split
  · exact isAscii_fixed rfl
  · refine IsAscii.append ?_ h
    rw [indentation, IsAscii, String.toList_ofList]
    intro c hc
    rw [List.eq_of_mem_replicate hc]
    decide

/-- A region with lines of ASCII is of ASCII. -/
theorem isAscii_regionText {held : List Entry} (h : EntriesAscii held) :
    IsAscii (regionText held) := by
  refine IsAscii.intercalate (isAscii_fixed rfl) fun text htext => ?_
  have hmem := (List.dropWhile_sublist _).subset (List.mem_reverse.1 htext)
  exact forall_linesFrom (isAscii_fixed rfl)
    (fun level text hline => isAscii_indentLine (h level text hline) level) false 0 text
    (List.mem_reverse.1 hmem)

/-- Lines and imports of ASCII are laid out as a text of ASCII. -/
theorem isAscii_layout {steps : List Step} (h : AllLines IsAscii steps) {imports : Imports}
    (himports : imports.IsAscii) : IsAscii (layout steps imports) := by
  have hregion (region : Region) : EntriesAscii (regionEntries imports (entries steps) region) := by
    unfold regionEntries
    split
    · intro level text hmem
      obtain ⟨line, hline, heq⟩ := List.mem_map.1 hmem
      rw [← (Entry.line.inj heq).2]
      exact isAscii_importLines himports line hline
    · intro level text hmem
      obtain ⟨entry, hentry, heq⟩ := List.mem_map.1 hmem
      exact entriesAscii_entriesFrom h .header 0 level text
        (heq ▸ List.mem_map_of_mem (List.mem_filter.1 hentry).1)
  refine IsAscii.append (IsAscii.intercalate (isAscii_fixed rfl) fun text htext => ?_)
    (isAscii_fixed rfl)
  obtain ⟨region, -, rfl⟩ := List.mem_map.1 (List.mem_filter.1 htext).1
  exact isAscii_regionText (hregion region)

/-! ## Modules of the oldest version -/

/-- Where identifiers are of ASCII, all words are. -/
theorem isAscii_vocabulary {g : TypeGraph} {o : Options} (ho : o.version = .v27) :
    ∀ w ∈ (NameTable.assign g o).vocabulary, IsAscii w := by
  have hfixed : ∀ w ∈ fixedWords, IsAscii w :=
    forall_texts (fun _ => isAscii_fixed) (by repeat' constructor) (by decide +kernel)
  have hgrammar : o.features.grammar = .ascii := by
    rw [Options.features, ho]
    rfl
  refine List.forall_mem_append.2 ⟨hfixed, fun w hw c hc => ?_⟩
  have hpart := (NameTable.isIdentifier_words hw).admits c hc
  rw [hgrammar] at hpart
  exact Naming.Grammar.toNat_of_isPart_ascii hpart

/-- A module of version 2.7 is of ASCII if the descriptions of the graph are, whatever its labels,
keys, cases and top-levels are. If it is not of ASCII, its first line tells its coding. -/
theorem ascii_of_descriptions {g : TypeGraph} {o : Options} (ho : o.version = .v27)
    {module : String} (h : renderModule g o = .ok module) :
    ((∀ text ∈ g.descriptions, IsAscii text) → IsAscii module) ∧
      (¬ IsAscii module → ∃ rest, module = "# -*- coding: utf-8 -*-\n" ++ rest) := by
  have hmarked : o.features.markedText := by
    rw [Options.features, ho]
    rfl
  obtain ⟨steps, imports, hlines, himports, hmodule⟩ := exists_laidOut h
  refine ⟨fun hdescriptions => ?_, fun hnot => ?_⟩
  · have hascii : AllLines IsAscii steps := fun text htext => by
      rcases hlines text htext with hworded | hnote
      · exact isAscii_of_isOf (isAscii_vocabulary ho) hworded.chars
      · exact isAscii_of_isNote hdescriptions hnote
    have hlayout := isAscii_layout hascii himports
    rw [hmodule, if_neg fun hcoded => hcoded.2 hlayout]
    exact hlayout
  · by_cases hlayout : IsAscii (layout steps imports)
    · rw [hmodule, if_neg fun hcoded => hcoded.2 hlayout] at hnot
      exact absurd hlayout hnot
    · rw [hmodule, if_pos ⟨hmarked, hlayout⟩]
      exact ⟨_, rfl⟩

/-- Boxes that have a size, with a description. -/
def boxGraph (description : String) : TypeGraph where
  types := #[⟨.enumeration ⟨"Größe", ["groß"], some description⟩, none⟩,
    ⟨.record ⟨"Kästchen", [⟨"größe", ⟨0⟩, none⟩], none⟩, none⟩]
  topLevels := [⟨"Würfel", ⟨1⟩⟩]

/-- Labels, keys, cases and top-levels beyond ASCII are written in ASCII. -/
theorem ascii_of_descriptions_boxes :
    let o : Options := ⟨.v27, true, true⟩
    let module := "from enum import Enum\n\n\nclass GrE(Enum):\n    \"\"\"A size.\"\"\"\n" ++
      "    GRO = u\"gro\\u00df\"\n\n\nclass KStchen(object):\n    def __init__(self, gr_e):\n" ++
      "        self.gr_e = gr_e\n"
    o.version = .v27 ∧ renderModule (boxGraph "A size.") o = .ok module ∧
      (∀ text ∈ (boxGraph "A size.").descriptions, IsAscii text) ∧ IsAscii module := by
  intro o module
  have hrender : renderModule (boxGraph "A size.") o = .ok module := by decide +kernel
  have hdescription : ∀ text ∈ (boxGraph "A size.").descriptions, IsAscii text :=
    List.forall_mem_singleton.2 (isAscii_fixed rfl)
  exact ⟨rfl, hrender, hdescription, (ascii_of_descriptions rfl hrender).1 hdescription⟩

end TypedJson.Code
