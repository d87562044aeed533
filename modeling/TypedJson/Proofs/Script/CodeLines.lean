import TypedJson.Code.Module
import TypedJson.Proofs.Outcome
import TypedJson.Proofs.Script.Docstring
import TypedJson.Proofs.Script.Lines

/-!
# Lines of code

Lines of a module may be blank, comments, or lines of a docstring, and only the others are code.
Whether a docstring is open is read from the lines in front, as the language reads them: up to three
quotes in a row that are not escaped (`leavesOpen`). What holds of the code that steps write is
followed through the steps (`Suits`). A docstring holds no code, whatever its text, and none is left
open behind it (`suits_docSteps`).
-/

namespace TypedJson.Script

open Code Text

/-! ## Reading lines -/

/-- The line is neither blank nor a comment. -/
def Line.isSolid (line : Line) : Bool :=
  !line.text.isEmpty && line.text.head? != some '#'

/-- A docstring is open behind a line: one was and is not closed there, or one is opened there and
not closed. -/
def leavesOpen (isOpen : Bool) (line : Line) : Bool :=
  if isOpen then (readTripled line.text).isNone
  else tripleQuote.isPrefixOf line.text && (readTripled (line.text.drop 3)).isNone

/-- A docstring is open behind lines. -/
def openBehind (lines : List Line) : Bool :=
  lines.foldl leavesOpen false

/-- The line is code: neither blank nor a comment, and no line of a docstring. -/
def isCode (isOpen : Bool) (line : Line) : Bool :=
  !isOpen && line.isSolid && !tripleQuote.isPrefixOf line.text

/-- Each line of code is as the predicate says, with the lines behind it, and no docstring is left
open. -/
def EachCode (P : Line → List Line → Prop) : Bool → List Line → Prop
  | isOpen, [] => isOpen = false
  | isOpen, line :: rest =>
    (isCode isOpen line → P line rest) ∧ EachCode P (leavesOpen isOpen line) rest

variable {P : Line → List Line → Prop} {isOpen : Bool} {written rest : List Line}

/-- Each line of code is so if it is wherever it stands. -/
theorem eachCode_iff : EachCode P isOpen written ↔ written.foldl leavesOpen isOpen = false ∧
    ∀ before line after, written = before ++ line :: after →
      isCode (before.foldl leavesOpen isOpen) line → P line after := by
  induction written generalizing isOpen with
  | nil => exact (and_iff_left fun before line after h => by simp at h).symm
  | cons first written ih =>
      constructor
      · rintro ⟨hfirst, hwritten⟩
        obtain ⟨hclosed, hsplit⟩ := ih.1 hwritten
        refine ⟨hclosed, fun before line after heq => ?_⟩
        cases before with
        | nil =>
            obtain ⟨rfl, rfl⟩ := List.cons.inj heq
            exact hfirst
        | cons other before =>
            obtain ⟨rfl, rfl⟩ := List.cons.inj heq
            exact hsplit before line after rfl
      · rintro ⟨hclosed, hsplit⟩
        refine ⟨hsplit [] first written rfl, ih.2 ⟨hclosed, fun before line after heq => ?_⟩⟩
        exact hsplit (first :: before) line after (congrArg (first :: ·) heq)

/-- What is said of lines of code may be said otherwise. -/
theorem EachCode.imp {Q : Line → List Line → Prop} (h : EachCode P isOpen written)
    (hPQ : ∀ line rest, P line rest → Q line rest) : EachCode Q isOpen written := by
  induction written generalizing isOpen with
  | nil => exact h
  | cons first written ih => exact ⟨fun hcode => hPQ _ _ (h.1 hcode), ih h.2⟩

/-- Lines behind lines are read from where these leave off. -/
theorem eachCode_append {front back : List Line}
    (hfront : EachCode (fun line rest => P line (rest ++ back)) isOpen front)
    (hback : EachCode P false back) : EachCode P isOpen (front ++ back) := by
  induction front generalizing isOpen with
  | nil =>
      obtain rfl : isOpen = false := hfront
      exact hback
  | cons first front ih => exact ⟨hfront.1, ih hfront.2⟩

/-- The lines without blank ones. -/
def dark (written : List Line) : List Line :=
  written.filter fun line => !line.text.isEmpty

/-- Docstrings stay open over a blank line, and none is opened there. -/
theorem leavesOpen_of_blank {line : Line} (h : line.text = []) :
    leavesOpen isOpen line = isOpen := by
  cases isOpen <;> simp [leavesOpen, h, readTripled, tripleQuote]

/-- A blank line is no code. -/
theorem isCode_of_blank {line : Line} (h : line.text = []) : isCode isOpen line = false := by
  simp [isCode, Line.isSolid, h]

/-- Lines are dark one by one. -/
theorem dark_cons (line : Line) (rest : List Line) :
    dark (line :: rest) = dark [line] ++ dark rest :=
  List.filter_append [line] rest

/-- Blank lines make no difference to what is code. -/
theorem eachCode_dark_iff (hP : ∀ line rest, P line (dark rest) ↔ P line rest) :
    EachCode P isOpen (dark written) ↔ EachCode P isOpen written := by
  induction written generalizing isOpen with
  | nil => exact Iff.rfl
  | cons line written ih =>
      cases htext : line.text with
      | nil =>
          rw [dark, List.filter_cons_of_neg (by simp [htext]), EachCode, leavesOpen_of_blank htext,
            isCode_of_blank htext]
          exact ih.trans (and_iff_right nofun).symm
      | cons c text =>
          rw [dark, List.filter_cons_of_pos (by simp [htext])]
          exact and_congr (imp_congr_right fun _ => hP line written) ih

/-! ## Docstrings -/

/-- Spaces at the start of a text make no difference to whether it closes a docstring. -/
theorem isNone_readTripled_dropWhile (text : List Char) :
    (readTripled (text.dropWhile (· == ' '))).isNone = (readTripled text).isNone := by
  induction text with
  | nil => rfl
  | cons c text ih =>
      by_cases hc : c = ' '
      · subst hc
        rw [List.dropWhile_cons_of_pos rfl, ih,
          readTripled_plain (by decide) fun h => absurd h (by decide), readBehind,
          Option.isNone_map]
      · rw [List.dropWhile_cons_of_neg (by simpa using hc)]

/-- What writes a line of a docstring does not close it. -/
theorem Writes.not_closed {written text : List Char} (h : Writes written text) :
    readTripled written = none := by
  have hread := h [] (by simp)
  rw [List.append_nil] at hread
  exact hread

/-- A docstring of one line is closed there. -/
theorem isSome_readTripled_single {cs line : List Char}
    (h : lines (escapeLastQuote (escapeDoc cs)) = [line]) :
    (readTripled (line ++ tripleQuote)).isSome := by
  by_cases hcs : '\n' ∈ cs
  · obtain ⟨first, rest, rfl, hfirst⟩ := List.eq_append_cons_of_mem hcs
    rw [lines_escaped_line hfirst] at h
    obtain ⟨rfl, -⟩ := List.cons.inj h
    obtain ⟨content, hread, -⟩ := readTripled_closing (withoutReturn first)
    rw [hread]
    rfl
  · have hne : cs ≠ [] := by
      rintro rfl
      cases h
    rw [lines_escaped_last hcs hne] at h
    obtain ⟨rfl, -⟩ := List.cons.inj h
    by_cases hends : EndsEscaped cs
    · rw [escapeLastQuote_endsEscaped hends]
      obtain ⟨content, hread, -⟩ := readTripled_closing cs
      rw [hread]
      rfl
    · rw [readTripled_escapeLastQuote hends]
      rfl

/-- The text of an indented line is the text without spaces at its start. -/
theorem text_ofChars_indentLine (level : Nat) (text : String) :
    (Line.ofChars (indentLine level text).toList).text = text.toList.dropWhile (· == ' ') := by
  unfold indentLine
  split
  next h => rw [h]; rfl
  next =>
    rw [indentation, String.toList_append, String.toList_ofList]
    refine List.dropWhile_append_of_pos fun c hc => ?_
    rw [List.eq_of_mem_replicate hc]
    rfl

/-- An indented line of the given characters. -/
def indentedLine (level : Nat) (cs : List Char) : Line :=
  .ofChars (indentLine level (String.ofList cs)).toList

/-- Its text. -/
theorem text_indentedLine (level : Nat) (cs : List Char) :
    (indentedLine level cs).text = cs.dropWhile (· == ' ') := by
  rw [indentedLine, text_ofChars_indentLine, String.toList_ofList]

/-- Inside of a docstring, lines that do not close it are passed over. -/
theorem eachCode_inside {texts : List (List Char)} (h : ∀ cs ∈ texts, readTripled cs = none)
    (level : Nat) (hrest : EachCode P true rest) :
    EachCode P true (texts.map (indentedLine level) ++ rest) := by
  induction texts with
  | nil => exact hrest
  | cons cs texts ih =>
      obtain ⟨hcs, htexts⟩ := List.forall_mem_cons.1 h
      refine ⟨nofun, ?_⟩
      have hopen : leavesOpen true (indentedLine level cs) = true := by
        rw [leavesOpen, if_pos rfl, text_indentedLine, isNone_readTripled_dropWhile, hcs]
        rfl
      rw [hopen]
      exact ih htexts

/-- The lines of a docstring hold no code, and it is closed behind them. -/
theorem eachCode_docstring (cs : List Char) (level : Nat) (hrest : EachCode P false rest) :
    EachCode P false ((docstringChars cs).map (indentedLine level) ++ rest) := by
  have hopening (inner : List Char) {behind : List Line}
      (hbehind : EachCode P (readTripled inner).isNone behind) :
      EachCode P false (indentedLine level (tripleQuote ++ inner) :: behind) := by
    have htext : (indentedLine level (tripleQuote ++ inner)).text = tripleQuote ++ inner := by
      rw [text_indentedLine]
      rfl
    have hprefix : tripleQuote.isPrefixOf (tripleQuote ++ inner) = true :=
      List.isPrefixOf_iff_prefix.2 (List.prefix_append _ _)
    refine ⟨fun hcode => ?_, ?_⟩
    · rw [isCode, htext, hprefix, Bool.not_true, Bool.and_false] at hcode
      cases hcode
    · rw [leavesOpen, htext, if_neg Bool.false_ne_true, hprefix]
      exact hbehind
  have hwrites := writes_lines cs
  unfold docstringChars
  split
  next => exact hopening tripleQuote hrest
  next only honly =>
    have hclosed : (readTripled (only ++ tripleQuote)).isNone = false :=
      Option.isNone_eq_false_iff.2 (isSome_readTripled_single honly)
    rw [List.append_assoc]
    exact hopening (only ++ tripleQuote) (hclosed ▸ hrest)
  next first others _ hlines =>
    rw [hlines] at hwrites
    have hopen : ∀ line ∈ first :: others, readTripled line = none := by
      intro line hline
      obtain ⟨text, -, hwrite⟩ := exists_of_forall₂ hwrites.flip hline
      exact Writes.not_closed hwrite
    obtain ⟨hfirst, hothers⟩ := List.forall_mem_cons.1 hopen
    refine hopening first ?_
    rw [hfirst, List.map_append]
    show EachCode P true (others.map (indentedLine level) ++ _ ++ rest)
    rw [List.append_assoc]
    refine eachCode_inside hothers level ⟨nofun, ?_⟩
    have hclosed : leavesOpen true (indentedLine level tripleQuote) = false := by
      rw [leavesOpen, if_pos rfl, text_indentedLine]
      rfl
    rw [hclosed]
    exact hrest

/-! ## Steps -/

/-- Outside of docstrings, the code that the steps write is as the predicate says, and no docstring
is left open. -/
def Suits (P : Line → List Line → Prop) (steps : List Step) : Prop :=
  ∀ level rest, EachCode P false (linesAt level rest) →
    EachCode P false (linesAt level (steps ++ rest))

/-- The text starts as code does: with no space, no quote and no comment. -/
def StartsCode (text : String) : Prop :=
  ∃ c rest, text.toList = c :: rest ∧ c ∉ [' ', '"', '#']

variable {text : String} {steps others : List Step}

/-- A text that is known by its characters starts with the first of them. -/
theorem startsCode_ofList {c : Char} {rest : List Char} (h : c ∉ [' ', '"', '#']) :
    StartsCode (String.ofList (c :: rest)) :=
  ⟨c, rest, String.toList_ofList, h⟩

/-- So does the text with another one behind it. -/
theorem StartsCode.append (h : StartsCode text) (rest : String) : StartsCode (text ++ rest) := by
  obtain ⟨c, tail, htext, hc⟩ := h
  exact ⟨c, tail ++ rest.toList, by rw [String.toList_append, htext, List.cons_append], hc⟩

/-- A name starts so. -/
theorem IsName.startsCode {word : String} (h : IsName word) : StartsCode word := by
  obtain ⟨c, rest, hword, -⟩ := h.start
  have hc := h.chars c (by rw [hword]; exact List.mem_cons_self)
  refine ⟨c, rest, hword, fun hmark => ?_⟩
  simp only [List.mem_cons, List.not_mem_nil, or_false] at hmark
  rcases hmark with rfl | rfl | rfl <;> exact absurd hc (by decide)

/-- No steps write no code. -/
theorem suits_nil : Suits P [] :=
  fun _ _ h => h

/-- Steps behind steps. -/
theorem Suits.append (h : Suits P steps) (h' : Suits P others) : Suits P (steps ++ others) := by
  intro level rest hrest
  rw [List.append_assoc]
  exact h level _ (h' level rest hrest)

/-- The steps for the items of a list. -/
theorem suits_flatMap {α : Type} {items : List α} {f : α → List Step}
    (h : ∀ a ∈ items, Suits P (f a)) : Suits P (items.flatMap f) := by
  induction items with
  | nil => exact suits_nil
  | cons a items ih =>
      rw [List.forall_mem_cons] at h
      rw [List.flatMap_cons]
      exact h.1.append (ih h.2)

/-- A request for blank lines in front of steps. -/
theorem Suits.blank (count : Nat) (h : Suits P steps) : Suits P (.blank count :: steps) :=
  h

/-- Indented steps. -/
theorem Suits.indented (h : Suits P steps) : Suits P (indented steps) := by
  intro level rest hrest
  show EachCode P false (linesAt (level + 1) (steps ++ [.dedent] ++ rest))
  rw [List.append_assoc]
  exact h (level + 1) _ hrest

/-- A line in front of steps, if it starts with neither a space nor a quote: if it is code, it is as
the predicate says with what is behind it. -/
theorem Suits.cons {c : Char} {tail : List Char} (htext : text.toList = c :: tail)
    (hspace : c ≠ ' ') (hquote : c ≠ '"') (hP : c ≠ '#' → ∀ level rest,
      P ⟨4 * level, text.toList⟩ (linesAt level (steps ++ rest)))
    (h : Suits P steps) : Suits P (.line text :: steps) := by
  intro level rest hrest
  rw [List.cons_append, linesAt_line ⟨c, tail, htext, hspace⟩]
  have hclosed : leavesOpen false ⟨4 * level, text.toList⟩ = false := by
    rw [leavesOpen, if_neg Bool.false_ne_true]
    simp [htext, tripleQuote, hquote.symm]
  refine ⟨fun hcode => hP ?_ level rest, hclosed.symm ▸ h level rest hrest⟩
  rintro rfl
  simp [isCode, Line.isSolid, htext] at hcode

/-- A line of code in front of steps. -/
theorem Suits.line (hstart : StartsCode text) (hP : ∀ level rest,
      P ⟨4 * level, text.toList⟩ (linesAt level (steps ++ rest)))
    (h : Suits P steps) : Suits P (.line text :: steps) := by
  obtain ⟨c, tail, htext, hc⟩ := hstart
  simp only [List.mem_cons, List.not_mem_nil, or_false, not_or] at hc
  exact .cons htext hc.1 hc.2.1 (fun _ => hP) h

/-- A comment in front of steps. -/
theorem Suits.comment {tail : List Char} (htext : text.toList = '#' :: tail) (h : Suits P steps) :
    Suits P (.line text :: steps) :=
  .cons htext (by decide) (by decide) (fun hne => absurd rfl hne) h

/-- A line with spaces at its start, if something other than a quote follows these. -/
theorem Suits.spaced {c : Char} {tail : List Char}
    (htext : text.toList.dropWhile (· == ' ') = c :: tail) (hquote : c ≠ '"')
    (hP : ∀ column rest, P ⟨column, c :: tail⟩ rest) (h : Suits P steps) :
    Suits P (.line text :: steps) := by
  intro level rest hrest
  let line := Line.ofChars (indentLine level text).toList
  have hline : line = ⟨line.column, c :: tail⟩ :=
    congrArg (Line.mk line.column) ((text_ofChars_indentLine level text).trans htext)
  show EachCode P false (line :: linesAt level (steps ++ rest))
  rw [hline]
  have hclosed : leavesOpen false ⟨line.column, c :: tail⟩ = false := by
    rw [leavesOpen, if_neg Bool.false_ne_true]
    simp [tripleQuote, hquote.symm]
  exact ⟨fun _ => hP _ _, hclosed.symm ▸ h level rest hrest⟩

/-- A docstring holds no code. -/
theorem suits_docSteps (description : Option String) : Suits P (docSteps description) := by
  cases description with
  | none => exact suits_nil
  | some text =>
      intro level rest hrest
      have hlines (texts : List (List Char)) :
          linesAt level ((texts.map String.ofList).map .line ++ rest) =
            texts.map (indentedLine level) ++ linesAt level rest := by
        induction texts with
        | nil => rfl
        | cons cs texts ih => exact congrArg (_ :: ·) ih
      show EachCode P false (linesAt level ((docstring text).map .line ++ rest))
      rw [docstring, hlines]
      exact eachCode_docstring text.toList level hrest

/-- Comments hold none either. -/
theorem suits_commentSteps (description : Option String) : Suits P (commentSteps description) := by
  cases description with
  | none => exact suits_nil
  | some text =>
      show Suits P ((lines text.toList).map fun line => .line ("# " ++ String.ofList line))
      induction lines text.toList with
      | nil => exact suits_nil
      | cons line lines ih => exact .comment (String.toList_append.trans rfl) ih

/-- Parts that are joined. -/
theorem suits_joinParts {parts : List (List Step)} (h : ∀ part ∈ parts, Suits P part) :
    Suits P (joinParts parts) := by
  induction parts with
  | nil => exact suits_nil
  | cons part parts ih =>
      rw [List.forall_mem_cons] at h
      cases part with
      | nil => exact ih h.2
      | cons step part =>
          have hothers := ih h.2
          unfold joinParts
          split
          · exact h.1
          · exact h.1.append (hothers.blank 1)

end TypedJson.Script
