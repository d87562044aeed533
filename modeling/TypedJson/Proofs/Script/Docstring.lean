import Mathlib.Data.List.DropRight
import Mathlib.Data.List.Forall2
import TypedJson.Code.Literal

/-!
# Docstrings read back

A triple-quoted literal is read from left to right, escapes first, up to three quotes in a row. The
lines of a docstring are such a literal and hold the lines of its text, unless the text is a single
line whose last quotes run into the closing ones (`docstring_isTripled_iff`): a quote at the very
end is not escaped behind a backslash (`docstring_quote_behind_backslash`), and quotes in front of a
final line feed are not looked at. With several lines the closing quotes stand on a line of their
own, so that nothing can run into them.
-/

namespace TypedJson.Script

open Code Text

/-! ## Triple-quoted literals -/

/-- Read the inside of a triple-quoted literal: the content up to the first three quotes in a row
that are not escaped, and what stands behind these. Backslashes and quotes may be escaped. -/
def readTripled : List Char → Option (List Char × List Char)
  | [] => none
  | '\\' :: c :: rest =>
    if c = '\\' ∨ c = '"' then (readTripled rest).map fun read => (c :: read.1, read.2) else none
  | '"' :: '"' :: '"' :: rest => some ([], rest)
  | c :: rest => (readTripled rest).map fun read => (c :: read.1, read.2)

/-- The characters are one triple-quoted literal of the given content, with nothing behind it. -/
def IsTripled (cs content : List Char) : Prop :=
  ∃ body, cs = tripleQuote ++ body ∧ readTripled body = some (content, [])

/-- Put content that was read in front of what is read behind it. -/
def readBehind (content : List Char) (read : Option (List Char × List Char)) :
    Option (List Char × List Char) :=
  read.map fun read => (content ++ read.1, read.2)

variable {a b cs content tail rest : List Char} {c : Char}

/-- Contents that are read one behind the other. -/
theorem readBehind_append (content other : List Char) (read : Option (List Char × List Char)) :
    readBehind (content ++ other) read = readBehind content (readBehind other read) := by
  cases read with
  | none => rfl
  | some read => exact congrArg (fun content => some (content, read.2)) (List.append_assoc ..)

/-- No content in front of what is read. -/
theorem readBehind_nil (read : Option (List Char × List Char)) : readBehind [] read = read := by
  cases read <;> rfl

/-- An escaped backslash or quote is read as itself. -/
theorem readTripled_escaped (hc : c = '\\' ∨ c = '"') :
    readTripled ('\\' :: c :: rest) = readBehind [c] (readTripled rest) := by
  rw [readTripled, if_pos hc]
  rfl

/-- Three escaped quotes are read as three quotes. -/
theorem readTripled_run (rest : List Char) :
    readTripled ('\\' :: '"' :: '\\' :: '"' :: '\\' :: '"' :: rest) =
      readBehind tripleQuote (readTripled rest) := by
  rw [readTripled_escaped (.inr rfl), readTripled_escaped (.inr rfl),
    readTripled_escaped (.inr rfl), ← readBehind_append, ← readBehind_append]
  rfl

/-- A character other than a backslash is read as itself, unless it starts three quotes. -/
theorem readTripled_plain (hc : c ≠ '\\') (h : c = '"' → ¬ ['"', '"'] <+: rest) :
    readTripled (c :: rest) = readBehind [c] (readTripled rest) := by
  rw [readTripled]
  · rfl
  · rintro _ rest rfl
    exact absurd rfl hc
  · rintro rest rfl rfl
    exact absurd ⟨rest, rfl⟩ (h rfl)

/-! ## Runs of quotes -/

/-- No run of quotes goes from a text into what stands behind it. -/
def Apart (a b : List Char) : Prop :=
  a.getLast? = some '"' → b.head? ≠ some '"'

/-- A text is apart from what stands behind a character of it, too. -/
theorem Apart.of_cons (h : Apart (c :: a) b) : Apart a b := by
  intro hlast
  refine h ?_
  rw [List.getLast?_cons, hlast]
  rfl

/-- Three quotes in a row do not go across the end of a text that is apart from the rest. -/
theorem Apart.not_run (h : Apart ('"' :: a) b) (ha : ¬ ['"', '"'] <+: a) :
    ¬ ['"', '"'] <+: a ++ b := by
  rintro ⟨rest, hrest⟩
  match a, hrest with
  | [], hrest => exact h rfl (by rw [List.nil_append] at hrest; rw [← hrest]; rfl)
  | [d], hrest =>
    obtain ⟨rfl, rfl⟩ : '"' = d ∧ '"' :: rest = b := by simpa using hrest
    exact h rfl rfl
  | d :: e :: a, hrest =>
    obtain ⟨rfl, rfl, -⟩ : '"' = d ∧ '"' = e ∧ rest = a ++ b := by simpa using hrest
    exact ha ⟨a, rfl⟩

/-! ## Escaped texts -/

/-- The cases that a text is escaped by: a backslash, three quotes in a row, any other character. -/
@[elab_as_elim]
theorem escapeDoc_induction {motive : List Char → Prop} (nil : motive [])
    (backslash : ∀ rest, motive rest → motive ('\\' :: rest))
    (run : ∀ rest, motive rest → motive ('"' :: '"' :: '"' :: rest))
    (plain : ∀ c rest, c ≠ '\\' → (c = '"' → ¬ ['"', '"'] <+: rest) → motive rest →
      motive (c :: rest)) (cs : List Char) : motive cs := by
  induction cs using escapeDoc.induct with
  | case1 => exact nil
  | case2 rest ih => exact backslash rest ih
  | case3 rest ih => exact run rest ih
  | case4 c rest hc hrun ih =>
    refine plain c rest hc ?_ ih
    rintro rfl ⟨rest, rfl⟩
    exact hrun rest rfl rfl

/-- A character other than a backslash stays, unless it starts three quotes. -/
theorem escapeDoc_plain (hc : c ≠ '\\') (h : c = '"' → ¬ ['"', '"'] <+: rest) :
    escapeDoc (c :: rest) = c :: escapeDoc rest := by
  rw [escapeDoc]
  · rintro rfl
    exact absurd rfl hc
  · rintro rest rfl rfl
    exact absurd ⟨rest, rfl⟩ (h rfl)

/-- A text starts with a quote if it does once escaped. -/
theorem head?_escapeDoc (h : (escapeDoc cs).head? = some '"') : cs.head? = some '"' := by
  unfold escapeDoc at h
  split at h
  · cases h
  · cases h
  · cases h
  · exact h

/-- An escaped text ends as the text does. -/
theorem getLast?_escapeDoc (cs : List Char) : (escapeDoc cs).getLast? = cs.getLast? := by
  induction cs using escapeDoc_induction with
  | nil => rfl
  | backslash rest ih =>
    rw [escapeDoc, List.getLast?_cons, List.getLast?_cons, List.getLast?_cons, ih]
    rfl
  | run rest ih =>
    simp only [escapeDoc, List.getLast?_cons, ih]
    cases rest.getLast? <;> rfl
  | plain c rest hc hrun ih =>
    rw [escapeDoc_plain hc hrun, List.getLast?_cons, List.getLast?_cons, ih]

/-- A text that stands apart from the rest is escaped by itself. -/
theorem escapeDoc_append (h : Apart a b) : escapeDoc (a ++ b) = escapeDoc a ++ escapeDoc b := by
  induction a using escapeDoc_induction with
  | nil => rfl
  | backslash rest ih => exact congrArg ('\\' :: '\\' :: ·) (ih h.of_cons)
  | run rest ih =>
    exact congrArg ('\\' :: '"' :: '\\' :: '"' :: '\\' :: '"' :: ·) (ih h.of_cons.of_cons.of_cons)
  | plain c rest hc hrun ih =>
    have happ : c = '"' → ¬ ['"', '"'] <+: rest ++ b := by
      rintro rfl
      exact h.not_run (hrun rfl)
    rw [List.cons_append, escapeDoc_plain hc happ, escapeDoc_plain hc hrun, ih h.of_cons]
    rfl

/-- No three quotes in a row are left in an escaped text. -/
theorem escapeDoc_not_run (h : ¬ ['"', '"'] <+: cs) : ¬ ['"', '"'] <+: escapeDoc cs := by
  rintro ⟨rest, hrest⟩
  have hhead : cs.head? = some '"' := head?_escapeDoc (by rw [← hrest]; rfl)
  obtain ⟨others, rfl⟩ : ∃ others, cs = '"' :: others := List.head?_eq_some_iff.1 hhead
  have hothers : ¬ ['"', '"'] <+: others := fun hprefix => h (by
    obtain ⟨behind, rfl⟩ := hprefix
    exact ⟨'"' :: behind, rfl⟩)
  rw [escapeDoc_plain (by decide) fun _ => hothers] at hrest
  have hnext : (escapeDoc others).head? = some '"' := by
    rw [← (List.cons.inj hrest).2]
    rfl
  obtain ⟨behind, rfl⟩ : ∃ behind, others = '"' :: behind :=
    List.head?_eq_some_iff.1 (head?_escapeDoc hnext)
  exact h ⟨behind, rfl⟩

/-- An escaped text that stands apart from the rest is read as itself. -/
theorem readTripled_escapeDoc (h : Apart a tail) :
    readTripled (escapeDoc a ++ tail) = readBehind a (readTripled tail) := by
  induction a using escapeDoc_induction with
  | nil => exact (readBehind_nil _).symm
  | backslash rest ih =>
    rw [escapeDoc, List.cons_append, List.cons_append, readTripled_escaped (.inl rfl),
      ih h.of_cons, ← readBehind_append]
    rfl
  | run rest ih =>
    simp only [escapeDoc, List.cons_append]
    rw [readTripled_run, ih h.of_cons.of_cons.of_cons, ← readBehind_append]
    rfl
  | plain c rest hc hrun ih =>
    have hapart : c = '"' → Apart ('"' :: escapeDoc rest) tail := by
      rintro rfl hlast
      refine h ?_
      rwa [List.getLast?_cons, ← getLast?_escapeDoc, ← List.getLast?_cons]
    have hnot : c = '"' → ¬ ['"', '"'] <+: escapeDoc rest ++ tail := fun hq =>
      (hapart hq).not_run (escapeDoc_not_run (hrun hq))
    rw [escapeDoc_plain hc hrun, List.cons_append, readTripled_plain hc hnot, ih h.of_cons,
      ← readBehind_append]
    rfl

/-! ## Quotes at the end -/

/-- A text that does not end with a quote needs no escape there. -/
theorem escapeLastQuote_other (h : cs.getLast? ≠ some '"') : escapeLastQuote cs = cs := by
  unfold escapeLastQuote
  split
  · rfl
  · rename_i before hreverse
    rw [← List.head?_reverse, hreverse] at h
    exact absurd rfl h
  · rfl

/-- A quote behind a backslash is taken for an escaped one. -/
theorem escapeLastQuote_escaped (cs : List Char) :
    escapeLastQuote (cs ++ ['\\', '"']) = cs ++ ['\\', '"'] := by
  simp [escapeLastQuote]

/-- Any other quote at the end is escaped. -/
theorem escapeLastQuote_quote (h : cs.getLast? ≠ some '\\') :
    escapeLastQuote (cs ++ ['"']) = cs ++ ['\\', '"'] := by
  unfold escapeLastQuote
  rw [List.reverse_append, List.reverse_singleton, List.singleton_append]
  split
  · rename_i before hreverse
    rw [← List.head?_reverse, (List.cons.inj hreverse).2] at h
    exact absurd rfl h
  · rename_i before _ hreverse
    rw [← (List.cons.inj hreverse).2, List.reverse_reverse]
  · rename_i hquote
    exact absurd rfl (hquote _)

/-- No quote behind the text changes how it is escaped or read back: it ends with a character other
than a quote, or with quotes that are all escaped. -/
structure Sealed (a : List Char) : Prop where
  escapes : ∀ b, escapeDoc (a ++ b) = escapeDoc a ++ escapeDoc b
  reads : ∀ tail, readTripled (escapeDoc a ++ tail) = readBehind a (readTripled tail)
  ends : escapeLastQuote (escapeDoc a) = escapeDoc a

/-- A text that does not end with a quote. -/
theorem sealed_of_getLast? (h : a.getLast? ≠ some '"') : Sealed a where
  escapes _ := escapeDoc_append fun hlast => absurd hlast h
  reads _ := readTripled_escapeDoc fun hlast => absurd hlast h
  ends := escapeLastQuote_other (by rwa [getLast?_escapeDoc])

/-- Three quotes in a row are all escaped. -/
theorem Sealed.run (h : Sealed a) : Sealed (a ++ tripleQuote) where
  escapes b := by
    rw [List.append_assoc, h.escapes, h.escapes, List.append_assoc]
    rfl
  reads tail := by
    rw [h.escapes, List.append_assoc, h.reads, readBehind_append]
    exact congrArg (readBehind a) (readTripled_run tail)
  ends := by
    have hlast : escapeDoc a ++ escapeDoc tripleQuote =
        (escapeDoc a ++ ['\\', '"', '\\', '"']) ++ ['\\', '"'] := by
      rw [List.append_assoc]
      rfl
    rw [h.escapes, hlast, escapeLastQuote_escaped]

/-- Runs of three quotes behind a text that does not end with a quote. -/
theorem sealed_quotes (h : a.getLast? ≠ some '"') (n : Nat) :
    Sealed (a ++ List.replicate (3 * n) '"') := by
  induction n with
  | zero =>
    rw [Nat.mul_zero, List.replicate_zero, List.append_nil]
    exact sealed_of_getLast? h
  | succ n ih =>
    rw [Nat.mul_succ, List.replicate_add, ← List.append_assoc]
    exact ih.run

/-- The number of quotes that a text ends with. -/
def trailingQuotes (cs : List Char) : Nat :=
  (cs.rtakeWhile (· = '"')).length

/-- A text is one that is sealed, with at most two quotes behind it. -/
theorem exists_sealed (cs : List Char) :
    ∃ front, Sealed front ∧ cs = front ++ List.replicate (trailingQuotes cs % 3) '"' := by
  have hbefore : (cs.rdropWhile (· = '"')).getLast? ≠ some '"' := by
    intro hlast
    obtain ⟨before, hlast⟩ := List.getLast?_eq_some_iff.1 hlast
    have hnot := List.rdropWhile_last_not (fun c => decide (c = '"')) cs (by simp [hlast])
    simp [hlast] at hnot
  have hquotes : cs.rtakeWhile (· = '"') = List.replicate (trailingQuotes cs) '"' :=
    List.eq_replicate_of_mem fun c hc => by simpa using List.mem_rtakeWhile_imp hc
  refine ⟨_, sealed_quotes hbefore (trailingQuotes cs / 3), ?_⟩
  rw [List.append_assoc, ← List.replicate_add, Nat.div_add_mod, ← hquotes,
    List.rdropWhile_append_rtakeWhile]

/-- A text whose last quote is taken for an escaped one. -/
def EndsEscaped (cs : List Char) : Prop :=
  ∃ before, cs = before ++ ['\\', '"']

/-- With its last quote escaped, a text is read as itself, whatever stands behind it. -/
theorem readTripled_escapeLastQuote (h : ¬ EndsEscaped cs) (tail : List Char) :
    readTripled (escapeLastQuote (escapeDoc cs) ++ tail) = readBehind cs (readTripled tail) := by
  obtain ⟨front, hfront, hcs⟩ := exists_sealed cs
  have hr : trailingQuotes cs % 3 < 3 := Nat.mod_lt _ (by decide)
  generalize trailingQuotes cs % 3 = r at hcs hr
  match r, hcs with
  | 0, hcs =>
    rw [List.replicate_zero, List.append_nil] at hcs
    rw [hcs, hfront.ends, hfront.reads]
  | 1, hcs =>
    have hlast : (escapeDoc front).getLast? ≠ some '\\' := by
      rw [getLast?_escapeDoc]
      intro hlast
      obtain ⟨before, rfl⟩ := List.getLast?_eq_some_iff.1 hlast
      exact h ⟨before, by rw [hcs, List.append_assoc]; rfl⟩
    have hescape : escapeDoc cs = escapeDoc front ++ ['"'] := by
      rw [hcs, hfront.escapes]
      rfl
    rw [hescape, escapeLastQuote_quote hlast, List.append_assoc, hfront.reads, hcs,
      readBehind_append]
    exact congrArg (readBehind front) (readTripled_escaped (.inr rfl))
  | 2, hcs =>
    have hescape : escapeDoc cs = (escapeDoc front ++ ['"']) ++ ['"'] := by
      rw [hcs, hfront.escapes, List.append_assoc]
      rfl
    have hlast : (escapeDoc front ++ ['"']).getLast? ≠ some '\\' := by simp
    have hquotes : readTripled ('"' :: '\\' :: '"' :: tail) =
        readBehind ['"', '"'] (readTripled tail) := by
      rw [readTripled_plain (by decide) (by simp), readTripled_escaped (.inr rfl),
        ← readBehind_append]
      rfl
    rw [hescape, escapeLastQuote_quote hlast, List.append_assoc, List.append_assoc, hfront.reads,
      hcs, readBehind_append]
    exact congrArg (readBehind front) hquotes

/-- The quote at the end of such a text is left as it is. -/
theorem escapeLastQuote_endsEscaped (h : EndsEscaped cs) :
    escapeLastQuote (escapeDoc cs) = escapeDoc cs := by
  obtain ⟨before, rfl⟩ := h
  have hsplit : escapeDoc (before ++ ['\\', '"']) =
      (escapeDoc before ++ ['\\']) ++ ['\\', '"'] := by
    rw [escapeDoc_append fun _ => by simp, List.append_assoc]
    rfl
  rw [hsplit, escapeLastQuote_escaped]

/-- Quotes that are left at the end of an escaped text run into the closing ones: as many of these
remain behind the literal. -/
theorem readTripled_closing (cs : List Char) :
    ∃ content, readTripled (escapeDoc cs ++ tripleQuote) =
      some (content, List.replicate (trailingQuotes cs % 3) '"') ∧
      (trailingQuotes cs % 3 = 0 → content = cs) := by
  obtain ⟨front, hfront, hcs⟩ := exists_sealed cs
  have hr : trailingQuotes cs % 3 < 3 := Nat.mod_lt _ (by decide)
  generalize trailingQuotes cs % 3 = r at hcs hr
  refine ⟨front, ?_, fun hzero => by simp [hcs, hzero]⟩
  rw [hcs, hfront.escapes, List.append_assoc, hfront.reads]
  match r with
  | 0 | 1 | 2 => simp [readBehind, readTripled, escapeDoc, tripleQuote, List.replicate]

/-- What an escaped text is read as in front of anything but a quote. -/
def Writes (written cs : List Char) : Prop :=
  ∀ tail, tail.head? ≠ some '"' → readTripled (written ++ tail) = readBehind cs (readTripled tail)

/-- An escaped text is read as itself in front of anything but a quote. -/
theorem writes_escapeDoc (cs : List Char) : Writes (escapeDoc cs) cs :=
  fun _ htail => readTripled_escapeDoc fun _ => htail

/-- Escaping the last quote, or not, makes no difference to that. -/
theorem writes_escapeLastQuote (cs : List Char) : Writes (escapeLastQuote (escapeDoc cs)) cs := by
  by_cases h : EndsEscaped cs
  · rw [escapeLastQuote_endsEscaped h]
    exact writes_escapeDoc cs
  · exact fun tail _ => readTripled_escapeLastQuote h tail

/-! ## Lines -/

/-- A line without the carriage return that its end may start with. -/
def withoutReturn (line : List Char) : List Char :=
  (dropReturn line.reverse).reverse

/-- A text is a single line without an end, or a line with its end in front of other lines. -/
@[elab_as_elim]
theorem lines_induction {motive : List Char → Prop}
    (last : ∀ cs, '\n' ∉ cs → motive cs)
    (line : ∀ cs rest, '\n' ∉ cs → motive rest → motive (cs ++ '\n' :: rest))
    (cs : List Char) : motive cs := by
  induction hn : cs.length using Nat.strong_induction_on generalizing cs with
  | _ n ih =>
    by_cases h : '\n' ∈ cs
    · obtain ⟨first, rest, rfl, hfirst⟩ := List.eq_append_cons_of_mem h
      rw [List.length_append, List.length_cons] at hn
      exact line first rest hfirst (ih rest.length (by omega) rest rfl)
    · exact last cs h

/-- A line without an end, behind the reversed start of it. -/
theorem linesFrom_last {start : List Char} (h : '\n' ∉ cs) (hne : cs.reverse ++ start ≠ []) :
    Text.linesFrom start cs = [(cs.reverse ++ start).reverse] := by
  induction cs generalizing start with
  | nil => exact if_neg hne
  | cons c rest ih =>
    have hc : c ≠ '\n' := fun hc => h (by rw [hc]; exact List.mem_cons_self)
    rw [Text.linesFrom, if_neg hc, ih (fun hrest => h (List.mem_cons_of_mem c hrest)) (by simp)]
    simp

/-- A line with its end, behind the reversed start of it. -/
theorem linesFrom_line {start : List Char} (h : '\n' ∉ cs) (rest : List Char) :
    Text.linesFrom start (cs ++ '\n' :: rest) =
      (dropReturn (cs.reverse ++ start)).reverse :: lines rest := by
  induction cs generalizing start with
  | nil => exact if_pos rfl
  | cons c cs ih =>
    have hc : c ≠ '\n' := fun hc => h (by rw [hc]; exact List.mem_cons_self)
    rw [List.cons_append, Text.linesFrom, if_neg hc, ih fun hrest => h (List.mem_cons_of_mem c hrest)]
    simp

/-- The only line of a text without an end of a line. -/
theorem lines_last (h : '\n' ∉ cs) (hne : cs ≠ []) : lines cs = [cs] := by
  rw [lines, linesFrom_last h (by simpa using hne), List.append_nil, List.reverse_reverse]

/-- The lines of a text that has more than one, or an end of its only one. -/
theorem lines_line (h : '\n' ∉ cs) (rest : List Char) :
    lines (cs ++ '\n' :: rest) = withoutReturn cs :: lines rest := by
  rw [lines, linesFrom_line h, List.append_nil]
  rfl

/-- Only the empty text has no lines. -/
theorem lines_eq_nil_iff : lines cs = [] ↔ cs = [] := by
  refine ⟨fun h => ?_, by rintro rfl; rfl⟩
  induction cs using lines_induction with
  | last cs hcs =>
    by_contra hne
    rw [lines_last hcs hne] at h
    cases h
  | line cs rest hcs _ =>
    rw [lines_line hcs] at h
    cases h

/-! ## Lines of escaped texts -/

/-- Escaping a text does not make further lines. -/
theorem escapeDoc_one_line (h : '\n' ∉ cs) : '\n' ∉ escapeDoc cs := by
  induction cs using escapeDoc_induction with
  | nil => exact h
  | backslash rest ih => simpa [escapeDoc] using ih (by simpa using h)
  | run rest ih => simpa [escapeDoc] using ih (by simpa using h)
  | plain c rest hc hrun ih =>
    rw [List.mem_cons, not_or] at h
    rw [escapeDoc_plain hc hrun, List.mem_cons, not_or]
    exact ⟨h.1, ih h.2⟩

/-- Nor does escaping its last quote. -/
theorem escapeLastQuote_one_line (h : '\n' ∉ cs) : '\n' ∉ escapeLastQuote cs := by
  unfold escapeLastQuote
  split
  · exact h
  · rename_i before hreverse
    rw [← List.mem_reverse, hreverse] at h
    simpa using h
  · exact h

/-- A text that is not empty is not so with its last quote escaped. -/
theorem escapeLastQuote_ne_nil (h : cs ≠ []) : escapeLastQuote cs ≠ [] := by
  unfold escapeLastQuote
  split
  · exact h
  · simp
  · exact h

/-- A text ends as its last line does, if this is not empty. -/
theorem getLast?_line (cs : List Char) (hc : c ≠ '\n') :
    (cs ++ '\n' :: rest).getLast? = some c ↔ rest.getLast? = some c := by
  rw [List.getLast?_append, List.getLast?_cons]
  cases rest.getLast? with
  | none => simpa using hc.symm
  | some d => simp

/-- Only the last line of a text has its last quote escaped. -/
theorem escapeLastQuote_line (cs rest : List Char) :
    escapeLastQuote (cs ++ '\n' :: rest) = cs ++ '\n' :: escapeLastQuote rest := by
  have hassoc (a b : List Char) : cs ++ '\n' :: (a ++ b) = (cs ++ '\n' :: a) ++ b := by simp
  by_cases hquote : rest.getLast? = some '"'
  · obtain ⟨front, rfl⟩ := List.getLast?_eq_some_iff.1 hquote
    by_cases hback : front.getLast? = some '\\'
    · obtain ⟨before, rfl⟩ := List.getLast?_eq_some_iff.1 hback
      rw [List.append_assoc, List.singleton_append, escapeLastQuote_escaped, hassoc,
        escapeLastQuote_escaped]
    · have hline := mt (getLast?_line cs (by decide)).1 hback
      rw [escapeLastQuote_quote hback, hassoc, hassoc, escapeLastQuote_quote hline]
  · have hline := mt (getLast?_line cs (by decide)).1 hquote
    rw [escapeLastQuote_other hquote, escapeLastQuote_other hline]

/-- Escaping leaves the ends of lines as they are. -/
theorem escapeDoc_line (cs rest : List Char) :
    escapeDoc (cs ++ '\n' :: rest) = escapeDoc cs ++ '\n' :: escapeDoc rest := by
  rw [escapeDoc_append fun _ => by simp,
    escapeDoc_plain (by decide) fun hc => absurd hc (by decide)]

/-- A line without its carriage return, written out. -/
theorem withoutReturn_cases (cs : List Char) :
    (∃ line, cs = line ++ ['\r'] ∧ withoutReturn cs = line) ∨
      cs.getLast? ≠ some '\r' ∧ withoutReturn cs = cs := by
  by_cases h : cs.getLast? = some '\r'
  · obtain ⟨line, rfl⟩ := List.getLast?_eq_some_iff.1 h
    exact .inl ⟨line, rfl, by simp [withoutReturn, dropReturn]⟩
  · refine .inr ⟨h, ?_⟩
    rw [← List.head?_reverse] at h
    unfold withoutReturn dropReturn
    split
    · rename_i line hline
      rw [hline] at h
      exact absurd rfl h
    · rw [List.reverse_reverse]

/-- Escaping leaves the carriage return at an end of a line as it is, too. -/
theorem withoutReturn_escapeDoc (cs : List Char) :
    withoutReturn (escapeDoc cs) = escapeDoc (withoutReturn cs) := by
  obtain ⟨line, rfl, hline⟩ | ⟨hlast, hcs⟩ := withoutReturn_cases cs
  · have hescape : escapeDoc (line ++ ['\r']) = escapeDoc line ++ ['\r'] := by
      rw [escapeDoc_append fun _ => by simp]
      rfl
    rw [hline, hescape]
    simp [withoutReturn, dropReturn]
  · obtain ⟨line, hline, -⟩ | ⟨-, hescape⟩ := withoutReturn_cases (escapeDoc cs)
    · rw [← getLast?_escapeDoc, hline] at hlast
      exact absurd (by simp) hlast
    · rw [hescape, hcs]

/-- The lines of a text whose last line is the only one without an end. -/
theorem lines_escaped_line (h : '\n' ∉ cs) (rest : List Char) :
    lines (escapeLastQuote (escapeDoc (cs ++ '\n' :: rest))) =
      escapeDoc (withoutReturn cs) :: lines (escapeLastQuote (escapeDoc rest)) := by
  rw [escapeDoc_line, escapeLastQuote_line, lines_line (escapeDoc_one_line h),
    withoutReturn_escapeDoc]

/-- The only line of an escaped text without an end of a line. -/
theorem lines_escaped_last (h : '\n' ∉ cs) (hne : cs ≠ []) :
    lines (escapeLastQuote (escapeDoc cs)) = [escapeLastQuote (escapeDoc cs)] := by
  refine lines_last (escapeLastQuote_one_line (escapeDoc_one_line h)) (escapeLastQuote_ne_nil ?_)
  intro hempty
  have hlast := getLast?_escapeDoc cs
  rw [hempty] at hlast
  exact hne (List.getLast?_eq_none_iff.1 hlast.symm)

/-- The lines of an escaped text write those of the text. -/
theorem writes_lines (cs : List Char) :
    List.Forall₂ Writes (lines (escapeLastQuote (escapeDoc cs))) (lines cs) := by
  induction cs using lines_induction with
  | last cs h =>
    by_cases hne : cs = []
    · rw [hne]
      exact .nil
    · rw [lines_escaped_last h hne, lines_last h hne]
      exact .cons (writes_escapeLastQuote cs) .nil
  | line cs rest h ih =>
    rw [lines_escaped_line h, lines_line h]
    exact .cons (writes_escapeDoc _) ih

/-- Lines with their ends are read as the lines that they write. -/
theorem readTripled_lines {written texts : List (List Char)} (h : List.Forall₂ Writes written texts)
    (tail : List Char) :
    readTripled (written.flatMap (· ++ ['\n']) ++ tail) =
      readBehind (texts.flatMap (· ++ ['\n'])) (readTripled tail) := by
  induction h with
  | nil => exact (readBehind_nil _).symm
  | @cons line text written texts hline _ ih =>
    simp only [List.flatMap_cons, List.append_assoc, List.singleton_append]
    rw [hline _ (by simp), List.cons_append,
      readTripled_plain (by decide) fun hc => absurd hc (by decide), ih, ← readBehind_append,
      ← readBehind_append, List.append_assoc, List.singleton_append]

/-! ## Docstrings -/

/-- Joined lines are the lines with their ends in front of the last one. -/
theorem intercalate_concat (front : List (List Char)) (last : List Char) :
    ['\n'].intercalate (front ++ [last]) = front.flatMap (· ++ ['\n']) ++ last := by
  induction front with
  | nil => simp
  | cons first rest ih =>
    obtain ⟨second, others, hothers⟩ : ∃ second others, rest ++ [last] = second :: others :=
      List.exists_cons_of_ne_nil (by simp)
    rw [List.cons_append, hothers, List.intercalate_cons_cons, ← hothers, ih, List.flatMap_cons,
      List.append_assoc, List.append_assoc, List.append_assoc]

/-- Lines with their ends are the joined lines in front of a last end. -/
theorem intercalate_ended {texts : List (List Char)} (h : texts ≠ []) :
    texts.flatMap (· ++ ['\n']) = ['\n'].intercalate texts ++ ['\n'] := by
  obtain rfl | ⟨front, last, rfl⟩ := List.eq_nil_or_concat texts
  · exact absurd rfl h
  · rw [List.concat_eq_append, intercalate_concat, List.flatMap_append, List.flatMap_singleton,
      List.append_assoc]

/-- The lines of a docstring, joined. -/
def joinedDocstring (cs : List Char) : List Char :=
  ['\n'].intercalate (docstringChars cs)

/-- What stands behind the opening quotes decides. -/
theorem isTripled_iff {body : List Char} :
    IsTripled (tripleQuote ++ body) content ↔ readTripled body = some (content, []) := by
  constructor
  · rintro ⟨other, hother, hread⟩
    rwa [List.append_cancel_left hother]
  · exact fun hread => ⟨body, rfl, hread⟩

/-- The docstring of a text of several lines closes on a line of its own. -/
theorem isTripled_several {first second : List Char} {others : List (List Char)}
    (h : lines cs = first :: second :: others) :
    IsTripled (joinedDocstring cs) (['\n'].intercalate (lines cs) ++ ['\n']) := by
  have hwrites := writes_lines cs
  rw [h] at hwrites
  generalize hwritten : lines (escapeLastQuote (escapeDoc cs)) = written at hwrites
  match written, hwrites with
  | start :: next :: rest, hwrites =>
    have hsplit : docstringChars cs =
        ((tripleQuote ++ start) :: next :: rest) ++ [tripleQuote] := by
      rw [docstringChars, hwritten]
      rfl
    have hjoined : joinedDocstring cs =
        tripleQuote ++ ((start :: next :: rest).flatMap (· ++ ['\n']) ++ tripleQuote) := by
      rw [joinedDocstring, hsplit, intercalate_concat]
      simp
    rw [hjoined, isTripled_iff, readTripled_lines hwrites, h, ← intercalate_ended (by simp)]
    exact congrArg (fun content => some (content, [])) (List.append_nil _)

/-- The docstring of a single line closes right behind it. -/
theorem joinedDocstring_one {line : List Char}
    (h : lines (escapeLastQuote (escapeDoc cs)) = [line]) :
    joinedDocstring cs = tripleQuote ++ (line ++ tripleQuote) := by
  rw [joinedDocstring, docstringChars, h, ← List.append_assoc]
  exact List.intercalate_singleton

/-- A text whose last quote is taken for an escaped one has no other quote in front of it. -/
theorem EndsEscaped.trailingQuotes_eq (h : EndsEscaped cs) : trailingQuotes cs = 1 := by
  obtain ⟨before, rfl⟩ := h
  simp [trailingQuotes, List.rtakeWhile]

/-- An escaped text is closed by the quotes behind it if none of its own run into these. -/
theorem readTripled_closed_iff :
    readTripled (escapeDoc cs ++ tripleQuote) = some (content, []) ↔
      content = cs ∧ trailingQuotes cs % 3 = 0 := by
  obtain ⟨other, hread, hother⟩ := readTripled_closing cs
  rw [hread, Option.some.injEq, Prod.mk.injEq, List.replicate_eq_nil_iff]
  refine and_congr_left fun hzero => ?_
  rw [hother hzero]
  exact eq_comm

/-- The docstring of a single line without an end. -/
theorem isTripled_last (h : '\n' ∉ cs) (hne : cs ≠ []) :
    IsTripled (joinedDocstring cs) content ↔ content = cs ∧ ¬ EndsEscaped cs := by
  rw [joinedDocstring_one (lines_escaped_last h hne), isTripled_iff]
  by_cases hends : EndsEscaped cs
  · rw [escapeLastQuote_endsEscaped hends, readTripled_closed_iff, hends.trailingQuotes_eq]
    exact iff_of_false (fun hclosed => absurd hclosed.2 (by decide)) fun hnot => hnot.2 hends
  · rw [readTripled_escapeLastQuote hends]
    simp [readBehind, readTripled, tripleQuote, hends, eq_comm]

/-- The docstring of a single line with an end. -/
theorem isTripled_ended {line : List Char} (h : '\n' ∉ line) :
    IsTripled (joinedDocstring (line ++ ['\n'])) content ↔
      content = withoutReturn line ∧ trailingQuotes (withoutReturn line) % 3 = 0 := by
  rw [joinedDocstring_one (lines_escaped_line h []), isTripled_iff, readTripled_closed_iff]

/-- A single line whose own quotes run into the closing ones: without an end it ends with a quote
behind a backslash, with an end its quotes in front of this are not a number of runs of three. -/
def EndsBare (cs : List Char) : Prop :=
  ∃ line, lines cs = [line] ∧
    if cs = line then EndsEscaped cs else trailingQuotes line % 3 ≠ 0

/-- The condition on the only line of a text. -/
theorem endsBare_iff {line : List Char} (h : lines cs = [line]) :
    EndsBare cs ↔ if cs = line then EndsEscaped cs else trailingQuotes line % 3 ≠ 0 := by
  constructor
  · rintro ⟨other, hother, hbare⟩
    obtain rfl : line = other := List.singleton_inj.1 (h.symm.trans hother)
    exact hbare
  · exact fun hbare => ⟨line, h, hbare⟩

/-- A line has no end in it. -/
theorem withoutReturn_one_line (h : '\n' ∉ cs) : '\n' ∉ withoutReturn cs := by
  obtain ⟨line, rfl, hline⟩ | ⟨-, hcs⟩ := withoutReturn_cases cs
  · rw [hline]
    exact fun hmem => h (List.mem_append_left _ hmem)
  · rwa [hcs]

/-- The docstring of a single line is a literal of that line, unless it ends in bare quotes. -/
theorem isTripled_single {line : List Char} (h : lines cs = [line]) :
    IsTripled (joinedDocstring cs) content ↔ content = line ∧ ¬ EndsBare cs := by
  rw [endsBare_iff h]
  by_cases hcs : '\n' ∈ cs
  · obtain ⟨first, rest, rfl, hfirst⟩ := List.eq_append_cons_of_mem hcs
    rw [lines_line hfirst, List.cons_eq_cons, lines_eq_nil_iff] at h
    obtain ⟨rfl, rfl⟩ := h
    have hne : first ++ ['\n'] ≠ withoutReturn first := fun heq =>
      withoutReturn_one_line hfirst (heq ▸ hcs)
    rw [isTripled_ended hfirst, if_neg hne, not_not]
  · have hne : cs ≠ [] := fun hnil => by
      rw [hnil] at h
      cases h
    obtain rfl : cs = line := List.singleton_inj.1 ((lines_last hcs hne).symm.trans h)
    rw [isTripled_last hcs hne, if_pos rfl]

/-- A docstring is a triple-quoted literal of the lines of its text, with a line end behind them if
there are several, unless the text is a single line whose quotes run into the closing ones. -/
theorem docstring_isTripled_iff (s : String) :
    (∃ content, IsTripled ("\n".intercalate (docstring s)).toList content ∧
      (content = ['\n'].intercalate (lines s.toList) ∨
        content = ['\n'].intercalate (lines s.toList) ++ ['\n'])) ↔
      ¬ EndsBare s.toList := by
  have hjoined : ("\n".intercalate (docstring s)).toList = joinedDocstring s.toList := by
    rw [String.toList_intercalate, docstring, List.map_map]
    simp [joinedDocstring, Function.comp_def]
  rw [hjoined]
  generalize s.toList = cs
  match hlines : lines cs with
  | [] =>
    obtain rfl := lines_eq_nil_iff.1 hlines
    exact iff_of_true ⟨[], ⟨tripleQuote, rfl, rfl⟩, .inl rfl⟩ fun ⟨line, hline, _⟩ => by cases hline
  | [line] =>
    simp only [isTripled_single hlines, List.intercalate_singleton]
    exact ⟨fun ⟨_, hcontent, _⟩ => hcontent.2, fun hbare => ⟨line, ⟨rfl, hbare⟩, .inl rfl⟩⟩
  | first :: second :: rest =>
    refine iff_of_true ⟨_, isTripled_several hlines, .inr (by rw [hlines])⟩ ?_
    rintro ⟨line, hline, -⟩
    rw [hlines] at hline
    cases hline

/-- A quote behind a backslash at the end of a text: the backslash is written twice, the quote as it
is, and so the literal is closed by it and the first two of the closing quotes. -/
theorem docstring_quote_behind_backslash :
    docstring "\\\"" = ["\"\"\"\\\\\"\"\"\""] ∧
      readTripled "\\\\\"\"\"\"".toList = some (['\\'], ['"']) ∧
      ∀ content, ¬ IsTripled ("\n".intercalate (docstring "\\\"")).toList content := by
  have hlines : docstring "\\\"" = ["\"\"\"\\\\\"\"\"\""] := by decide +kernel
  have hread : readTripled "\\\\\"\"\"\"".toList = some (['\\'], ['"']) := by decide +kernel
  refine ⟨hlines, hread, fun content => ?_⟩
  have hjoined : ("\n".intercalate (docstring "\\\"")).toList =
      tripleQuote ++ "\\\\\"\"\"\"".toList := by
    rw [hlines]
    decide +kernel
  rw [hjoined, isTripled_iff, hread]
  simp

end TypedJson.Script
