import TypedJson.Naming.Word
import TypedJson.Proofs.Text.Casing
import TypedJson.Proofs.Text.Composition

/-!
# Texts of ASCII

Within ASCII a character of words is a small letter, a capital or a digit, no character is a mark, a
character has one form in the other case, and composing changes nothing. What is said of single
characters is checked for each of them (`ascii_all`).
-/

namespace TypedJson.Text

/-- The text is of ASCII characters. -/
def AllAscii (cs : List Char) : Prop :=
  ∀ c ∈ cs, c.toNat < 0x80

instance : DecidablePred AllAscii :=
  fun cs => decidable_of_iff (cs.all (·.toNat < 0x80)) (by simp [AllAscii])

variable {c : Char} {cs : List Char}

namespace AllAscii

/-- The first character is of ASCII, and so are those behind it. -/
theorem cons (h : AllAscii (c :: cs)) : c.toNat < 0x80 ∧ AllAscii cs :=
  List.forall_mem_cons.1 h

/-- A text is of ASCII if and only if its parts are. -/
theorem append_iff {xs ys : List Char} : AllAscii (xs ++ ys) ↔ AllAscii xs ∧ AllAscii ys :=
  List.forall_mem_append

/-- Composing leaves a text of ASCII as it is. -/
theorem compose_eq (h : AllAscii cs) : compose cs = cs :=
  compose_append_plain [] fun c hc => decide_eq_true (Nat.lt_trans (h c hc) (by decide))

/-- In upper case each character stands for itself. -/
theorem toUpperText_eq (h : AllAscii cs) : toUpperText cs = cs.map Char.toUpper := by
  induction cs with
  | nil => rfl
  | cons c cs ih =>
      obtain ⟨hc, hcs⟩ := h.cons
      have hform : upperForm c = [c.toUpper] := if_pos hc
      rw [toUpperText, List.flatMap_cons, hform]
      exact congrArg (c.toUpper :: ·) (ih hcs)

/-- So it does in lower case, where no sigma ends a word. -/
theorem toLowerText_eq (h : AllAscii cs) : toLowerText cs = cs.map Char.toLower := by
  suffices hmain : ∀ before, lowerFrom before cs = cs.map Char.toLower from hmain []
  induction cs with
  | nil => exact fun _ => rfl
  | cons c cs ih =>
      intro before
      obtain ⟨hc, hcs⟩ := h.cons
      have hform : lowerForm c = [c.toLower] := if_pos hc
      have hsigma : c ≠ capitalSigma := by
        rintro rfl
        exact absurd hc (by decide)
      rw [lowerFrom, if_neg fun hfinal => hsigma hfinal.1, hform, ih hcs]
      rfl

end AllAscii

/-! ## Characters of words -/

open Naming

/-- A small letter is no capital and no digit, and stands for a capital in upper case. -/
theorem ascii_small (hc : c.toNat < 0x80) (h : isLowercase c) :
    isUppercase c = false ∧ isNumeric c = false ∧ isUppercase c.toUpper := by
  revert h
  exact ascii_all (p := fun c => isLowercase c →
    isUppercase c = false ∧ isNumeric c = false ∧ isUppercase c.toUpper) (by decide) hc

/-- A capital is no small letter and no digit, and stands for a small letter in lower case. -/
theorem ascii_capital (hc : c.toNat < 0x80) (h : isUppercase c) :
    isLowercase c = false ∧ isNumeric c = false ∧ isLowercase c.toLower := by
  revert h
  exact ascii_all (p := fun c => isUppercase c →
    isLowercase c = false ∧ isNumeric c = false ∧ isLowercase c.toLower) (by decide) hc

/-- A digit is no letter with a case. -/
theorem ascii_digit (hc : c.toNat < 0x80) (h : isNumeric c) :
    isLowercase c = false ∧ isUppercase c = false := by
  revert h
  exact ascii_all (p := fun c => isNumeric c → isLowercase c = false ∧ isUppercase c = false)
    (by decide) hc

/-- No character is a mark, and those of words are small letters, capitals and digits. -/
theorem ascii_class (hc : c.toNat < 0x80) : isMark c = false ∧
    (Word.isWordChar c → isLowercase c ∨ isUppercase c ∨ isNumeric c) :=
  ascii_all (p := fun c => isMark c = false ∧
    (Word.isWordChar c → isLowercase c ∨ isUppercase c ∨ isNumeric c)) (by decide) hc

/-- Characters of words are admitted by every grammar, and letters may start identifiers. -/
theorem ascii_isPart (g : Grammar) (hc : c.toNat < 0x80) (h : Word.isWordChar c) : g.isPart c := by
  revert h
  cases g with
  | ascii =>
      exact ascii_all (p := fun c => Word.isWordChar c → Grammar.ascii.isPart c) (by decide) hc
  | unicode =>
      exact ascii_all (p := fun c => Word.isWordChar c → Grammar.unicode.isPart c) (by decide) hc

/-- The forms of a character are of ASCII, and one that is not small has no upper-case form of its
own, nor one that is no capital a lower-case form. -/
theorem ascii_forms (hc : c.toNat < 0x80) : c.toUpper.toNat < 0x80 ∧ c.toLower.toNat < 0x80 ∧
    (isLowercase c = false → c.toUpper = c) ∧ (isUppercase c = false → c.toLower = c) :=
  ascii_all (p := fun c => c.toUpper.toNat < 0x80 ∧ c.toLower.toNat < 0x80 ∧
    (isLowercase c = false → c.toUpper = c) ∧ (isUppercase c = false → c.toLower = c))
    (by decide) hc

namespace AllAscii

/-- Both forms of a text are of ASCII. -/
theorem map_forms (h : AllAscii cs) :
    AllAscii (cs.map Char.toUpper) ∧ AllAscii (cs.map Char.toLower) :=
  ⟨List.forall_mem_map.2 fun c hc => (ascii_forms (h c hc)).1,
    List.forall_mem_map.2 fun c hc => (ascii_forms (h c hc)).2.1⟩

/-- A text without small letters is its own upper-case form. -/
theorem map_toUpper (h : AllAscii cs) (hlarge : ∀ c ∈ cs, isLowercase c = false) :
    cs.map Char.toUpper = cs :=
  (List.map_congr_left fun c hc => (ascii_forms (h c hc)).2.2.1 (hlarge c hc)).trans
    (List.map_id _)

/-- A text without capitals is its own lower-case form. -/
theorem map_toLower (h : AllAscii cs) (hsmall : ∀ c ∈ cs, isUppercase c = false) :
    cs.map Char.toLower = cs :=
  (List.map_congr_left fun c hc => (ascii_forms (h c hc)).2.2.2 (hsmall c hc)).trans
    (List.map_id _)

end AllAscii

end TypedJson.Text
