import Mathlib
import TypedJson.Text.Blank

/-!
# Digits in texts

What the readers of numbers need to know of decimal digits: where a run of them stops, what a row of
them writes, and that no white space is among them.
-/

namespace TypedJson.Text

/-! ## Runs that a text behind them does not prolong -/

/-- A run stops in front of a text whose first character does not continue it. -/
theorem takeWhile_append_stop {p : Char → Bool} {back : List Char}
    (h : ∀ c ∈ back.head?, p c = false) (front : List Char) :
    (front ++ back).takeWhile p = front.takeWhile p := by
  have hback : back.takeWhile p = [] := by
    cases back with
    | nil => rfl
    | cons c rest => simp [h c rfl]
  rw [List.takeWhile_append, hback]
  split
  · next hall => simp [(List.takeWhile_prefix p).eq_of_length hall]
  · rfl

/-- What stands behind a run keeps a text whose first character does not continue it. -/
theorem dropWhile_append_stop {p : Char → Bool} {back : List Char}
    (h : ∀ c ∈ back.head?, p c = false) (front : List Char) :
    (front ++ back).dropWhile p = front.dropWhile p ++ back := by
  have hback : back.dropWhile p = back := by
    cases back with
    | nil => rfl
    | cons c rest => simp [h c rfl]
  rw [List.dropWhile_append, hback]
  split
  · next hnil => simp [List.isEmpty_iff.1 hnil]
  · rfl

/-! ## Rows of digits -/

/-- The decimal text of a natural starts with a digit. -/
theorem head_toDigits (n : Nat) : ∃ c cs, Nat.toDigits 10 n = c :: cs ∧ c.isDigit := by
  obtain ⟨c, cs, hcons⟩ := List.exists_cons_of_ne_nil (Nat.toDigits_ne_nil (b := 10) (n := n))
  have hmem : c ∈ Nat.toDigits 10 n := hcons ▸ List.mem_cons_self
  exact ⟨c, cs, hcons, Nat.isDigit_of_mem_toDigits (by decide) (by decide) hmem⟩

/-- A row of digits read from the left writes the natural that they have in base ten. -/
theorem foldl_digits (ds : List Char) :
    ds.foldl (fun n c => n * 10 + (c.toNat - '0'.toNat)) 0 = Nat.ofDigitChars 10 ds 0 := by
  rw [Nat.ofDigitChars_eq_foldl]
  congr
  funext n c
  rw [Nat.mul_comm]

/-- A digit is no white space. -/
theorem isBlank_digit {c : Char} (h : c.isDigit) : isBlank c = false := by
  obtain ⟨hfirst, hlast⟩ : 48 ≤ c.toNat ∧ c.toNat ≤ 57 := Char.isDigit_iff_toNat.1 h
  have hspace : c ≠ ' ' := by
    rintro rfl
    exact absurd h (by decide)
  have hascii : c.toNat < 0x80 := by omega
  rw [isBlank, if_pos hascii]
  simp only [Bool.or_eq_false_iff, beq_eq_false_iff_ne, ne_eq, hspace, not_false_eq_true,
    Bool.and_eq_false_iff, decide_eq_false_iff_not, true_and]
  right
  omega

/-- A text with no white space at its ends is not trimmed. -/
theorem trimBlanks_eq {cs : List Char} (hfirst : ∀ c, cs.head? = some c → isBlank c = false)
    (hlast : ∀ c, cs.getLast? = some c → isBlank c = false) : trimBlanks cs = cs := by
  have hskip : ∀ {ds : List Char}, (∀ c, ds.head? = some c → isBlank c = false) →
      skipBlanks ds = ds := by
    intro ds hds
    cases ds with
    | nil => rfl
    | cons d ds => exact List.dropWhile_cons_of_neg (by simp [hds d rfl])
  rw [trimBlanks, hskip hfirst, hskip, List.reverse_reverse]
  rwa [List.head?_reverse]

end TypedJson.Text
