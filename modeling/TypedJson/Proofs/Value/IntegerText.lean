import TypedJson.Proofs.Text.Digits
import TypedJson.Value.Integer

/-!
# Integers and their texts

An integer of 64 bits is read back from its decimal text.
-/

namespace TypedJson.Integer

open Text

/-- The integers that texts stand for have 64 bits. -/
theorem parse?_bounds {s : String} {i : Int} (h : parse? s = some i) :
    -0x8000000000000000 ≤ i ∧ i < 0x8000000000000000 := by
  rw [parse?, Option.filter_eq_some_iff] at h
  simpa using h.2

/-- The decimal digits of a natural are read back. -/
theorem natural?_toDigits (n : Nat) : natural? (Nat.toDigits 10 n) = some n := by
  have hdigits : (Nat.toDigits 10 n).all Char.isDigit := by
    rw [List.all_eq_true]
    exact fun c hc => Nat.isDigit_of_mem_toDigits (by decide) (by decide) hc
  rw [natural?, if_pos ⟨Nat.toDigits_ne_nil, hdigits⟩, foldl_digits,
    Nat.ofDigitChars_ten_toDigits]

/-- The text of an integer has its sign in front of its digits. -/
theorem toList_toString (i : Int) : (toString i).toList
    = if i < 0 then '-' :: Nat.toDigits 10 i.natAbs else Nat.toDigits 10 i.natAbs := by
  cases i with
  | ofNat n =>
      have hsign : ¬ Int.ofNat n < 0 := Int.not_lt.2 (Int.natCast_nonneg n)
      rw [if_neg hsign]
      exact Nat.toList_repr
  | negSucc n =>
      rw [if_pos (Int.negSucc_lt_zero n)]
      show ("-" ++ Nat.repr (n + 1)).toList = _
      rw [String.toList_append, Nat.toList_repr]
      rfl

/-- The text of an integer has no white space at its ends. -/
theorem trimBlanks_toString (i : Int) : trimBlanks (toString i).toList = (toString i).toList := by
  have hdigit {c : Char} (hc : c ∈ Nat.toDigits 10 i.natAbs) : isBlank c = false :=
    isBlank_digit (Nat.isDigit_of_mem_toDigits (by decide) (by decide) hc)
  rw [toList_toString]
  apply trimBlanks_eq
  · intro c hc
    split at hc
    · cases hc
      decide
    · exact hdigit (List.mem_of_head? hc)
  · intro c hc
    split at hc
    · obtain rfl | hc := List.mem_cons.1 (List.mem_of_getLast? hc)
      · decide
      · exact hdigit hc
    · exact hdigit (List.mem_of_getLast? hc)

/-- An integer of 64 bits is read back from its text. -/
theorem parse?_toString {i : Int} (h : -0x8000000000000000 ≤ i ∧ i < 0x8000000000000000) :
    parse? (toString i) = some i := by
  have hsigned : signed? (toString i).toList = some i := by
    rw [toList_toString]
    split
    · have habs : -(i.natAbs : Int) = i := by omega
      rw [signed?, natural?_toDigits]
      exact congrArg some habs
    · have habs : (i.natAbs : Int) = i := by omega
      obtain ⟨c, cs, hcons, hc⟩ := head_toDigits i.natAbs
      have hnatural := natural?_toDigits i.natAbs
      rw [hcons] at hnatural ⊢
      rw [signed?.eq_def]
      split
      · rename_i heq
        cases heq
        exact absurd hc (by decide)
      · rename_i heq
        cases heq
        exact absurd hc (by decide)
      · rw [hnatural]
        exact congrArg some habs
  rw [parse?, trimBlanks_toString, hsigned, Option.filter_some, if_pos]
  simpa using h

end TypedJson.Integer
