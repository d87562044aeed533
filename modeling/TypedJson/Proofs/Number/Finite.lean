import Mathlib
import TypedJson.Number.Binary64

/-!
# Finite numbers

The binary64 number nearest to an integer of 64 bits, signed or not, is finite (`isFinite_ofInt`).
-/

namespace TypedJson.Binary64

/-- The number is neither an infinity nor without a value. -/
def IsFinite (x : Binary64) : Prop :=
  x.isNaN = false ∧ x.isInfinite = false

/-- A rounded quotient is at most one above the quotient. -/
theorem roundQuotient_le (num den : Nat) : roundQuotient num den ≤ num / den + 1 := by
  rw [roundQuotient]
  split
  · omega
  · split
    · omega
    · omega

/-- A natural scaled to its leading fifty-three bits, or to one more, stays below one bit more. -/
theorem scaled_lt {n : Nat} {k : Int} (hk : k ≤ 53 - (n.log2 : Int)) :
    (scaled n 1 k).1 / (scaled n 1 k).2 < 2 ^ 54 := by
  have hn : n < 2 ^ (n.log2 + 1) := Nat.lt_log2_self
  rw [scaled]
  split
  · show n * 2 ^ k.toNat / 1 < 2 ^ 54
    calc n * 2 ^ k.toNat / 1 = n * 2 ^ k.toNat := Nat.div_one _
      _ < 2 ^ (n.log2 + 1) * 2 ^ k.toNat :=
        Nat.mul_lt_mul_of_pos_right hn (Nat.two_pow_pos _)
      _ = 2 ^ (n.log2 + 1 + k.toNat) := (Nat.pow_add ..).symm
      _ ≤ 2 ^ 54 := Nat.pow_le_pow_right (by decide) (by omega)
  · show n / (1 * 2 ^ (-k).toNat) < 2 ^ 54
    rw [Nat.one_mul, Nat.div_lt_iff_lt_mul (Nat.two_pow_pos _)]
    calc n < 2 ^ (n.log2 + 1) := hn
      _ ≤ 2 ^ (54 + (-k).toNat) := Nat.pow_le_pow_right (by decide) (by omega)
      _ = 2 ^ 54 * 2 ^ (-k).toNat := Nat.pow_add ..

/-- The search of `nearestBits` settles on the first scale or on the next one. -/
theorem exists_scale (num den lead top : Nat) (guess least : Int) (hguess : guess ≤ least) :
    ∃ k, guess ≤ k ∧ k ≤ guess + 1 ∧
      (let (a, b) := scaled num den guess
       let k := min (if a < b * lead then guess + 1 else guess) least
       let (a, b) := scaled num den k
       min ((least - k).toNat * lead + roundQuotient a b) top) =
      min ((least - k).toNat * lead + roundQuotient (scaled num den k).1 (scaled num den k).2)
        top := by
  refine ⟨_, ?_, ?_, rfl⟩
  · split <;> omega
  · split <;> omega

/-- The magnitude nearest to a natural is found on the scale of its leading fifty-three bits, or on
the next one. -/
theorem nearestBits_le {n : Nat} (hn : n ≠ 0) :
    ∃ k : Int, 52 - (n.log2 : Int) ≤ k ∧ k ≤ 53 - (n.log2 : Int) ∧
      nearestBits n 1 ≤ (1074 - k).toNat * leadingBit +
        roundQuotient (scaled n 1 k).1 (scaled n 1 k).2 := by
  have hone : Nat.log2 1 = 0 := by decide
  -- The constants of the search are variables in `exists_scale`, so that nothing computes with them.
  obtain ⟨k, hlow, hhigh, hbits⟩ := exists_scale n 1 leadingBit infinityBits
    (52 - (n.log2 : Int) + Nat.log2 1) 1074 (by omega)
  refine ⟨k, by omega, by omega, ?_⟩
  rw [nearestBits, if_neg hn]
  exact hbits.trans_le (Nat.min_le_left _ _)

/-- The magnitude nearest to a natural of 64 bits is finite. -/
theorem nearestBits_lt {n : Nat} (h : n < 2 ^ 64) : nearestBits n 1 < infinityBits := by
  by_cases hn : n = 0
  · rw [hn]
    decide
  · have hlog : n.log2 < 64 := (Nat.log2_lt hn).2 h
    obtain ⟨k, hlow, hhigh, hbits⟩ := nearestBits_le hn
    have hround := roundQuotient_le (scaled n 1 k).1 (scaled n 1 k).2
    have hquotient := scaled_lt hhigh
    -- The exponent stays below the largest one, even with the carry of the rounding.
    have hexponent : (1074 - k).toNat ≤ 1085 := by omega
    refine hbits.trans_lt ?_
    rw [leadingBit, infinityBits]
    omega

/-- A number of a finite magnitude is finite. -/
theorem isFinite_ofMagnitude (negative : Bool) {m : Nat} (h : m < infinityBits) :
    (ofMagnitude negative m).IsFinite := by
  have hmagnitude : (ofMagnitude negative m).magnitude = m := by
    rw [infinityBits] at h
    rw [magnitude, ofMagnitude]
    cases negative with
    | true =>
        show (UInt64.ofNat (signBit + m)).toNat % signBit = m
        rw [UInt64.toNat_ofNat', signBit]
        omega
    | false =>
        show (UInt64.ofNat m).toNat % signBit = m
        rw [UInt64.toNat_ofNat', signBit]
        omega
  constructor
  · rw [isNaN, hmagnitude]
    exact decide_eq_false (Nat.lt_asymm h)
  · rw [isInfinite, hmagnitude]
    exact decide_eq_false (Nat.ne_of_lt h)

/-- The number nearest to an integer of 64 bits is finite. -/
theorem isFinite_ofInt {i : Int} (h : i.natAbs < 2 ^ 64) : (ofInt i).IsFinite :=
  isFinite_ofMagnitude _ (nearestBits_lt h)

end TypedJson.Binary64
