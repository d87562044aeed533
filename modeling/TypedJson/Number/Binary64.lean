/-!
# Binary64 numbers

A binary64 number is its 64 bits: a sign, eleven bits of exponent and fifty-two of fraction. A
finite magnitude is a significand times a power of two. `nearestBits` rounds an exact quotient to
the nearest magnitude, a tie to the even one, and every operation here is that rounding of an
exact result.
-/

namespace TypedJson

/-- A binary64 number, given by its bits. -/
structure Binary64 where
  bits : UInt64
  deriving DecidableEq, Repr

namespace Binary64

/-- The magnitude bits of infinity. -/
def infinityBits : Nat := 0x7FF0000000000000

/-- The bit of the sign. -/
def signBit : Nat := 0x8000000000000000

/-- The leading bit of a significand, which the fraction bits follow. -/
def leadingBit : Nat := 0x10000000000000

/-- The number with the given sign and magnitude bits. -/
def ofMagnitude (negative : Bool) (magnitude : Nat) : Binary64 :=
  ⟨UInt64.ofNat (if negative then signBit + magnitude else magnitude)⟩

/-- The bits without the sign. -/
def magnitude (x : Binary64) : Nat :=
  x.bits.toNat % signBit

/-- The sign bit is set. -/
def isNegative (x : Binary64) : Bool :=
  signBit ≤ x.bits.toNat

/-- The number stands for no value. -/
def isNaN (x : Binary64) : Bool :=
  infinityBits < x.magnitude

/-- The number is an infinity of either sign. -/
def isInfinite (x : Binary64) : Bool :=
  x.magnitude = infinityBits

/-- The significand of a finite magnitude. -/
def significand (magnitude : Nat) : Nat :=
  if magnitude < leadingBit then magnitude else leadingBit + magnitude % leadingBit

/-- How far the least exponent, `-1074`, is below the exponent of a finite magnitude. -/
def exponentLift (magnitude : Nat) : Nat :=
  magnitude / leadingBit - 1

/-- The quotient of the naturals as a numerator and a denominator after scaling by `2 ^ k`. -/
def scaled (num den : Nat) (k : Int) : Nat × Nat :=
  if 0 ≤ k then (num * Nat.pow 2 k.toNat, den) else (num, den * Nat.pow 2 (-k).toNat)

/-- The nearest natural to a quotient, the even one of two. -/
def roundQuotient (num den : Nat) : Nat :=
  let q := num / den
  let twice := 2 * (num % den)
  if twice < den then q
  else if den < twice then q + 1
  else q + q % 2

/-- The magnitude bits nearest to a quotient, those of infinity if it is too large. The scale is
chosen so that the rounded quotient has fifty-three bits, or fewer at the least exponent; it then
carries its leading bit into the exponent field. -/
def nearestBits (num den : Nat) : Nat :=
  if num = 0 then 0
  else
    let guess : Int := 52 - (num.log2 : Int) + den.log2
    let (a, b) := scaled num den guess
    let k := min (if a < b * leadingBit then guess + 1 else guess) 1074
    let (a, b) := scaled num den k
    min ((1074 - k).toNat * leadingBit + roundQuotient a b) infinityBits

/-- The number nearest to an integer. -/
def ofInt (i : Int) : Binary64 :=
  ofMagnitude (i < 0) (nearestBits i.natAbs 1)

/-- A finite magnitude as an exact quotient. -/
def quotient (magnitude : Nat) : Nat × Nat :=
  (significand magnitude * Nat.pow 2 (exponentLift magnitude), Nat.pow 2 1074)

/-- The magnitude nearest to the product of two finite ones. -/
def mulBits (a b : Nat) : Nat :=
  let (p, q) := quotient a
  let (r, s) := quotient b
  nearestBits (p * r) (q * s)

/-- The magnitude nearest to the quotient of two finite ones, of which the second is not zero. -/
def divBits (a b : Nat) : Nat :=
  let (p, q) := quotient a
  let (r, s) := quotient b
  nearestBits (p * s) (q * r)

end Binary64

end TypedJson
