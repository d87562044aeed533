import TypedJson.Number.Binary64

/-!
# Decimal text of binary64 numbers

`Decimal.shortest` finds the fewest decimal digits that read back as a given number, and of those
with that many digits the nearest. `Binary64.text` lays them out: positional from one ten-thousandth
up to below ten to the sixteenth, with at least one digit behind the point, and in scientific form
elsewhere.

In the other direction, `Numeral.magnitude?` reads a decimal the way the graph and data readers
do: the digits that fit a 64-bit word form the significand, which is then scaled by powers of ten
in binary64 arithmetic. A result beyond the largest number is no number.
-/

namespace TypedJson

/-- A positive decimal: the digits as a natural, times ten to the exponent. -/
structure Decimal where
  digits : Nat
  exponent : Int
  deriving DecidableEq, Repr

namespace Decimal

/-- Multiply a quotient by a power of ten. -/
def scaleTen (num den : Nat) (k : Int) : Nat × Nat :=
  if 0 ≤ k then (num * Nat.pow 10 k.toNat, den) else (num, den * Nat.pow 10 (-k).toNat)

/-- The number of decimal digits of a natural, at least one. -/
def digitCount (n : Nat) : Nat :=
  (Nat.toDigits 10 n).length

/-- The power of ten of the first digit of a positive quotient. -/
def leadingPower (num den : Nat) : Int :=
  if den ≤ num then (digitCount (num / den) : Int) - 1
  else
    let k := digitCount (den / num)
    if den ≤ num * Nat.pow 10 (k - 1) then 1 - (k : Int) else -(k : Int)

/-- The interval of the reals that read back as a magnitude, in quarters of its last place: the
significand below, at and above the number, and whether the ends belong to it. -/
structure Interval where
  low : Nat
  mid : Nat
  high : Nat
  closed : Bool

/-- The interval of a positive magnitude. The gap below a power of two is half as wide. -/
def interval (magnitude : Nat) : Interval :=
  let m := Binary64.significand magnitude
  let halved := m = Binary64.leadingBit ∧ 2 * Binary64.leadingBit ≤ magnitude
  ⟨if halved then 4 * m - 1 else 4 * m - 2, 4 * m, 4 * m + 2, m % 2 = 0⟩

/-- A quotient lies in the interval, all counted in quarters of `unit`. -/
def Interval.holds (i : Interval) (unit : Nat × Nat) (num den : Nat) : Bool :=
  let x := num * (4 * unit.2)
  let low := i.low * unit.1 * den
  let high := i.high * unit.1 * den
  if i.closed then low ≤ x && x ≤ high else low < x && x < high

/-- The best decimal of a positive magnitude on the grid of multiples of `10 ^ k`, if one of the two
neighbours of the number reads back. Of two that do, the nearer one; of two equally near, the
upper one. -/
def onGrid? (magnitude : Nat) (k : Int) : Option Decimal :=
  let i := interval magnitude
  let unit := (Nat.pow 2 (Binary64.exponentLift magnitude), Nat.pow 2 1074)
  let (num, den) := scaleTen (Binary64.significand magnitude * unit.1) unit.2 (-k)
  let below := num / den
  let twice := 2 * (num % den)
  let fits (d : Nat) : Bool :=
    let (p, q) := scaleTen d 1 k
    i.holds unit p q
  let nearer := if twice < den then below else below + 1
  let farther := if twice < den then below + 1 else below
  if fits nearer then some ⟨nearer, k⟩
  else if fits farther then some ⟨farther, k⟩
  else none

/-- The first grid with a decimal that reads back, from grid `10 ^ k` on to finer ones. -/
def search (magnitude : Nat) : Nat → Int → Decimal
  | 0, k => (onGrid? magnitude k).getD ⟨0, 0⟩
  | finer + 1, k => (onGrid? magnitude k).getD (search magnitude finer (k - 1))

/-- The shortest decimal that reads back as a positive magnitude. Seventeen digits always do. -/
def shortest (magnitude : Nat) : Decimal :=
  let (num, den) := Binary64.quotient magnitude
  search magnitude 17 (leadingPower num den)

end Decimal

namespace Binary64

/-- Digits with a point behind the first `whole` of them, which may reach before or beyond them. -/
def positional (digits : List Char) (whole : Int) : List Char :=
  if whole ≤ 0 then
    ['0', '.'] ++ List.replicate (-whole).toNat '0' ++ digits
  else if (digits.length : Int) ≤ whole then
    digits ++ List.replicate (whole.toNat - digits.length) '0' ++ ['.', '0']
  else
    digits.take whole.toNat ++ '.' :: digits.drop whole.toNat

/-- Digits with a point behind the first and the power of ten of the first digit. -/
def scientific (digits : List Char) (power : Int) : List Char :=
  let fraction := match digits.drop 1 with
    | [] => []
    | rest => '.' :: rest
  digits.take 1 ++ fraction ++ 'e' :: (toString power).toList

/-- The digits of a decimal without closing zeros, and the power of ten of the first one. -/
def leadingDigits (d : Decimal) : List Char × Int :=
  let all := Nat.toDigits 10 d.digits
  ((all.reverse.dropWhile (· == '0')).reverse, d.exponent + (all.length : Int) - 1)

/-- The text of a finite magnitude. -/
def magnitudeText (magnitude : Nat) : List Char :=
  if magnitude = 0 then ['0', '.', '0']
  else
    let (digits, power) := leadingDigits (Decimal.shortest magnitude)
    if -4 ≤ power ∧ power < 16 then positional digits (power + 1) else scientific digits power

/-- The shortest text of a number. -/
def text (x : Binary64) : String :=
  if x.isNaN then "NaN"
  else
    let unsigned := if x.isInfinite then ['i', 'n', 'f'] else magnitudeText x.magnitude
    String.ofList (if x.isNegative then '-' :: unsigned else unsigned)

end Binary64

/-- A decimal literal: its sign, the digits before and behind the point, and the exponent. -/
structure Numeral where
  negative : Bool
  whole : List Nat
  fraction : Option (List Nat)
  exponent : Option Int
  deriving DecidableEq, Repr

namespace Numeral

/-- Append digits to a significand as long as it stays below `2 ^ 64`; the result is the grown
significand and the digits from the first one that does not fit. -/
def takeDigits (significand : Nat) : List Nat → Nat × List Nat
  | [] => (significand, [])
  | d :: rest =>
    if significand * 10 + d < 0x10000000000000000 then takeDigits (significand * 10 + d) rest
    else (significand, d :: rest)

/-- The integer that a literal without point and exponent stands for, if it fits a 64-bit word,
signed when it is negative. The negative zero is no integer. -/
def integer? (n : Numeral) : Option Int :=
  match n.fraction, n.exponent, takeDigits 0 n.whole with
  | none, none, (significand, []) =>
    if n.negative then
      if 0 < significand ∧ significand ≤ 0x8000000000000000 then some (-(significand : Int))
      else none
    else some significand
  | _, _, _ => none

/-- The magnitude of ten to the given power. -/
def powerBits (k : Nat) : Nat :=
  Binary64.nearestBits (Nat.pow 10 k) 1

/-- Scale a magnitude by a power of ten. Powers below `10 ^ -308` are taken in several divisions,
at the end of which nothing is left. -/
def scaleBits : Nat → Nat → Int → Option Nat
  | divisions, magnitude, k =>
    if magnitude = 0 then some 0
    else if 308 < k then none
    else if 0 ≤ k then
      let product := Binary64.mulBits magnitude (powerBits k.toNat)
      if product = Binary64.infinityBits then none else some product
    else if -308 ≤ k then some (Binary64.divBits magnitude (powerBits (-k).toNat))
    else match divisions with
      | 0 => some 0
      | divisions + 1 => scaleBits divisions (Binary64.divBits magnitude (powerBits 308)) (k + 308)

/-- The magnitude of a literal, or none if it is too large. -/
def magnitude? (n : Numeral) : Option Nat :=
  let (wholePart, dropped) := takeDigits 0 n.whole
  let fraction := n.fraction.getD []
  let (significand, unread) := takeDigits wholePart fraction
  let point : Int := (dropped.length : Int) - ((fraction.length - unread.length : Nat) : Int)
  scaleBits 3 (Binary64.nearestBits significand 1) (point + n.exponent.getD 0)

/-- The binary64 number of a literal, or none if it is too large. -/
def binary64? (n : Numeral) : Option Binary64 :=
  n.magnitude?.map (Binary64.ofMagnitude n.negative)

end Numeral

end TypedJson
