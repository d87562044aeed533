/-!
# Sets of code points

A set of code points is kept as the ascending list of the points at which membership switches,
starting outside the set: the members from the first point up to the second, from the third up to
the fourth, and so on. `containsFrom` reads the list from the left and stops at the first point
beyond the one asked about.
-/

namespace TypedJson.Text

/-- A set of code points, given by the ascending points at which membership switches. -/
structure CodeSet where
  switches : List Nat

namespace CodeSet

/-- Membership when reading starts outside the set: each switch that has been passed inverts the
answer of the switches behind it. -/
def containsFrom : List Nat → Nat → Bool
  | [], _ => false
  | point :: rest, n => if n < point then false else !containsFrom rest n

/-- The code point is in the set. -/
def containsCode (s : CodeSet) (n : Nat) : Bool :=
  containsFrom s.switches n

/-- The character is in the set. -/
def contains (s : CodeSet) (c : Char) : Bool :=
  s.containsCode c.toNat

end CodeSet

end TypedJson.Text
