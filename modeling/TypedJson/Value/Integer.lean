import TypedJson.Text.Blank

/-!
# Integers in texts

A text stands for an integer of 64 bits if, apart from white space at its ends, it is a row of ASCII
digits with at most one sign in front.
-/

namespace TypedJson.Integer

open Text

/-- The natural that a row of digits writes. -/
def natural? (cs : List Char) : Option Nat :=
  if cs ≠ [] ∧ cs.all Char.isDigit then
    some (cs.foldl (fun n c => n * 10 + (c.toNat - '0'.toNat)) 0)
  else none

/-- The integer of a sign and a row of digits. -/
def signed? : List Char → Option Int
  | '-' :: rest => (natural? rest).map fun n => -(n : Int)
  | '+' :: rest => (natural? rest).map fun n => (n : Int)
  | cs => (natural? cs).map fun n => (n : Int)

/-- The integer that a text stands for. -/
def parse? (s : String) : Option Int :=
  (signed? (trimBlanks s.toList)).filter fun i =>
    -0x8000000000000000 ≤ i ∧ i < 0x8000000000000000

end TypedJson.Integer
