import TypedJson.Text.CombiningClass
import TypedJson.Text.Decomposition

/-!
# Composed normal form

Two spellings of a text are canonically equivalent if they decompose into the same characters up
to the order of marks that commute. `compose` gives one spelling for each class: it decomposes
every character, puts the marks behind each base into ascending order of class, and joins bases
and marks again wherever no other mark stands between them.
-/

namespace TypedJson.Text

/-! ## Syllables that compose by arithmetic -/

namespace Syllable

def leadBase : Nat := 0x1100
def vowelBase : Nat := 0x1161
def tailBase : Nat := 0x11A7
def base : Nat := 0xAC00
def leadCount : Nat := 19
def vowelCount : Nat := 21
def tailCount : Nat := 28

/-- The code point is a composed syllable. -/
def isSyllable (n : Nat) : Bool :=
  base ≤ n && n < base + leadCount * vowelCount * tailCount

/-- The letters of a composed syllable: a lead, a vowel and perhaps a tail. -/
def decompose (n : Nat) : List Nat :=
  let index := n - base
  let letters := [leadBase + index / (vowelCount * tailCount),
    vowelBase + index / tailCount % vowelCount]
  if index % tailCount = 0 then letters else letters ++ [tailBase + index % tailCount]

/-- A lead and a vowel join into a syllable, and a syllable without a tail takes one. -/
def compose? (a b : Nat) : Option Nat :=
  if leadBase ≤ a ∧ a < leadBase + leadCount ∧ vowelBase ≤ b ∧ b < vowelBase + vowelCount then
    some (base + ((a - leadBase) * vowelCount + (b - vowelBase)) * tailCount)
  else if isSyllable a ∧ (a - base) % tailCount = 0 ∧ tailBase < b ∧ b < tailBase + tailCount then
    some (a + (b - tailBase))
  else none

end Syllable

/-! ## Decomposing -/

/-- Decompose a code point through at most the given number of table entries, which follow one
another in the first character only. -/
def decomposeWithin : Nat → Nat → List Nat
  | 0, n => [n]
  | steps + 1, n =>
    match decomposeStep? n with
    | some (first :: rest) => decomposeWithin steps first ++ rest
    | _ => [n]

/-- The canonical decomposition of a character. No table entry leads to a chain of more than four
entries. -/
def decomposition (c : Char) : List Char :=
  if c.toNat < 0xC0 then [c]
  else if Syllable.isSyllable c.toNat then (Syllable.decompose c.toNat).map Char.ofNat
  else (decomposeWithin 4 c.toNat).map Char.ofNat

/-! ## Ordering marks -/

/-- Put a character behind the reversed text, but a mark in front of the marks of a greater class
that end the text. -/
def insertMark (c : Char) : List Char → List Char
  | [] => [c]
  | d :: rest =>
    if combiningClass c ≠ 0 ∧ combiningClass c < combiningClass d then d :: insertMark c rest
    else c :: d :: rest

/-- The text with the marks behind each base in ascending order of class, marks of one class in
their given order. -/
def orderMarks (cs : List Char) : List Char :=
  (cs.foldl (fun before c => insertMark c before) []).reverse

/-! ## Composing -/

/-- The character that a base and the character behind it compose to. -/
def composeChars? (base c : Char) : Option Char :=
  match Syllable.compose? base.toNat c.toNat with
  | some n => some (Char.ofNat n)
  | none => (composePair? base.toNat c.toNat).map Char.ofNat

/-- Join the characters behind `base`, given the reversed marks that already stand between. A
mark is blocked from the base by a mark of its own or a greater class. -/
def joinMarks (base : Char) (between : List Char) : List Char → List Char
  | [] => base :: between.reverse
  | c :: rest =>
    let blocked := match between with
      | [] => false
      | d :: _ => combiningClass c ≤ combiningClass d
    match if blocked then none else composeChars? base c with
    | some joined => joinMarks joined between rest
    | none =>
      if combiningClass c = 0 then base :: (between.reverse ++ joinMarks c [] rest)
      else joinMarks base (c :: between) rest

/-- Join bases and marks of a decomposed and ordered text. Marks without a base stay. -/
def joinAll : List Char → List Char
  | [] => []
  | c :: rest => if combiningClass c = 0 then joinMarks c [] rest else c :: joinAll rest

/-- The composed normal form of a text. -/
def compose (cs : List Char) : List Char :=
  joinAll (orderMarks (cs.flatMap decomposition))

end TypedJson.Text
