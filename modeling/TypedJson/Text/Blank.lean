import TypedJson.Text.CodeSet

/-!
# White space

The white-space characters, and text without those at its two ends.
-/

namespace TypedJson.Text

namespace Table

/-- White space beyond ASCII. -/
def blank : CodeSet := ⟨
    [0x85, 0x86, 0xA0, 0xA1, 0x1680, 0x1681, 0x2000, 0x200B, 0x2028, 0x202A, 0x202F, 0x2030,
     0x205F, 0x2060, 0x3000, 0x3001]⟩

end Table

/-- The character is white space: a space, a tab, a line end, or one of the wide and narrow
spaces beyond ASCII. -/
def isBlank (c : Char) : Bool :=
  if c.toNat < 0x80 then c == ' ' || (9 ≤ c.toNat && c.toNat ≤ 13) else Table.blank.contains c

/-- The text from its first character that is not white space. -/
def skipBlanks (cs : List Char) : List Char :=
  cs.dropWhile isBlank

/-- The text without white space at its two ends. -/
def trimBlanks (cs : List Char) : List Char :=
  (skipBlanks (skipBlanks cs).reverse).reverse

end TypedJson.Text
