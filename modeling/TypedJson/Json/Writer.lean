import TypedJson.Json.Basic
import TypedJson.Number.Decimal

/-!
# Writing JSON text

`compact` writes a value on one line without spaces, and `pretty` over several lines, two spaces
per level. Both escape the quote, the backslash and the control characters of texts, and write
every other character as itself. A number that is no finite one is written as null.
-/

namespace TypedJson.Json

/-- A code unit below `0x100` as four hexadecimal digits. -/
def unitDigits (n : Nat) : List Char :=
  ['0', '0', Nat.digitChar (n / 16), Nat.digitChar (n % 16)]

/-- A character of a text as it is written. -/
def escapeChar (c : Char) : List Char :=
  if c = '"' then ['\\', '"']
  else if c = '\\' then ['\\', '\\']
  else if c = '\x08' then ['\\', 'b']
  else if c = '\x0c' then ['\\', 'f']
  else if c = '\n' then ['\\', 'n']
  else if c = '\r' then ['\\', 'r']
  else if c = '\t' then ['\\', 't']
  else if c.toNat < 0x20 then '\\' :: 'u' :: unitDigits c.toNat
  else [c]

/-- A text between its quotes. -/
def writeText (s : String) : List Char :=
  '"' :: s.toList.flatMap escapeChar ++ ['"']

/-- A value that is neither a list nor an object. -/
def writeScalar : Json → List Char
  | .bool true => ['t', 'r', 'u', 'e']
  | .bool false => ['f', 'a', 'l', 's', 'e']
  | .int i => (toString i).toList
  | .float x =>
    if x.isNaN || x.isInfinite then ['n', 'u', 'l', 'l'] else x.text.toList
  | .text s => writeText s
  | _ => ['n', 'u', 'l', 'l']

mutual
/-- The value without spaces. -/
def compactChars : Json → List Char
  | .list items => '[' :: compactItems items ++ [']']
  | .object members => '\x7b' :: compactMembers members ++ ['\x7d']
  | scalar => writeScalar scalar

/-- The items of a list, with commas between. -/
def compactItems : List Json → List Char
  | [] => []
  | [item] => compactChars item
  | item :: rest => compactChars item ++ ',' :: compactItems rest

/-- The members of an object, with commas between. -/
def compactMembers : List (String × Json) → List Char
  | [] => []
  | [(name, value)] => writeText name ++ ':' :: compactChars value
  | (name, value) :: rest =>
    writeText name ++ ':' :: compactChars value ++ ',' :: compactMembers rest
end

/-- A new line at the given level. -/
def newLine (level : Nat) : List Char :=
  '\n' :: List.replicate (2 * level) ' '

mutual
/-- The value over several lines, its inner lines one level deeper than the given one. -/
def prettyChars (level : Nat) : Json → List Char
  | .list [] => ['[', ']']
  | .list items => '[' :: prettyItems (level + 1) items ++ newLine level ++ [']']
  | .object [] => ['\x7b', '\x7d']
  | .object members => '\x7b' :: prettyMembers (level + 1) members ++ newLine level ++ ['\x7d']
  | scalar => writeScalar scalar

/-- The items of a list, each on a new line. -/
def prettyItems (level : Nat) : List Json → List Char
  | [] => []
  | [item] => newLine level ++ prettyChars level item
  | item :: rest => newLine level ++ prettyChars level item ++ ',' :: prettyItems level rest

/-- The members of an object, each on a new line. -/
def prettyMembers (level : Nat) : List (String × Json) → List Char
  | [] => []
  | [(name, value)] => newLine level ++ writeText name ++ ':' :: ' ' :: prettyChars level value
  | (name, value) :: rest =>
    newLine level ++ writeText name ++ ':' :: ' ' :: prettyChars level value
      ++ ',' :: prettyMembers level rest
end

/-- The text of a value on one line. -/
def compact (j : Json) : String :=
  String.ofList (compactChars j)

/-- The text of a value over several lines. -/
def pretty (j : Json) : String :=
  String.ofList (prettyChars 0 j)

end TypedJson.Json
