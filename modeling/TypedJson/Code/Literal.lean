import TypedJson.Text.Line

/-!
# Literals and docstrings

`literal` writes a text as a double-quoted literal of printable ASCII characters that denotes it.
`docstring` writes a text as the lines of a triple-quoted literal.
-/

namespace TypedJson.Code

open Text

/-- A natural in lower-case hexadecimal digits, at least `width` of them. -/
def hexDigits (width n : Nat) : List Char :=
  let digits := Nat.toDigits 16 n
  List.replicate (width - digits.length) '0' ++ digits

/-- A character as it stands in a literal. -/
def literalChar (c : Char) : List Char :=
  if c = '\\' then ['\\', '\\']
  else if c = '"' then ['\\', '"']
  else if c = '\n' then ['\\', 'n']
  else if c = '\r' then ['\\', 'r']
  else if c = '\t' then ['\\', 't']
  else if c.toNat < 0x20 ∨ c.toNat = 0x7F then '\\' :: 'x' :: hexDigits 2 c.toNat
  else if c.toNat < 0x80 then [c]
  else if c.toNat ≤ 0xFFFF then '\\' :: 'u' :: hexDigits 4 c.toNat
  else '\\' :: 'U' :: hexDigits 8 c.toNat

/-- The literal of a text. One beyond ASCII is marked as text where the language asks for it. -/
def literalChars (marked : Bool) (cs : List Char) : List Char :=
  let quoted := '"' :: cs.flatMap literalChar ++ ['"']
  if marked && cs.any (fun c => 0x80 ≤ c.toNat) then 'u' :: quoted else quoted

/-- The literal of a text. -/
def literal (marked : Bool) (s : String) : String :=
  String.ofList (literalChars marked s.toList)

/-- Three double quotes, which open and close a docstring. -/
def tripleQuote : List Char :=
  ['"', '"', '"']

/-- Write backslashes twice and put one before each quote of a run of three. -/
def escapeDoc : List Char → List Char
  | [] => []
  | '\\' :: rest => '\\' :: '\\' :: escapeDoc rest
  | '"' :: '"' :: '"' :: rest => '\\' :: '"' :: '\\' :: '"' :: '\\' :: '"' :: escapeDoc rest
  | c :: rest => c :: escapeDoc rest

/-- Put a backslash before a quote that ends the text and has none. -/
def escapeLastQuote (cs : List Char) : List Char :=
  match cs.reverse with
  | '"' :: '\\' :: _ => cs
  | '"' :: before => before.reverse ++ ['\\', '"']
  | _ => cs

/-- The lines of the docstring of a text. A text of several lines puts the closing quotes on a line
of their own. -/
def docstringChars (cs : List Char) : List (List Char) :=
  match lines (escapeLastQuote (escapeDoc cs)) with
  | [] => [tripleQuote ++ tripleQuote]
  | [only] => [tripleQuote ++ only ++ tripleQuote]
  | first :: rest => (tripleQuote ++ first) :: (rest ++ [tripleQuote])

/-- The lines of the docstring of a text. -/
def docstring (s : String) : List String :=
  (docstringChars s.toList).map String.ofList

end TypedJson.Code
