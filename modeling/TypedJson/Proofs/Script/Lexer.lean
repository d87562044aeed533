import TypedJson.Proofs.Script.Syntax

/-!
# Tokens of a line

A line is read from left to right by an automaton: words are runs of letters, digits, underscores
and characters beyond ASCII, literals stand between quotes of one kind and may hold escapes, spaces
separate, and the remaining marks stand for themselves.
-/

namespace TypedJson.Script

/-- A token of a line. -/
inductive Token where
  /-- A reserved word. -/
  | key (word : String)
  /-- Any other word. -/
  | word (word : String)
  | text (value : String)
  | mark (c : Char)
  deriving DecidableEq, Repr

/-- The character belongs to a word. -/
def isWordChar (c : Char) : Bool :=
  c.isAlphanum || c == '_' || 0x80 ≤ c.toNat

/-- The character opens and closes a literal. -/
def isQuote (c : Char) : Bool :=
  c == '"' || c == '\''

/-- The character is a token by itself. -/
def isMark (c : Char) : Bool :=
  ['(', ')', '[', ']', '\x7b', '\x7d', '.', ',', ':', '='].contains c

/-- The token of a word. -/
def Token.ofWord (word : String) : Token :=
  if reserved.contains word then .key word else .word word

/-- Where in a line reading stands. -/
inductive Mode where
  /-- Between tokens. -/
  | blank
  /-- Behind the given start of a word. -/
  | word (read : List Char)
  /-- Inside a literal. -/
  | quoted (quote : Char) (read : List Char)
  /-- Inside a literal, behind a backslash. -/
  | escaped (quote : Char) (read : List Char)
  /-- Inside a literal and before the given number of hexadecimal digits, behind digits of the given
  value. -/
  | coded (quote : Char) (read : List Char) (digits value : Nat)

/-- The value of a hexadecimal digit. -/
def hexValue? (c : Char) : Option Nat :=
  if c.isDigit then some (c.toNat - '0'.toNat)
  else if 'a' ≤ c ∧ c ≤ 'f' then some (c.toNat - 'a'.toNat + 10)
  else if 'A' ≤ c ∧ c ≤ 'F' then some (c.toNat - 'A'.toNat + 10)
  else none

/-- How reading goes on behind a backslash, at a character that is not itself meant. -/
def escapedMode (quote : Char) (read : List Char) (c : Char) : Option Mode :=
  match c with
  | '\\' => some (.quoted quote (read ++ ['\\']))
  | '"' => some (.quoted quote (read ++ ['"']))
  | '\'' => some (.quoted quote (read ++ ['\'']))
  | 'n' => some (.quoted quote (read ++ ['\n']))
  | 'r' => some (.quoted quote (read ++ ['\r']))
  | 't' => some (.quoted quote (read ++ ['\t']))
  | 'x' => some (.coded quote read 2 0)
  | 'u' => some (.coded quote read 4 0)
  | 'U' => some (.coded quote read 8 0)
  | _ => none

/-- Start the next token: the token that is complete with its first character, if it is, and how
reading goes on. There are no numbers. -/
def startToken (c : Char) : Option (List Token × Mode) :=
  if c = ' ' then some ([], .blank)
  else if c.isDigit then none
  else if isWordChar c then some ([], .word [c])
  else if isQuote c then some ([], .quoted c [])
  else if isMark c then some ([.mark c], .blank)
  else none

/-- Read one character: the tokens that end with it, and how reading goes on. A word `u` in front
of a literal only marks it as text. -/
def readChar (mode : Mode) (c : Char) : Option (List Token × Mode) :=
  match mode with
  | .blank => startToken c
  | .word read =>
    if isWordChar c then some ([], .word (read ++ [c]))
    else if isQuote c then if read = ['u'] then some ([], .quoted c []) else none
    else (startToken c).map fun next => (.ofWord (String.ofList read) :: next.1, next.2)
  | .quoted quote read =>
    if c = quote then some ([.text (String.ofList read)], .blank)
    else if c = '\\' then some ([], .escaped quote read)
    else if c = '\n' ∨ c = '\r' then none
    else some ([], .quoted quote (read ++ [c]))
  | .escaped quote read => (escapedMode quote read c).map fun next => ([], next)
  | .coded quote read digits value =>
    match hexValue? c with
    | none => none
    | some d =>
      if digits = 1 then some ([], .quoted quote (read ++ [Char.ofNat (16 * value + d)]))
      else some ([], .coded quote read (digits - 1) (16 * value + d))

/-- The tokens of the rest of a line. -/
def tokensFrom : Mode → List Char → Option (List Token)
  | .blank, [] => some []
  | .word read, [] => some [.ofWord (String.ofList read)]
  | _, [] => none
  | mode, c :: rest =>
    match readChar mode c with
    | none => none
    | some (tokens, next) => (tokensFrom next rest).map (tokens ++ ·)

/-- The tokens of a line. -/
def tokens? (line : List Char) : Option (List Token) :=
  tokensFrom .blank line

end TypedJson.Script
