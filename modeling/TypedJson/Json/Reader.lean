import TypedJson.Json.Basic
import TypedJson.Number.Decimal

/-!
# Reading JSON text

`Json.read?` reads one value, with JSON white space around it and nothing else, and refuses all
text outside the JSON grammar: comments, closing commas, leading zeros, and raw control characters
in texts. The reader is a set of functions that read one form from the head of the characters and
return the rest.
-/

namespace TypedJson.Json

/-- The character may stand between the tokens of JSON text. -/
def isSpace (c : Char) : Bool :=
  c == ' ' || c == '\n' || c == '\t' || c == '\r'

/-- The text from its next token. -/
def skipSpace (cs : List Char) : List Char :=
  cs.dropWhile isSpace

/-! ## Texts -/

/-- The value of a hexadecimal digit. -/
def hexDigit? (c : Char) : Option Nat :=
  if c.isDigit then some (c.toNat - '0'.toNat)
  else if 'a' ≤ c ∧ c ≤ 'f' then some (c.toNat - 'a'.toNat + 10)
  else if 'A' ≤ c ∧ c ≤ 'F' then some (c.toNat - 'A'.toNat + 10)
  else none

/-- The code unit that four hexadecimal digits write. -/
def codeUnit? (a b c d : Char) : Option Nat := do
  let p ← hexDigit? a
  let q ← hexDigit? b
  let r ← hexDigit? c
  let s ← hexDigit? d
  some (((p * 16 + q) * 16 + r) * 16 + s)

/-- The character of an escape with one letter. -/
def escaped? (c : Char) : Option Char :=
  if c = '"' ∨ c = '\\' ∨ c = '/' then some c
  else if c = 'b' then some '\x08'
  else if c = 'f' then some '\x0c'
  else if c = 'n' then some '\n'
  else if c = 'r' then some '\r'
  else if c = 't' then some '\t'
  else none

/-- What has been read of a text: its characters in reverse, the first half of a surrogate pair
that waits for the second, and whether a half has been met alone. -/
structure TextState where
  chars : List Char
  pending : Option Nat
  broken : Bool

namespace TextState

/-- The state at the start of a text. -/
def start : TextState := ⟨[], none, false⟩

/-- Read a character. -/
def push (s : TextState) (c : Char) : TextState :=
  ⟨c :: s.chars, none, s.broken || s.pending.isSome⟩

/-- Read a code unit. -/
def pushUnit (s : TextState) (u : Nat) : TextState :=
  if 0xD800 ≤ u ∧ u < 0xDC00 then ⟨s.chars, some u, s.broken || s.pending.isSome⟩
  else if 0xDC00 ≤ u ∧ u < 0xE000 then
    match s.pending with
    | some first =>
      ⟨Char.ofNat (0x10000 + (first - 0xD800) * 0x400 + (u - 0xDC00)) :: s.chars, none, s.broken⟩
    | none => ⟨s.chars, none, true⟩
  else s.push (Char.ofNat u)

/-- The text that has been read, if all surrogates form pairs. -/
def finish? (s : TextState) : Option String :=
  if s.broken || s.pending.isSome then none else some (String.ofList s.chars.reverse)

end TextState

/-- Read the rest of a text up to its closing quote. The text itself may be missing because of
half a surrogate pair. -/
def readText (s : TextState) : List Char → Option (Option String × List Char)
  | [] => none
  | '"' :: rest => some (s.finish?, rest)
  | '\\' :: 'u' :: a :: b :: c :: d :: rest =>
    match codeUnit? a b c d with
    | some u => readText (s.pushUnit u) rest
    | none => none
  | '\\' :: e :: rest =>
    match escaped? e with
    | some c => readText (s.push c) rest
    | none => none
  | c :: rest => if c.toNat < 0x20 ∨ c = '\\' then none else readText (s.push c) rest

/-! ## Numbers -/

/-- The digits at the head of a text, and the rest. -/
def readDigits (cs : List Char) : List Nat × List Char :=
  ((cs.takeWhile Char.isDigit).map fun c => c.toNat - '0'.toNat, cs.dropWhile Char.isDigit)

/-- The natural that decimal digits write. -/
def ofDigits (digits : List Nat) : Nat :=
  digits.foldl (fun n d => n * 10 + d) 0

/-- Read digits, at least one. -/
def readSomeDigits (cs : List Char) : Option (List Nat × List Char) :=
  match readDigits cs with
  | ([], _) => none
  | found => some found

/-- Read the digits before the point: a zero alone, or digits that do not start with one. -/
def readWhole (cs : List Char) : Option (List Nat × List Char) :=
  match readDigits cs with
  | ([], _) => none
  | (0 :: _ :: _, _) => none
  | found => some found

/-- Read a point and the digits behind it, if there is a point. -/
def readFraction : List Char → Option (Option (List Nat) × List Char)
  | '.' :: rest => (readSomeDigits rest).map fun found => (some found.1, found.2)
  | cs => some (none, cs)

/-- Read an exponent, if there is one. -/
def readExponent (cs : List Char) : Option (Option Int × List Char) :=
  match cs with
  | c :: rest =>
    if c = 'e' ∨ c = 'E' then
      let (negative, digits) := match rest with
        | '-' :: r => (true, r)
        | '+' :: r => (false, r)
        | r => (false, r)
      (readSomeDigits digits).map fun found =>
        let power : Int := ofDigits found.1
        (some (if negative then -power else power), found.2)
    else some (none, cs)
  | [] => some (none, cs)

/-- Read a number literal. -/
def readNumeral (cs : List Char) : Option (Numeral × List Char) := do
  let (negative, cs) := match cs with
    | '-' :: rest => (true, rest)
    | rest => (false, rest)
  let (whole, cs) ← readWhole cs
  let (fraction, cs) ← readFraction cs
  let (exponent, cs) ← readExponent cs
  some (⟨negative, whole, fraction, exponent⟩, cs)

/-- The value of a number literal. -/
def ofNumeral (n : Numeral) : Json :=
  match n.integer? with
  | some i => .int i
  | none =>
    match n.binary64? with
    | some x => .float x
    | none => .unreadable

/-! ## Values -/

/-- The object with the given members, of which one may have an unreadable name. -/
def ofMembers (members : List (Option String × Json)) : Json :=
  match members.mapM fun m => m.1.map fun name => (name, m.2) with
  | some named => .object named
  | none => .unreadable

mutual
/-- Read a value. -/
def readValue : Nat → List Char → Option (Json × List Char)
  | 0, _ => none
  | fuel + 1, cs =>
    match skipSpace cs with
    | 'n' :: 'u' :: 'l' :: 'l' :: rest => some (.null, rest)
    | 't' :: 'r' :: 'u' :: 'e' :: rest => some (.bool true, rest)
    | 'f' :: 'a' :: 'l' :: 's' :: 'e' :: rest => some (.bool false, rest)
    | '"' :: rest =>
      match readText .start rest with
      | some (some s, rest) => some (.text s, rest)
      | some (none, rest) => some (.unreadable, rest)
      | none => none
    | '[' :: rest =>
      match skipSpace rest with
      | ']' :: rest => some (.list [], rest)
      | rest => (readItems fuel rest).map fun found => (.list found.1, found.2)
    | '\x7b' :: rest =>
      match skipSpace rest with
      | '\x7d' :: rest => some (.object [], rest)
      | rest => (readMembers fuel rest).map fun found => (ofMembers found.1, found.2)
    | rest => (readNumeral rest).map fun found => (ofNumeral found.1, found.2)

/-- Read the items of a list, at least one, and its closing bracket. -/
def readItems : Nat → List Char → Option (List Json × List Char)
  | 0, _ => none
  | fuel + 1, cs =>
    match readValue fuel cs with
    | none => none
    | some (item, rest) =>
      match skipSpace rest with
      | ',' :: rest => (readItems fuel rest).map fun found => (item :: found.1, found.2)
      | ']' :: rest => some ([item], rest)
      | _ => none

/-- Read the members of an object, at least one, and its closing brace. -/
def readMembers : Nat → List Char → Option (List (Option String × Json) × List Char)
  | 0, _ => none
  | fuel + 1, cs =>
    match skipSpace cs with
    | '"' :: rest =>
      match readText .start rest with
      | none => none
      | some (name, rest) =>
        match skipSpace rest with
        | ':' :: rest =>
          match readValue fuel rest with
          | none => none
          | some (value, rest) =>
            match skipSpace rest with
            | ',' :: rest =>
              (readMembers fuel rest).map fun found => ((name, value) :: found.1, found.2)
            | '\x7d' :: rest => some ([(name, value)], rest)
            | _ => none
        | _ => none
    | _ => none
end

/-- Read a text that holds one value. Every other call of the reader takes a character, so twice
as many calls as characters are enough. -/
def read? (s : String) : Option Json :=
  let cs := s.toList
  match readValue (2 * cs.length + 2) cs with
  | some (value, rest) => if skipSpace rest = [] then some value else none
  | none => none

end TypedJson.Json
