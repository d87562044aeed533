import TypedJson.Code.Layout
import TypedJson.Proofs.Script.Lexer

/-!
# Reading expressions and definitions

Expressions are read from tokens by recursive descent, within a bound on the nesting of calls that
the number of tokens sets. A definition is read from its lines: the first names it and its
parameters, and the lines further to the right behind it are its body. What an annotation says is
passed over.
-/

namespace TypedJson.Script

/-! ## Expressions -/

mutual
/-- Read an expression at the front of tokens. -/
def expr? : Nat → List Token → Option (Expr × List Token)
  | 0, _ => none
  | n + 1, .key "lambda" :: .word parameter :: .mark ':' :: rest => do
    let (body, rest) ← expr? n rest
    return (.lambda parameter body, rest)
  | n + 1, tokens => do
    let (left, rest) ← test? n tokens
    match rest with
    | .key "and" :: rest => do
      let (right, rest) ← expr? n rest
      return (.and left right, rest)
    | rest => return (left, rest)

/-- Read an operand, negated or compared with `None` or neither. -/
def test? : Nat → List Token → Option (Expr × List Token)
  | 0, _ => none
  | n + 1, .key "not" :: rest => do
    let (operand, rest) ← test? n rest
    return (.not operand, rest)
  | n + 1, tokens => do
    let (operand, rest) ← operand? n tokens
    match rest with
    | .key "is" :: .key "not" :: .word "None" :: rest => return (.isNone operand true, rest)
    | .key "is" :: .word "None" :: rest => return (.isNone operand false, rest)
    | rest => return (operand, rest)

/-- Read an operand: a name, a literal or a display, with the attributes and calls behind it. -/
def operand? : Nat → List Token → Option (Expr × List Token)
  | 0, _ => none
  | n + 1, .word word :: rest => trailers? n (.name word) rest
  | n + 1, .text value :: rest => trailers? n (.text value) rest
  | n + 1, .mark '(' :: rest => do
    let (first, rest) ← expr? n rest
    match rest with
    | .mark ')' :: rest => trailers? n first rest
    | .mark ',' :: rest => do
      let (others, rest) ← items? n ')' rest
      trailers? n (.tuple (first :: others)) rest
    | _ => none
  | n + 1, .mark '[' :: .mark ']' :: rest => trailers? n (.list []) rest
  | n + 1, .mark '[' :: rest => do
    let (first, rest) ← expr? n rest
    match rest with
    | .key "for" :: .word item :: .key "in" :: rest => do
      let (source, rest) ← expr? n rest
      match rest with
      | .mark ']' :: rest => trailers? n (.listOf first item source) rest
      | _ => none
    | .mark ']' :: rest => trailers? n (.list [first]) rest
    | .mark ',' :: rest => do
      let (others, rest) ← items? n ']' rest
      trailers? n (.list (first :: others)) rest
    | _ => none
  | n + 1, .mark '\x7b' :: .mark '\x7d' :: rest => trailers? n .emptyDict rest
  | n + 1, .mark '\x7b' :: .word key :: .mark ':' :: rest => do
    let (element, rest) ← expr? n rest
    match rest with
    | .key "for" :: .mark '(' :: .word bound :: .mark ',' :: .word value :: .mark ')' ::
        .key "in" :: rest => do
      let (source, rest) ← expr? n rest
      match rest with
      | .mark '\x7d' :: rest =>
        if key = bound then trailers? n (.dictOf key value element source) rest else none
      | _ => none
    | _ => none
  | _ + 1, _ => none

/-- Read the attributes and calls behind an expression. -/
def trailers? : Nat → Expr → List Token → Option (Expr × List Token)
  | n + 1, e, .mark '.' :: .word name :: rest => trailers? n (.member e name) rest
  | n + 1, e, .mark '(' :: rest => do
    let (arguments, rest) ← items? n ')' rest
    trailers? n (.call e arguments) rest
  | _, e, rest => some (e, rest)

/-- Read items up to a closing mark. -/
def items? : Nat → Char → List Token → Option (List Expr × List Token)
  | 0, _, _ => none
  | n + 1, close, tokens =>
    if tokens.head? = some (.mark close) then some ([], tokens.tail)
    else do
      let (first, rest) ← expr? n tokens
      match rest with
      | .mark ',' :: rest => do
        let (others, rest) ← items? n close rest
        return (first :: others, rest)
      | .mark c :: rest => if c = close then return ([first], rest) else none
      | _ => none
end

/-- How deep calls may nest while a number of tokens is read. -/
def readingDepth (tokens : List Token) : Nat :=
  6 * tokens.length + 6

/-- Read tokens as one expression. -/
def exprOf? (tokens : List Token) : Option Expr :=
  match expr? (readingDepth tokens) tokens with
  | some (e, []) => some e
  | _ => none

/-- Read a text as one expression. -/
def Expr.read? (text : String) : Option Expr :=
  (tokens? text.toList).bind exprOf?

/-! ## Statements -/

/-- Read tokens as a statement of one line. An annotation of an assigned name is passed over. -/
def simple? : List Token → Option Statement
  | [.key "pass"] => some .pass
  | .key "assert" :: rest => (exprOf? rest).map .assert
  | .key "return" :: rest => (exprOf? rest).map .return
  | .word name :: .mark '=' :: rest => (exprOf? rest).map (.assign name)
  | .word name :: .mark ':' :: .word _ :: .mark '=' :: rest => (exprOf? rest).map (.assign name)
  | .word name :: .mark '[' :: rest => do
    let (key, rest) ← expr? (readingDepth rest) rest
    match rest with
    | .mark ']' :: .mark '=' :: rest => (exprOf? rest).map (.assignItem name key)
    | _ => none
  | _ => none

/-- A line: how many spaces it starts with, and the text behind them. -/
structure Line where
  column : Nat
  text : List Char
  deriving DecidableEq, Repr

/-- A line of text, taken apart. -/
def Line.ofChars (cs : List Char) : Line :=
  ⟨(cs.takeWhile (· == ' ')).length, cs.dropWhile (· == ' ')⟩

/-- The lines that steps of layout write. -/
def linesOf (steps : List Code.Step) : List Line :=
  (Code.entries steps).filterMap fun e =>
    match e.2 with
    | .line level text => some (.ofChars (Code.indentLine level text).toList)
    | .blank _ => none

/-- The lines further to the right than a column, up to the first that is not. -/
def inside (column : Nat) (lines : List Line) : List Line :=
  lines.takeWhile fun line => column < line.column

/-- The lines behind those. -/
def behind (column : Nat) (lines : List Line) : List Line :=
  lines.dropWhile fun line => column < line.column

/-- Read tokens as an expression in front of the colon that ends a line. -/
def condition? (tokens : List Token) : Option Expr :=
  match expr? (readingDepth tokens) tokens with
  | some (e, [.mark ':']) => some e
  | _ => none

/-- Read lines as the statements that start at a column. -/
def block? : Nat → Nat → List Line → Option (List Statement)
  | _, _, [] => some []
  | 0, _, _ => none
  | n + 1, column, line :: rest => do
    guard (line.column = column)
    let body := inside column rest
    let next := behind column rest
    let bodyColumn := (body.head?.map Line.column).getD 0
    match ← tokens? line.text with
    | .key "if" :: test => do
      let condition ← condition? test
      let body ← block? n bodyColumn body
      let others ← block? n column next
      return .ifThen condition body :: others
    | .key "for" :: .word item :: .key "in" :: source => do
      let source ← condition? source
      let body ← block? n bodyColumn body
      let others ← block? n column next
      return .forEach item source body :: others
    | [.key "try", .mark ':'] =>
      match ← block? n bodyColumn body, next with
      | [.return result], other :: rest => do
        guard (other.column = column ∧ tokens? other.text = some [.key "except", .mark ':'])
        let handler := inside column rest
        let handler ← block? n ((handler.head?.map Line.column).getD 0) handler
        let others ← block? n column (behind column rest)
        return .tryReturn result handler :: others
      | _, _ => none
    | tokens => do
      guard body.isEmpty
      let statement ← simple? tokens
      let others ← block? n column next
      return statement :: others

/-! ## Definitions -/

/-- Read names of parameters up to the closing parenthesis. In an annotation the depth of open
brackets is given as `passed`, and what is read there is passed over. -/
def parameters? (read : List Char) (passed : Option Nat) : List Char → Option (List String)
  | [] => none
  | c :: rest =>
    match passed with
    | none =>
      if isWordChar c then parameters? (read ++ [c]) none rest
      else if c = ' ' then parameters? read none rest
      else if c = ':' then parameters? read (some 0) rest
      else if c = ',' then (parameters? [] none rest).map (String.ofList read :: ·)
      else if c = ')' then some (if read = [] then [] else [String.ofList read])
      else none
    | some depth =>
      if c = '[' then parameters? read (some (depth + 1)) rest
      else if c = ']' then parameters? read (some (depth - 1)) rest
      else if depth = 0 ∧ c = ',' then (parameters? [] none rest).map (String.ofList read :: ·)
      else if depth = 0 ∧ c = ')' then some [String.ofList read]
      else parameters? read (some depth) rest

/-- Read the name and the parameters of a definition from its first line. -/
def signature? : List Char → Option (String × List String)
  | 'd' :: 'e' :: 'f' :: ' ' :: rest =>
    match rest.dropWhile isWordChar with
    | '(' :: others =>
      (parameters? [] none others).map fun parameters =>
        (String.ofList (rest.takeWhile isWordChar), parameters)
    | _ => none
  | _ => none

/-- Read the definition of a function of the given name. -/
def Definition.find? (name : String) : List Line → Option Definition
  | [] => none
  | line :: rest =>
    match signature? line.text with
    | none => find? name rest
    | some (found, parameters) =>
      if found = name then
        let body := inside line.column rest
        (block? body.length ((body.head?.map Line.column).getD 0) body).map fun statements =>
          ⟨name, parameters, statements⟩
      else find? name rest

end TypedJson.Script
