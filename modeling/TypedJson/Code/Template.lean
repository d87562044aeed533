import TypedJson.Text.Letter

/-!
# Expressions with a hole

A template is the text of an expression in which holes stand for the parameter of a lambda. It is
kept in normal form: no piece of text is empty and no two pieces of text are neighbours, so equal
expressions are equal templates. A function is a name or the body of a lambda, and applying it puts
the argument into the holes: a chain of functions is always one expression or one lambda.
-/

namespace TypedJson.Code

open Text

/-- A part of a template. -/
inductive Piece where
  | text (s : String)
  | hole
  deriving DecidableEq, Repr

/-- An expression with holes for the parameter of a lambda. -/
structure Template where
  pieces : List Piece
  deriving DecidableEq, Repr

namespace Template

/-- Put a text in front of pieces in normal form. -/
def consText (s : String) : List Piece → List Piece
  | .text r :: rest => .text (s ++ r) :: rest
  | rest => if s = "" then rest else .text s :: rest

/-- Put pieces in front of pieces in normal form. -/
def joinPieces : List Piece → List Piece → List Piece
  | [], back => back
  | .text s :: rest, back => consText s (joinPieces rest back)
  | .hole :: rest, back => .hole :: joinPieces rest back

/-- The template without holes. -/
def text (s : String) : Template :=
  ⟨consText s []⟩

/-- The template of the parameter alone. -/
def param : Template :=
  ⟨[.hole]⟩

/-- The empty template. -/
def empty : Template :=
  ⟨[]⟩

/-- One template behind the other. -/
def append (front back : Template) : Template :=
  ⟨joinPieces front.pieces back.pieces⟩

instance : Append Template := ⟨append⟩

/-- Put `argument` into the holes of pieces. -/
def fillPieces (argument : List Piece) : List Piece → List Piece
  | [] => []
  | .text s :: rest => consText s (fillPieces argument rest)
  | .hole :: rest => joinPieces argument (fillPieces argument rest)

/-- Put `argument` into every hole. -/
def fill (body argument : Template) : Template :=
  ⟨fillPieces argument.pieces body.pieces⟩

/-- Templates with commas between them. -/
def commaList : List Template → Template
  | [] => empty
  | [only] => only
  | first :: rest => first ++ text ", " ++ commaList rest

/-- The call of a name with arguments. -/
def call (callee : String) (arguments : List Template) : Template :=
  text (callee ++ "(") ++ commaList arguments ++ text ")"

/-- The name of the parameter. -/
def paramName : String := "x"

/-- A piece as it is written. -/
def Piece.render : Piece → String
  | .text s => s
  | .hole => paramName

/-- The text of the template, with the parameter in its holes. -/
def render (t : Template) : String :=
  String.join (t.pieces.map Piece.render)

/-- The characters are names joined by dots; `fresh` says that the current name has no character
yet. -/
def isDotted (fresh : Bool) : List Char → Bool
  | [] => !fresh
  | c :: rest =>
    if c = '.' then !fresh && isDotted true rest
    else (isAlphanumeric c || c == '_') && isDotted false rest

/-- The name that the template calls with the parameter alone. -/
def plainCallee? (t : Template) : Option String :=
  match t.pieces with
  | [.text head, .hole, .text ")"] =>
    match head.toList.reverse with
    | '(' :: callee =>
      if isDotted true callee.reverse then some (String.ofList callee.reverse) else none
    | _ => none
  | _ => none

end Template

/-- A function of one argument. -/
inductive Function where
  /-- A name that can be called. -/
  | named (name : String)
  /-- The lambda with the given body. -/
  | lambda (body : Template)
  deriving DecidableEq, Repr

namespace Function

/-- The function that calls a name with some arguments in front of its own. -/
def partialCall (callee : String) (leading : List String) : Function :=
  .lambda (.call callee (leading.map Template.text ++ [.param]))

/-- The function that calls a method of its argument. -/
def method (name : String) : Function :=
  .lambda (.param ++ .text ("." ++ name ++ "()"))

/-- The expression for the function applied to an argument. -/
def apply (f : Function) (argument : Template) : Template :=
  match f with
  | .named name => .call name [argument]
  | .lambda body => body.fill argument

/-- The function that applies `f` and then `next`. -/
def andThen (f next : Function) : Function :=
  .lambda (next.apply (f.apply .param))

/-- The text of the function. A lambda that only calls a name is that name. -/
def render : Function → String
  | .named name => name
  | .lambda body =>
    match body.plainCallee? with
    | some callee => callee
    | none => "lambda " ++ Template.paramName ++ ": " ++ body.render

end Function

end TypedJson.Code
