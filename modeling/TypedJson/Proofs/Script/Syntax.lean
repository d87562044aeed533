import Mathlib

/-!
# Expressions and statements of generated code

The part of the language that generated conversions are written in: names, literals of texts,
displays, calls, lambdas and the tests of the support functions, and the statements of their bodies.
Annotations and comments have no meaning and no place here.
-/

namespace TypedJson.Script

/-- An expression. -/
inductive Expr where
  | name (word : String)
  | text (value : String)
  | tuple (items : List Expr)
  | list (items : List Expr)
  | emptyDict
  | member (object : Expr) (name : String)
  | call (callee : Expr) (arguments : List Expr)
  | lambda (parameter : String) (body : Expr)
  /-- `operand is None`, or `operand is not None` if `negated`. -/
  | isNone (operand : Expr) (negated : Bool)
  | not (operand : Expr)
  | and (left right : Expr)
  /-- `[element for item in source]`. -/
  | listOf (element : Expr) (item : String) (source : Expr)
  /-- `{key: element for (key, value) in source}`. -/
  | dictOf (key value : String) (element source : Expr)
  deriving Repr

/-- A statement. -/
inductive Statement where
  | pass
  | assert (condition : Expr)
  | return (result : Expr)
  | assign (name : String) (value : Expr)
  /-- `name[key] = value`. -/
  | assignItem (name : String) (key value : Expr)
  | ifThen (condition : Expr) (body : List Statement)
  | forEach (item : String) (source : Expr) (body : List Statement)
  /-- A `return` under `try`, and what is done when its expression raises. -/
  | tryReturn (result : Expr) (handler : List Statement)
  deriving Repr

/-- The definition of a function. -/
structure Definition where
  name : String
  parameters : List String
  body : List Statement
  deriving Repr

/-- The words that are no names. -/
def reserved : List String :=
  ["and", "assert", "def", "except", "for", "if", "in", "is", "lambda", "not", "pass", "return",
    "try"]

end TypedJson.Script
