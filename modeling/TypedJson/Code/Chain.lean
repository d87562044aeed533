import TypedJson.Code.Error
import TypedJson.Code.Template

/-!
# Chains of functions

A conversion is put together step by step, either on a given expression or with the argument left
open. Both ways are one chain: started from an expression it ends in an expression, and started
from nothing it ends in a function.
-/

namespace TypedJson.Code

/-- What has been put together so far. -/
inductive Chain where
  /-- Nothing yet. -/
  | identity
  /-- An expression to which nothing has been applied. -/
  | value (expression : Template)
  /-- A function without its argument. -/
  | function (f : Function)
  /-- A function and the expression that it applies to. -/
  | applied (f : Function) (argument : Template)
  deriving DecidableEq, Repr

namespace Chain

/-- The chain that starts from an expression. -/
def ofText (expression : String) : Chain :=
  .value (.text expression)

/-- Put a step behind the chain. -/
def andThen : Chain → Function → Chain
  | .identity, step => .function step
  | .value argument, step => .applied step argument
  | .function f, step => .function (f.andThen step)
  | .applied f argument, step => .applied (f.andThen step) argument

/-- The chain waits for its argument. -/
def isFunction : Chain → Bool
  | .identity => true
  | .function _ => true
  | .value _ => false
  | .applied _ _ => false

/-- The chain as an expression. -/
def toValue : Chain → Except GenerateError String
  | .value expression => .ok expression.render
  | .applied f argument => .ok (f.apply argument).render
  | .identity => .error .noArgument
  | .function _ => .error .noArgument

/-- The chain as a function. -/
def toFunction : Chain → Function
  | .identity => .lambda .param
  | .value expression => .lambda expression
  | .function f => f
  | .applied f argument => .lambda (f.apply argument)

end Chain

end TypedJson.Code
