import TypedJson.Code.Chain
import TypedJson.Code.Names

/-!
# Generated conversions

`convert` writes the conversion of a type, in either direction, behind a chain. A type without a
transformation is converted by the rules of its kind, any other by its transformer, step by step.
The elements of collections and the branches of unions are functions, written as chains that start
from nothing. Whatever support function or import an expression refers to is recorded, also when the
conversion is refused later.
-/

namespace TypedJson.Code

/-- A generation step: it records requirements and may be refused. -/
abbrev Gen := ExceptT GenerateError (StateM Requirements)

namespace Gen

/-- Record a requirement. -/
def require (change : Requirements → Requirements) : Gen Unit :=
  modify change

/-- The function that is a support function. -/
def converter (c : Converter) : Gen Function := do
  require (·.addConverter c)
  return .named c.name

/-- The function that calls a support function with some arguments in front of its own. -/
def converterWith (c : Converter) (leading : List String) : Gen Function := do
  require (·.addConverter c)
  return .partialCall c.name leading

/-- The outcome of a pure step. -/
def lift {α : Type} (outcome : Except GenerateError α) : Gen α :=
  MonadExcept.ofExcept outcome

end Gen

/-- What conversions are written for: a graph, the names of its types, and the features of the
language. -/
structure Context where
  graph : TypeGraph
  names : NameTable
  features : Features

/-- The expressions as the items of a list display. -/
def listDisplay (items : List String) : String :=
  "[" ++ ", ".intercalate items ++ "]"

namespace Context

/-- The type of the elements of a container, if the target is such a container. -/
def elementTarget (graph : TypeGraph) (target : TypeRef) (container : Container) : TypeRef :=
  match graph.kind? target, container with
  | some (.array items), .list => items
  | some (.map values), .dict => values
  | _, _ => target

/-- The kind of a type. -/
def kind (ctx : Context) (t : TypeRef) : Gen Kind :=
  match ctx.graph.kind? t with
  | some k => return k
  | none => throw (.dangling t)

/-- The name of a type. -/
def typeName (ctx : Context) (t : TypeRef) : Gen String :=
  Gen.lift (ctx.names.typeName t)

/-- Convert by the rules of the kind of `t`. The conversions of elements and members are given. -/
def convertByKind (ctx : Context) (element : TypeRef → Gen String) (direction : Direction)
    (input : Chain) (t : TypeRef) : Gen Chain := do
  match ← ctx.kind t with
  | .any => return input
  | .null => return input.andThen (← Gen.converter .fromNone)
  | .bool => return input.andThen (← Gen.converter .fromBool)
  | .integer => return input.andThen (← Gen.converter .fromInt)
  | .double =>
    return input.andThen (← Gen.converter (match direction with
      | .decode => .fromFloat
      | .encode => .toFloat))
  | .text => return input.andThen (← Gen.converter .fromStr)
  | .array items => do
    let f ← element items
    return input.andThen (← Gen.converterWith .fromList [f])
  | .map values => do
    let f ← element values
    return input.andThen (← Gen.converterWith .fromDict [f])
  | .record _ => do
    let name ← ctx.typeName t
    match direction with
    | .decode => return input.andThen (.named (name ++ ".from_dict"))
    | .encode => return input.andThen (← Gen.converterWith .toClass [name])
  | .enumeration _ => do
    let name ← ctx.typeName t
    match direction with
    | .decode => return input.andThen (.named name)
    | .encode => return input.andThen (← Gen.converterWith .toEnum [name])
  | .union members => do
    let branches ← members.mapM element
    return input.andThen (← Gen.converterWith .fromUnion [listDisplay branches])
  | .formatted .dateTime =>
    match direction with
    | .decode => return input.andThen (← Gen.converter .fromDatetime)
    | .encode => return input.andThen (.method "isoformat")
  | .formatted .integerText => throw (.noTransformation t)

/-- The type object of integers. -/
def integerObject (ctx : Context) : String :=
  if ctx.features.legacyBuiltins then "(int, long)" else "int"

/-- The type object of texts. -/
def textObject (ctx : Context) : String :=
  if ctx.features.legacyBuiltins then "(str, unicode)" else "str"

/-- The type object that tells the values of a type: those of its JSON shape before decoding, and
the decoded ones before encoding. -/
def typeObject (ctx : Context) (direction : Direction) (t : TypeRef) : Gen String := do
  match ← ctx.kind t with
  | .null => return "type(None)"
  | .bool => return "bool"
  | .integer => return ctx.integerObject
  | .double => return "float"
  | .text => return ctx.textObject
  | .array _ => return "list"
  | .map _ => return "dict"
  | .record _ =>
    match direction with
    | .decode => return "dict"
    | .encode => ctx.typeName t
  | .enumeration _ =>
    match direction with
    | .decode => return ctx.textObject
    | .encode => ctx.typeName t
  | .formatted format =>
    match direction, format with
    | .decode, _ => return ctx.textObject
    | .encode, .dateTime => do
      Gen.require (·.addName "datetime" "datetime")
      return "datetime"
    | .encode, .integerText => return ctx.integerObject
  | .any => throw (.noTypeObject .any)
  | .union members => throw (.noTypeObject (.union members))

/-- The step that parses a text into a type. -/
def parseStep (ctx : Context) (t : TypeRef) : Gen Function := do
  match ← ctx.kind t with
  | .integer => return .named "int"
  | .enumeration _ => return .named (← ctx.typeName t)
  | .formatted .dateTime => Gen.converter .fromDatetime
  | other => throw (.cannotParse other)

/-- The step that writes a value of a type as a text. -/
def writeStep (ctx : Context) (t : TypeRef) : Gen Function := do
  match ← ctx.kind t with
  | .integer => return .named "str"
  | .enumeration _ => do
    let name ← ctx.typeName t
    Gen.converterWith .toEnum [name]
  | .formatted .dateTime => return .method "isoformat"
  | other => throw (.cannotWrite other)

mutual
/-- Convert by a transformer. The conversion by kind is given: a decoding step decodes and an
encoding step encodes, whichever way the whole goes, and the direction of the whole decides what a
value is matched with. -/
def transform (ctx : Context) (byKind : Direction → Chain → TypeRef → Gen Chain)
    (direction : Direction) : Transformer → Chain → TypeRef → Gen Chain
  | .choice _ branches, input, target => do
    let functions ← transformBranches ctx byKind direction branches target
    return input.andThen (← Gen.converterWith .fromUnion [listDisplay functions])
  | .decode source next, input, target => do
    let decoded ← byKind .decode input source
    transformNext ctx byKind direction next decoded target
  | .encode source, input, _ => byKind .encode input source
  | .elements _ container element next, input, target => do
    let itemTarget := elementTarget ctx.graph target container
    let f ← transform ctx byKind direction element .identity itemTarget
    let step ← Gen.converterWith (match container with
      | .list => .fromList
      | .dict => .fromDict) [f.toFunction.render]
    transformNext ctx byKind direction next (input.andThen step) target
  | .memberMatch _ member next, input, target => do
    let object ← ctx.typeObject direction member
    let step ← Gen.converterWith .isType [object]
    transformNext ctx byKind direction next (input.andThen step) target
  | .instantiate _, input, _ => return input
  | .parseText _ next, input, target => do
    let step ← ctx.parseStep (match next with
      | some step => step.source
      | none => target)
    transformNext ctx byKind direction next (input.andThen step) target
  | .writeText source next, input, target => do
    let step ← ctx.writeStep source
    transformNext ctx byKind direction next (input.andThen step) target

/-- Go on with the next step, if there is one. -/
def transformNext (ctx : Context) (byKind : Direction → Chain → TypeRef → Gen Chain)
    (direction : Direction) : Option Transformer → Chain → TypeRef → Gen Chain
  | none, input, _ => return input
  | some step, input, target => transform ctx byKind direction step input target

/-- The branches of a choice as functions. -/
def transformBranches (ctx : Context) (byKind : Direction → Chain → TypeRef → Gen Chain)
    (direction : Direction) : List Transformer → TypeRef → Gen (List String)
  | [], _ => return []
  | branch :: rest, target => do
    let f ← transform ctx byKind direction branch .identity target
    let functions ← transformBranches ctx byKind direction rest target
    return f.toFunction.render :: functions
end

/-- Convert a type, by way of at most `depth` types that lie within one another. -/
def convertWithin (ctx : Context) : Nat → Direction → Chain → TypeRef → Gen Chain
  | 0, _, _, t => throw (.endless t)
  | depth + 1, direction, input, t => do
    let element (d : Direction) (m : TypeRef) : Gen String := do
      let f ← convertWithin ctx depth d .identity m
      return f.toFunction.render
    let byKind (d : Direction) := ctx.convertByKind (element d) d
    match ctx.graph.transformation? t, direction with
    | none, _ => byKind direction input t
    | some x, .decode => ctx.transform byKind .decode x.transformer input x.target
    | some x, .encode => ctx.transform byKind .encode x.reverse input t

/-- Convert a type. Types that lie within one another differ, or are converted in different
directions, unless the conversion leads back to itself. -/
def convert (ctx : Context) (direction : Direction) (input : Chain) (t : TypeRef) : Gen Chain :=
  ctx.convertWithin (2 * ctx.graph.size) direction input t

/-- Convert by the rules of the kind of a type. -/
def convertKind (ctx : Context) (direction : Direction) (input : Chain) (t : TypeRef) : Gen Chain :=
  ctx.convertByKind
    (fun m => do
      let f ← ctx.convert direction .identity m
      return f.toFunction.render)
    direction input t

/-- Convert by a transformer that leads to a target. -/
def convertBy (ctx : Context) (direction : Direction) (x : Transformer) (input : Chain)
    (target : TypeRef) : Gen Chain :=
  ctx.transform ctx.convertKind direction x input target

/-- The conversion of an expression, as an expression. -/
def convertValue (ctx : Context) (direction : Direction) (expression : String) (t : TypeRef) :
    Gen String := do
  let chain ← ctx.convert direction (.ofText expression) t
  Gen.lift chain.toValue

end Context

end TypedJson.Code
