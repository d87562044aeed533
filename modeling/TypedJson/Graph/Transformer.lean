/-!
# Transformers

A transformer is a tree of steps that leads from a JSON value to a value of some type, or back.
Steps chain: the next step of a step receives its result. The trees only refer to types, by their
position in the graph that holds them.
-/

namespace TypedJson

/-- A type, by its position in a type graph. -/
structure TypeRef where
  index : Nat
  deriving DecidableEq, Repr

/-- The reference as messages show it. -/
def TypeRef.text (t : TypeRef) : String :=
  "#" ++ toString t.index

/-- Which way a conversion runs: from JSON to a type, or back. -/
inductive Direction where
  | decode
  | encode
  deriving DecidableEq, Repr

/-- The collection whose elements a step transforms. -/
inductive Container where
  | list
  | dict
  deriving DecidableEq, Repr

/-- A tree of conversion steps. Every step names the type of the values it takes. -/
inductive Transformer where
  /-- Decode the input by the rules of the kind of `source`. -/
  | decode (source : TypeRef) (next : Option Transformer)
  /-- Encode a value of `source` and stop. -/
  | encode (source : TypeRef)
  /-- Transform every element of a list, or every value of a dict. -/
  | elements (source : TypeRef) (container : Container) (element : Transformer)
      (next : Option Transformer)
  /-- Try the branches in order; the first that succeeds gives the result. -/
  | choice (source : TypeRef) (branches : List Transformer)
  /-- Require that the input is a value of `member`. -/
  | memberMatch (source member : TypeRef) (next : Option Transformer)
  /-- The input already is a value of the chosen member. -/
  | instantiate (source : TypeRef)
  /-- Parse a text into the type that the next step takes, or into the target. -/
  | parseText (source : TypeRef) (next : Option Transformer)
  /-- Write a value of `source` as a text. -/
  | writeText (source : TypeRef) (next : Option Transformer)
  deriving Repr

namespace Transformer

/-- The type of the values that the first step takes. -/
def source : Transformer → TypeRef
  | .decode s _ => s
  | .encode s => s
  | .elements s _ _ _ => s
  | .choice s _ => s
  | .memberMatch s _ _ => s
  | .instantiate s => s
  | .parseText s _ => s
  | .writeText s _ => s

/-- The step that receives the result of the first one. -/
def next? : Transformer → Option Transformer
  | .decode _ n => n
  | .elements _ _ _ n => n
  | .memberMatch _ _ n => n
  | .parseText _ n => n
  | .writeText _ n => n
  | .encode _ => none
  | .choice _ _ => none
  | .instantiate _ => none

/-- The name of the first step. -/
def stepName : Transformer → String
  | .decode _ _ => "decode"
  | .encode _ => "encode"
  | .elements _ _ _ _ => "elements"
  | .choice _ _ => "choice"
  | .memberMatch _ _ _ => "union-member-match"
  | .instantiate _ => "union-instantiation"
  | .parseText _ _ => "parse-string"
  | .writeText _ _ => "stringify"

mutual
/-- Every type that the tree refers to: that of a step, those inside the step, then those of the
steps behind it. -/
def refs : Transformer → List TypeRef
  | .decode s next => s :: nextRefs next
  | .encode s => [s]
  | .elements s _ element next => s :: (refs element ++ nextRefs next)
  | .choice s branches => s :: branchRefs branches
  | .memberMatch s member next => s :: member :: nextRefs next
  | .instantiate s => [s]
  | .parseText s next => s :: nextRefs next
  | .writeText s next => s :: nextRefs next

/-- The types that the branches of a choice refer to. -/
def branchRefs : List Transformer → List TypeRef
  | [] => []
  | branch :: rest => refs branch ++ branchRefs rest

/-- The types that the steps behind a step refer to. -/
def nextRefs : Option Transformer → List TypeRef
  | none => []
  | some step => refs step
end

mutual
/-- The names of the first step and of the steps behind it. -/
def chainNames : Transformer → List String
  | .decode _ next => "decode" :: nextNames next
  | .encode _ => ["encode"]
  | .elements _ _ _ next => "elements" :: nextNames next
  | .choice _ _ => ["choice"]
  | .memberMatch _ _ next => "union-member-match" :: nextNames next
  | .instantiate _ => ["union-instantiation"]
  | .parseText _ next => "parse-string" :: nextNames next
  | .writeText _ next => "stringify" :: nextNames next

/-- The names of the steps behind a step. -/
def nextNames : Option Transformer → List String
  | none => []
  | some step => chainNames step
end

end Transformer

/-- How a type is decoded from its JSON shape and encoded back to it. -/
structure Transformation where
  /-- The type that decoding arrives at. -/
  target : TypeRef
  /-- The way from the JSON shape to the target. -/
  transformer : Transformer
  /-- The way from the target to the JSON shape. -/
  reverse : Transformer
  deriving Repr

/-- Every type that a transformation refers to. -/
def Transformation.refs (x : Transformation) : List TypeRef :=
  x.target :: (x.transformer.refs ++ x.reverse.refs)

end TypedJson
