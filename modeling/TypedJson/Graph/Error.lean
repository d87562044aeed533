import TypedJson.Graph.Basic

/-!
# Faults of type graphs

What can be wrong with a set of types, and where.
-/

namespace TypedJson

/-- The place that holds a reference. -/
inductive Referrer where
  | topLevel (name : String)
  | array (owner : TypeRef)
  | map (owner : TypeRef)
  | property (name record : String)
  | union (owner : TypeRef)
  | transformation (owner : TypeRef)
  | transformer (owner : TypeRef)
  deriving DecidableEq, Repr

/-- The place as messages name it. -/
def Referrer.text : Referrer → String
  | .topLevel name => "top-level `" ++ name ++ "`"
  | .array owner => "array " ++ owner.text
  | .map owner => "map " ++ owner.text
  | .property name record => "property `" ++ name ++ "` of class `" ++ record ++ "`"
  | .union owner => "union " ++ owner.text
  | .transformation owner => "transformation of " ++ owner.text
  | .transformer owner => "transformer of " ++ owner.text

/-- A fault of a type graph. -/
inductive GraphError where
  /-- A reference denotes no type. -/
  | danglingRef (reference : TypeRef) (holder : Referrer)
  /-- No value could belong to a union without members. -/
  | emptyUnion (union : TypeRef)
  /-- Unions do not nest. -/
  | nestedUnion (outer inner : TypeRef)
  /-- A type reaches itself without a record between, so converting it would not end. -/
  | unguardedCycle (type : TypeRef)
  /-- There is nothing to start from. -/
  | noTopLevels
  /-- Two top-levels share a name. -/
  | duplicateTopLevel (name : String)
  /-- Only records have properties. -/
  | notARecord (type : TypeRef)
  /-- The text is not JSON, or not the JSON of a type graph. -/
  | malformed
  deriving DecidableEq, Repr

/-- The message of a fault. -/
def GraphError.message : GraphError → String
  | .danglingRef reference holder =>
    "type " ++ reference.text ++ " referenced from " ++ holder.text ++ " does not exist"
  | .emptyUnion union => "union " ++ union.text ++ " has no members"
  | .nestedUnion outer inner =>
    "union " ++ outer.text ++ " directly contains union " ++ inner.text
  | .unguardedCycle type =>
    "type " ++ type.text ++ " contains itself without an intervening class"
  | .noTopLevels => "type graph has no top-level types"
  | .duplicateTopLevel name => "duplicate top-level name `" ++ name ++ "`"
  | .notARecord type => "type " ++ type.text ++ " is not a class"
  | .malformed => "invalid type graph JSON"

end TypedJson
