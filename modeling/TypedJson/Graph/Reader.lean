import TypedJson.Graph.Check
import TypedJson.Json.Reader
import TypedJson.Json.Shape

/-!
# Reading type graphs

`TypeGraph.read` reads a graph from JSON text and accepts it as `TypeGraph.make` does. Members that
a form does not know are skipped. Types and transformers are objects; the forms of fixed members
around them may also be lists of their members in order. JSON text that is read, in contrast to
text that is skipped, nests at most 127 lists and objects and holds no value beyond binary64 and no
half surrogate pair.
-/

namespace TypedJson

open Json

/-- Lists and objects nest at most this deep. -/
def nestingLimit : Nat := 127

/-- A reference is an integer of 32 bits. -/
def TypeRef.ofJson? : Json → Option TypeRef
  | .int i => if 0 ≤ i ∧ i < 0x100000000 then some ⟨i.toNat⟩ else none
  | _ => none

/-- The names of the steps of transformers, in order. -/
def stepNames : List String :=
  ["decode", "encode", "elements", "choice", "union-member-match", "union-instantiation",
    "parse-string", "stringify"]

/-- The names of the kinds of types, in order. -/
def kindNames : List String :=
  ["any", "null", "bool", "integer", "double", "string", "array", "map", "class", "enum", "union",
    "transformed-string"]

/-- The container of a name. -/
def Container.ofJson? (j : Json) : Option Container :=
  match emptyName? j with
  | some "list" => some .list
  | some "dict" => some .dict
  | _ => none

/-- The text format of a name. -/
def TextFormat.ofJson? (j : Json) : Option TextFormat :=
  match emptyName? j with
  | some "date-time" => some .dateTime
  | some "integer-string" => some .integerText
  | _ => none

/-- Read a transformer that nests at most the given number of objects. -/
def Transformer.ofJson? : Nat → Json → Option Transformer
  | levels + 1, .object members => do
    let source ← required? "source" TypeRef.ofJson? members
    let step ← required? "op" (tag? stepNames) members
    let next := optional? "consumer" (Transformer.ofJson? levels) members
    match step with
    | "decode" => return .decode source (← next)
    | "encode" => return .encode source
    | "elements" =>
      let container ← required? "container" Container.ofJson? members
      let element ← required? "element" (Transformer.ofJson? levels) members
      return .elements source container element (← next)
    | "choice" =>
      let branches ← required? "branches" (listOf? (Transformer.ofJson? levels)) members
      return .choice source branches
    | "union-member-match" =>
      let member ← required? "member" TypeRef.ofJson? members
      return .memberMatch source member (← next)
    | "union-instantiation" => return .instantiate source
    | "parse-string" => return .parseText source (← next)
    | "stringify" => return .writeText source (← next)
    | _ => none
  | _, _ => none

/-- Read a transformer, no part of which is skipped, at the given level. -/
def Transformer.ofSoundJson? (levels : Nat) (j : Json) : Option Transformer :=
  if j.soundWithin levels then Transformer.ofJson? levels j else none

/-- Read a transformation at the given level. -/
def Transformation.ofJson? : Nat → Json → Option Transformation
  | levels + 1, .object members => do
    let target ← required? "target" TypeRef.ofJson? members
    let transformer ← required? "transformer" (Transformer.ofSoundJson? levels) members
    let reverse ← required? "reverse" (Transformer.ofSoundJson? levels) members
    return ⟨target, transformer, reverse⟩
  | levels + 1, .list [target, transformer, reverse] => do
    let target ← TypeRef.ofJson? target
    let transformer ← Transformer.ofSoundJson? levels transformer
    let reverse ← Transformer.ofSoundJson? levels reverse
    return ⟨target, transformer, reverse⟩
  | _, _ => none

/-- Read a property. -/
def Property.ofJson? : Json → Option Property
  | .object members => do
    let name ← required? "name" text? members
    let type ← required? "type" TypeRef.ofJson? members
    let description ← optional? "description" text? members
    return ⟨name, type, description⟩
  | .list [name, type] => do
    return ⟨← text? name, ← TypeRef.ofJson? type, none⟩
  | .list [name, type, description] => do
    return ⟨← text? name, ← TypeRef.ofJson? type, ← nullable? text? description⟩
  | _ => none

/-- Read the kind that the members of a type describe. -/
def Kind.ofMembers? (members : List (String × Json)) : Option Kind := do
  let kind ← required? "kind" (tag? kindNames) members
  match kind with
  | "any" => return .any
  | "null" => return .null
  | "bool" => return .bool
  | "integer" => return .integer
  | "double" => return .double
  | "string" => return .text
  | "array" => return .array (← required? "items" TypeRef.ofJson? members)
  | "map" => return .map (← required? "values" TypeRef.ofJson? members)
  | "class" =>
    let name ← required? "name" text? members
    let properties ← defaulted? "properties" [] (listOf? Property.ofJson?) members
    let description ← optional? "description" text? members
    return .record ⟨name, properties, description⟩
  | "enum" =>
    let name ← required? "name" text? members
    let cases ← required? "cases" (listOf? text?) members
    let description ← optional? "description" text? members
    return .enumeration ⟨name, cases, description⟩
  | "union" => return .union (← required? "members" (listOf? TypeRef.ofJson?) members)
  | "transformed-string" => return .formatted (← required? "format" TextFormat.ofJson? members)
  | _ => none

/-- Read a type at the given level. Only its transformation may have parts that are skipped. -/
def Node.ofJson? : Nat → Json → Option Node
  | levels + 1, .object members => do
    let transformation ← optional? "transformation" (Transformation.ofJson? levels) members
    let others := members.filter fun m => m.1 != "transformation"
    if allMembersSound levels others then
      let kind ← Kind.ofMembers? others
      return ⟨kind, transformation⟩
    else none
  | _, _ => none

/-- Read a top-level. -/
def TopLevel.ofJson? : Json → Option TopLevel
  | .object members => do
    let name ← required? "name" text? members
    let type ← required? "type" TypeRef.ofJson? members
    return ⟨name, type⟩
  | .list [name, type] => do
    return ⟨← text? name, ← TypeRef.ofJson? type⟩
  | _ => none

namespace TypeGraph

/-- Read the types and top-levels of a graph, which need not be acceptable. -/
def parts? : Json → Option (List Node × List TopLevel)
  | .object members => do
    let types ← required? "types" (listOf? (Node.ofJson? (nestingLimit - 2))) members
    let topLevels ← required? "top_levels" (listOf? TopLevel.ofJson?) members
    return (types, topLevels)
  | .list [types, topLevels] => do
    return (← listOf? (Node.ofJson? (nestingLimit - 2)) types,
      ← listOf? TopLevel.ofJson? topLevels)
  | _ => none

/-- The accepted graph of a JSON value. -/
def ofJson (j : Json) : Except GraphError TypeGraph :=
  match parts? j with
  | some (types, topLevels) => make types.toArray topLevels
  | none => .error .malformed

/-- The accepted graph of a JSON text. -/
def read (s : String) : Except GraphError TypeGraph :=
  match Json.read? s with
  | some j => ofJson j
  | none => .error .malformed

end TypeGraph

end TypedJson
