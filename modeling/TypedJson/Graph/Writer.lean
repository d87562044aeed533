import TypedJson.Graph.Basic
import TypedJson.Json.Writer

/-!
# Type graphs as JSON

The JSON form of a type graph: types and top-levels in order, the kind of a type first among its
members, and absent descriptions, transformations and next steps left out.
-/

namespace TypedJson

/-- A member whose value may be absent. -/
def optionalMember (name : String) : Option Json → List (String × Json)
  | none => []
  | some value => [(name, value)]

/-- A reference as JSON. -/
def TypeRef.toJson (t : TypeRef) : Json :=
  .int t.index

/-- The name of a container. -/
def Container.name : Container → String
  | .list => "list"
  | .dict => "dict"

/-- The name of a text format. -/
def TextFormat.name : TextFormat → String
  | .dateTime => "date-time"
  | .integerText => "integer-string"

namespace Transformer

mutual
/-- A transformer as JSON: the source, the step, what belongs to the step, and the next step. -/
def toJson : Transformer → Json
  | .decode s next =>
    .object ([("source", s.toJson), ("op", .text "decode")] ++ nextMember next)
  | .encode s => .object [("source", s.toJson), ("op", .text "encode")]
  | .elements s container element next =>
    .object ([("source", s.toJson), ("op", .text "elements"),
      ("container", .text container.name), ("element", toJson element)] ++ nextMember next)
  | .choice s branches =>
    .object [("source", s.toJson), ("op", .text "choice"), ("branches", .list (toJsonAll branches))]
  | .memberMatch s member next =>
    .object ([("source", s.toJson), ("op", .text "union-member-match"),
      ("member", member.toJson)] ++ nextMember next)
  | .instantiate s => .object [("source", s.toJson), ("op", .text "union-instantiation")]
  | .parseText s next =>
    .object ([("source", s.toJson), ("op", .text "parse-string")] ++ nextMember next)
  | .writeText s next =>
    .object ([("source", s.toJson), ("op", .text "stringify")] ++ nextMember next)

/-- The branches of a choice as JSON. -/
def toJsonAll : List Transformer → List Json
  | [] => []
  | branch :: rest => toJson branch :: toJsonAll rest

/-- The member for the next step, if there is one. -/
def nextMember : Option Transformer → List (String × Json)
  | none => []
  | some step => [("consumer", toJson step)]
end

end Transformer

/-- A transformation as JSON. -/
def Transformation.toJson (x : Transformation) : Json :=
  .object [("target", x.target.toJson), ("transformer", x.transformer.toJson),
    ("reverse", x.reverse.toJson)]

/-- A property as JSON. -/
def Property.toJson (p : Property) : Json :=
  .object ([("name", .text p.name), ("type", p.type.toJson)]
    ++ optionalMember "description" (p.description.map .text))

/-- The members that describe a kind, its name first. -/
def Kind.members : Kind → List (String × Json)
  | .any => [("kind", .text "any")]
  | .null => [("kind", .text "null")]
  | .bool => [("kind", .text "bool")]
  | .integer => [("kind", .text "integer")]
  | .double => [("kind", .text "double")]
  | .text => [("kind", .text "string")]
  | .array items => [("kind", .text "array"), ("items", items.toJson)]
  | .map values => [("kind", .text "map"), ("values", values.toJson)]
  | .record r =>
    [("kind", .text "class"), ("name", .text r.name),
      ("properties", .list (r.properties.map Property.toJson))]
      ++ optionalMember "description" (r.description.map .text)
  | .enumeration e =>
    [("kind", .text "enum"), ("name", .text e.name), ("cases", .list (e.cases.map .text))]
      ++ optionalMember "description" (e.description.map .text)
  | .union members =>
    [("kind", .text "union"), ("members", .list (members.map TypeRef.toJson))]
  | .formatted format => [("kind", .text "transformed-string"), ("format", .text format.name)]

/-- A type as JSON. -/
def Node.toJson (node : Node) : Json :=
  .object (node.kind.members
    ++ optionalMember "transformation" (node.transformation.map Transformation.toJson))

/-- A top-level as JSON. -/
def TopLevel.toJson (top : TopLevel) : Json :=
  .object [("name", .text top.name), ("type", top.type.toJson)]

namespace TypeGraph

/-- A type graph as JSON. -/
def toJson (g : TypeGraph) : Json :=
  .object [("types", .list (g.types.toList.map Node.toJson)),
    ("top_levels", .list (g.topLevels.map TopLevel.toJson))]

/-- The JSON text of a type graph. -/
def write (g : TypeGraph) : String :=
  g.toJson.pretty

end TypeGraph

end TypedJson
