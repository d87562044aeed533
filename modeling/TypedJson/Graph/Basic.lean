import TypedJson.Graph.Transformer

/-!
# Type graphs

The types of a JSON document, in an array whose positions serve as references, so that records may
refer to one another and to themselves. Top-level types are where documents start. All lists are
in declaration order.
-/

namespace TypedJson

/-- What a text decodes to when it is not kept as a text. -/
inductive TextFormat where
  /-- A date with a time. -/
  | dateTime
  /-- A text of decimal digits that stands for an integer. -/
  | integerText
  deriving DecidableEq, Repr

/-- A property of a record. -/
structure Property where
  /-- The key in JSON objects, verbatim. -/
  name : String
  type : TypeRef
  description : Option String
  deriving DecidableEq, Repr

/-- A record type, which generated code writes as a class. -/
structure Record where
  name : String
  properties : List Property
  description : Option String
  deriving DecidableEq, Repr

/-- A closed set of texts. -/
structure Enumeration where
  name : String
  cases : List String
  description : Option String
  deriving DecidableEq, Repr

/-- The kind of a type. -/
inductive Kind where
  | any
  | null
  | bool
  | integer
  | double
  | text
  | array (items : TypeRef)
  | map (values : TypeRef)
  | record (r : Record)
  | enumeration (e : Enumeration)
  | union (members : List TypeRef)
  | formatted (format : TextFormat)
  deriving DecidableEq, Repr

namespace Kind

/-- The name of the kind in messages. -/
def name : Kind → String
  | .any => "any"
  | .null => "null"
  | .bool => "bool"
  | .integer => "integer"
  | .double => "double"
  | .text => "string"
  | .array _ => "array"
  | .map _ => "map"
  | .record _ => "class"
  | .enumeration _ => "enum"
  | .union _ => "union"
  | .formatted .dateTime => "date-time"
  | .formatted .integerText => "integer-string"

/-- The place of the kind among the members of a union. -/
def rank : Kind → Nat
  | .null => 0
  | .bool => 1
  | .integer => 2
  | .double => 3
  | .text => 4
  | .formatted .dateTime => 5
  | .formatted .integerText => 6
  | .enumeration _ => 7
  | .record _ => 8
  | .array _ => 9
  | .map _ => 10
  | .any => 11
  | .union _ => 12

/-- The label of a record or an enumeration. -/
def label? : Kind → Option String
  | .record r => some r.name
  | .enumeration e => some e.name
  | _ => none

/-- The kind is that of a record. -/
def isRecord : Kind → Bool
  | .record _ => true
  | _ => false

/-- The kind is that of an enumeration. -/
def isEnumeration : Kind → Bool
  | .enumeration _ => true
  | _ => false

/-- The kind is that of a union. -/
def isUnion : Kind → Bool
  | .union _ => true
  | _ => false

end Kind

/-- A type of a graph: its kind, and how it is converted if not by the rules of its kind. -/
structure Node where
  kind : Kind
  transformation : Option Transformation
  deriving Repr

/-- A named type of whole documents. -/
structure TopLevel where
  name : String
  type : TypeRef
  deriving DecidableEq, Repr

/-- A set of types and the top-level types among them. -/
structure TypeGraph where
  types : Array Node
  topLevels : List TopLevel
  deriving Repr

namespace TypeGraph

/-- The number of types. -/
def size (g : TypeGraph) : Nat :=
  g.types.size

/-- The references of all types, in declaration order. -/
def refs (g : TypeGraph) : List TypeRef :=
  (List.range g.size).map TypeRef.mk

/-- The type that a reference denotes. -/
def node? (g : TypeGraph) (t : TypeRef) : Option Node :=
  g.types[t.index]?

/-- The kind of the type that a reference denotes. -/
def kind? (g : TypeGraph) (t : TypeRef) : Option Kind :=
  (g.node? t).map Node.kind

/-- The transformation of the type that a reference denotes. -/
def transformation? (g : TypeGraph) (t : TypeRef) : Option Transformation :=
  (g.node? t).bind Node.transformation

/-- The reference denotes a type whose kind satisfies `p`. -/
def kindHolds (g : TypeGraph) (p : Kind → Bool) (t : TypeRef) : Bool :=
  match g.kind? t with
  | some k => p k
  | none => false

/-- The type is the null type. -/
def isNull (g : TypeGraph) (t : TypeRef) : Bool :=
  g.kindHolds (fun k => k = .null) t

/-- The type admits null: it is the null type, or a union with the null type. -/
def isNullable (g : TypeGraph) (t : TypeRef) : Bool :=
  match g.kind? t with
  | some .null => true
  | some (.union members) => members.any g.isNull
  | _ => false

/-- The members of a union apart from the null type; any other type by itself. -/
def nonNullMembers (g : TypeGraph) (t : TypeRef) : List TypeRef :=
  match g.kind? t with
  | some (.union members) => members.filter fun m => !g.isNull m
  | _ => [t]

/-- The records, in declaration order. -/
def records (g : TypeGraph) : List TypeRef :=
  g.refs.filter (g.kindHolds Kind.isRecord)

/-- The enumerations, in declaration order. -/
def enumerations (g : TypeGraph) : List TypeRef :=
  g.refs.filter (g.kindHolds Kind.isEnumeration)

/-- The records and enumerations, in declaration order. -/
def namedTypes (g : TypeGraph) : List TypeRef :=
  g.refs.filter (g.kindHolds fun k => k.isRecord || k.isEnumeration)

/-- The record that a reference denotes. -/
def record? (g : TypeGraph) (t : TypeRef) : Option Record :=
  match g.kind? t with
  | some (.record r) => some r
  | _ => none

/-- The enumeration that a reference denotes. -/
def enumeration? (g : TypeGraph) (t : TypeRef) : Option Enumeration :=
  match g.kind? t with
  | some (.enumeration e) => some e
  | _ => none

/-- A record is converted by a transformation. -/
def transformsRecords (g : TypeGraph) : Bool :=
  g.types.toList.any fun node => node.kind.isRecord && node.transformation.isSome

/-- How many properties the records have together. -/
def propertyCount (g : TypeGraph) : Nat :=
  (g.records.filterMap g.record?).foldl (fun n r => n + r.properties.length) 0

/-- The type of the first top-level of a name. -/
def topLevelType? (g : TypeGraph) (name : String) : Option TypeRef :=
  (g.topLevels.find? fun top => top.name == name).map TopLevel.type

end TypeGraph

end TypedJson
