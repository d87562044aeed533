import TypedJson.Graph.Check

/-!
# Building type graphs

A builder collects types one by one. Each step returns the reference of the type that it provides.
A primitive type is added once and found again afterwards, and a record may be declared before its
properties are known, so that it can refer to itself.
-/

namespace TypedJson

/-- The types and top-levels collected so far, and the primitive types among them by the names of
their kinds. -/
structure Builder where
  types : Array Node
  primitives : List (String × TypeRef)
  topLevels : List TopLevel
  deriving Repr

namespace Builder

/-- Nothing collected yet. -/
def empty : Builder :=
  ⟨#[], [], []⟩

/-- Add a type of the given kind. -/
def push (b : Builder) (kind : Kind) : TypeRef × Builder :=
  (⟨b.types.size⟩, { b with types := b.types.push ⟨kind, none⟩ })

/-- The type of the given kind, added if it is not there. -/
def primitive (b : Builder) (kind : Kind) : TypeRef × Builder :=
  match b.primitives.lookup kind.name with
  | some t => (t, b)
  | none =>
    let (t, grown) := b.push kind
    (t, { grown with primitives := (kind.name, t) :: grown.primitives })

/-- Convert a type by the given transformation. -/
def setTransformation (b : Builder) (t : TypeRef) (x : Transformation) : Builder :=
  { b with types := b.types.modify t.index fun node => { node with transformation := some x } }

/-- How a text of digits is converted: decode a text and parse it, or write a text and encode
it. -/
def integerTextTransformation (text integer : TypeRef) : Transformation where
  target := integer
  transformer := .decode text (some (.parseText text none))
  reverse := .writeText integer (some (.encode text))

/-- The type of texts that stand for integers, together with its transformation and the types
that this refers to. -/
def integerText (b : Builder) : TypeRef × Builder :=
  let kind := Kind.formatted .integerText
  match b.primitives.lookup kind.name with
  | some t => (t, b)
  | none =>
    let (text, b) := b.primitive .text
    let (integer, b) := b.primitive .integer
    let (t, b) := b.primitive kind
    (t, b.setTransformation t (integerTextTransformation text integer))

/-- Add a record without properties. -/
def declareRecord (b : Builder) (name : String) : TypeRef × Builder :=
  b.push (.record ⟨name, [], none⟩)

/-- Add a record with the given properties. -/
def record (b : Builder) (name : String) (properties : List (String × TypeRef)) :
    TypeRef × Builder :=
  b.push (.record ⟨name, properties.map fun p => ⟨p.1, p.2, none⟩, none⟩)

/-- Change the kind of a type. -/
def modifyKind (b : Builder) (t : TypeRef) (f : Kind → Kind) : Builder :=
  { b with types := b.types.modify t.index fun node => { node with kind := f node.kind } }

/-- Add a property at the end of a record. -/
def addProperty (b : Builder) (record : TypeRef) (name : String) (type : TypeRef) :
    Except GraphError Builder :=
  match (b.types[record.index]?).map Node.kind with
  | some (.record r) =>
    .ok (b.modifyKind record fun _ =>
      .record { r with properties := r.properties ++ [⟨name, type, none⟩] })
  | _ => .error (.notARecord record)

/-- Add an enumeration. -/
def enumeration (b : Builder) (name : String) (cases : List String) : TypeRef × Builder :=
  b.push (.enumeration ⟨name, cases, none⟩)

/-- Add a union. -/
def union (b : Builder) (members : List TypeRef) : TypeRef × Builder :=
  b.push (.union members)

/-- Add the union of a type with the null type. -/
def nullable (b : Builder) (t : TypeRef) : TypeRef × Builder :=
  let (null, b) := b.primitive .null
  b.union [null, t]

/-- The properties with a description for the first one of a name. -/
def describeFirst (name text : String) : List Property → List Property
  | [] => []
  | p :: rest =>
    if p.name = name then { p with description := some text } :: rest
    else p :: describeFirst name text rest

/-- The kind with a description for itself, or for its first property of a name. Only records and
enumerations carry descriptions. -/
def describeKind (property : Option String) (text : String) : Kind → Kind
  | .record r =>
    match property with
    | none => .record { r with description := some text }
    | some name => .record { r with properties := describeFirst name text r.properties }
  | .enumeration e =>
    match property with
    | none => .enumeration { e with description := some text }
    | some _ => .enumeration e
  | kind => kind

/-- Describe a type or a property of it. -/
def describe (b : Builder) (t : TypeRef) (property : Option String) (text : String) : Builder :=
  b.modifyKind t (describeKind property text)

/-- Add a top-level. -/
def topLevel (b : Builder) (name : String) (type : TypeRef) : Builder :=
  { b with topLevels := b.topLevels ++ [⟨name, type⟩] }

/-- The accepted graph of what has been collected. -/
def build (b : Builder) : Except GraphError TypeGraph :=
  TypeGraph.make b.types b.topLevels

end Builder

end TypedJson
