import TypedJson.Value.Error
import TypedJson.Value.Integer

/-!
# Converting values

`TypeGraph.decode` and `TypeGraph.encode` convert values as the generated code does: by the rules of
the kind of a type, or by its transformer, step by step. A shape that does not match fails instead
of being coerced, and unions and choices give the result of the first branch that succeeds.
-/

namespace TypedJson

/-! ## Branches and elements -/

/-- The result of the first branch that does not fail, after `tried` that did. -/
def firstSuccess {β : Type} (run : β → Outcome Value) (tried : Nat) : List β → Outcome Value
  | [] => .error (.failed (.noMember tried))
  | branch :: rest =>
    match run branch with
    | .error (.failed _) => firstSuccess run (tried + 1) rest
    | outcome => outcome

/-- How many branches are run until one does not fail. -/
def branchesRun {β : Type} (run : β → Outcome Value) : List β → Nat
  | [] => 0
  | branch :: rest =>
    match run branch with
    | .error (.failed _) => branchesRun run rest + 1
    | _ => 1

/-- Convert the items of a list. -/
def convertItems (f : Value → Outcome Value) : Value → Outcome Value
  | .list items => (items.mapM f).map .list
  | other => .shape "list" other

/-- Convert the values of a dict. -/
def convertEntries (f : Value → Outcome Value) : Value → Outcome Value
  | .dict entries =>
    (entries.mapM fun entry => (f entry.2).map fun value => (entry.1, value)).map .dict
  | other => .shape "dict" other

/-- The written form of a timestamp. -/
def writeTimestamp : Value → Outcome Value
  | .dateTime t => .ok (.str t.text)
  | other => .shape "datetime" other

/-- The timestamp of a text. -/
def parseTimestamp (s : String) : Outcome Value :=
  match Timestamp.parse? s with
  | some t => .ok (.dateTime t)
  | none => .error (.failed (.parse .dateTime s))

/-- The integer of a text. -/
def parseInteger (s : String) : Outcome Value :=
  match Integer.parse? s with
  | some i => .ok (.int i)
  | none => .error (.failed (.parse .integer s))

/-- The case of an enumeration that a value names. -/
def Enumeration.decode (e : Enumeration) : Value → Outcome Value
  | .str s =>
    if e.cases.contains s then .ok (.enumCase e.name s)
    else .error (.failed (.unknownCase e.name (.str s)))
  | other => .error (.failed (.unknownCase e.name other))

/-- The text of a case of an enumeration. -/
def Enumeration.encode (e : Enumeration) : Value → Outcome Value
  | .enumCase enumeration case =>
    if enumeration = e.name then .ok (.str case) else .shape e.name (.enumCase enumeration case)
  | other => .shape e.name other

/-- Decode the entries of a dict as the properties of a record, on top of the fields decoded so
far. A missing entry counts as none, and an entry is used once. -/
def decodeFields (f : TypeRef → Value → Outcome Value) :
    List Property → List (String × Value) → List (String × Value) →
      Outcome (List (String × Value))
  | [], _, fields => .ok fields
  | p :: rest, entries, fields => do
    let value ← f p.type ((Ordered.find? p.name entries).getD .none)
    decodeFields f rest (Ordered.erase p.name entries) (Ordered.insertEntry p.name value fields)

/-- Encode the fields of an object as the properties of a record, on top of the entries encoded so
far. A missing field of a nullable type is left out. -/
def encodeFields (nullable : TypeRef → Bool) (f : TypeRef → Value → Outcome Value) :
    List Property → List (String × Value) → List (String × Value) →
      Outcome (List (String × Value))
  | [], _, entries => .ok entries
  | p :: rest, fields, entries => do
    let value := (Ordered.find? p.name fields).getD .none
    let others := Ordered.erase p.name fields
    if value.isNone && nullable p.type then encodeFields nullable f rest others entries
    else
      let encoded ← f p.type value
      encodeFields nullable f rest others (Ordered.insertEntry p.name encoded entries)

/-- The JSON shape that decoding a kind asks for. -/
def Kind.jsonShape : Kind → String
  | .null => "None"
  | .bool => "bool"
  | .integer => "int"
  | .double => "float"
  | .text => "str"
  | .enumeration _ => "str"
  | .formatted _ => "str"
  | .array _ => "list"
  | .record _ => "dict"
  | .map _ => "dict"
  | .any => "any"
  | .union _ => "any"

namespace TypeGraph

variable (g : TypeGraph)

/-- The kind of a type. -/
def kindOf (t : TypeRef) : Outcome Kind :=
  match g.kind? t with
  | some k => .ok k
  | none => .error (.dangling t)

/-! ## By kind -/

/-- Decode by the rules of the kind of `t`. The conversion of elements, members and properties is
given. -/
def decodeByKind (f : TypeRef → Value → Outcome Value) (value : Value) (t : TypeRef) :
    Outcome Value := do
  match ← g.kindOf t, value with
  | .any, v => .ok v
  | .null, .none => .ok .none
  | .bool, .bool b => .ok (.bool b)
  | .integer, .int i => .ok (.int i)
  | .double, .int i => .ok (.float (Binary64.ofInt i))
  | .double, .float x => .ok (.float x)
  | .text, .str s => .ok (.str s)
  | .array items, v => convertItems (f items) v
  | .map values, v => convertEntries (f values) v
  | .record r, .dict entries => (decodeFields f r.properties entries []).map (.object r.name)
  | .enumeration e, v => e.decode v
  | .union members, v => firstSuccess (fun m => f m v) 0 members
  | .formatted .dateTime, .str s => parseTimestamp s
  | .formatted .integerText, _ => .unsupported (.noTransformation t)
  | kind, v => .shape kind.jsonShape v

/-- Encode by the rules of the kind of `t`. The conversion of elements, members and properties is
given. -/
def encodeByKind (f : TypeRef → Value → Outcome Value) (value : Value) (t : TypeRef) :
    Outcome Value := do
  match ← g.kindOf t, value with
  | .any, v => .ok v
  | .null, .none => .ok .none
  | .bool, .bool b => .ok (.bool b)
  | .integer, .int i => .ok (.int i)
  | .double, .float x => .ok (.float x)
  | .text, .str s => .ok (.str s)
  | .array items, v => convertItems (f items) v
  | .map values, v => convertEntries (f values) v
  | .record r, .object name fields =>
    if name = r.name then (encodeFields g.isNullable f r.properties fields []).map .dict
    else .shape r.name (.object name fields)
  | .enumeration e, v => e.encode v
  | .union members, v => firstSuccess (fun m => f m v) 0 members
  | .formatted .dateTime, v => writeTimestamp v
  | .formatted .integerText, _ => .unsupported (.noTransformation t)
  | .record r, v => .shape r.name v
  | kind, v => .shape kind.name v

/-- Convert by the rules of the kind of `t`. -/
def convertByKind (direction : Direction) (f : TypeRef → Value → Outcome Value) (value : Value)
    (t : TypeRef) : Outcome Value :=
  match direction with
  | .decode => g.decodeByKind f value t
  | .encode => g.encodeByKind f value t

/-! ## By transformer -/

/-- The value is of the type that the type object of a kind tells: of the JSON shape of the kind
before decoding, and a decoded value of it before encoding. None of them tells the values of any
type or of a union. -/
def matchesKind? (direction : Direction) (kind : Kind) (value : Value) : Option Bool :=
  match kind, direction, value with
  | .any, _, _ => none
  | .union _, _, _ => none
  | .null, _, .none => some true
  | .bool, _, .bool _ => some true
  | .integer, _, .int _ => some true
  | .integer, _, .bool _ => some true
  | .double, _, .float _ => some true
  | .text, _, .str _ => some true
  | .array _, _, .list _ => some true
  | .map _, _, .dict _ => some true
  | .record _, .decode, .dict _ => some true
  | .enumeration _, .decode, .str _ => some true
  | .formatted _, .decode, .str _ => some true
  | .record r, .encode, .object name _ => some (name = r.name)
  | .enumeration e, .encode, .enumCase name _ => some (name = e.name)
  | .formatted .dateTime, .encode, .dateTime _ => some true
  | .formatted .integerText, .encode, .int _ => some true
  | .formatted .integerText, .encode, .bool _ => some true
  | _, _, _ => some false

/-- Require that the value is of the type that the type object of `member` tells. -/
def requireType (direction : Direction) (value : Value) (member : TypeRef) : Outcome Unit := do
  let kind ← g.kindOf member
  match matchesKind? direction kind value with
  | none => .unsupported (.typeObject kind)
  | some true => .ok ()
  | some false => .shape kind.name value

/-- Parse a text into a value of `t`. -/
def parseInto (value : Value) (t : TypeRef) : Outcome Value :=
  match value with
  | .str s => do
    match ← g.kindOf t with
    | .integer => parseInteger s
    | .enumeration e => e.decode (.str s)
    | .formatted .dateTime => parseTimestamp s
    | other => .unsupported (.parse other)
  | other => .shape "str" other

/-- Write a value of `t` as a text. -/
def writeFrom (value : Value) (t : TypeRef) : Outcome Value := do
  match ← g.kindOf t, value with
  | .integer, .int i => .ok (.str (toString i))
  | .enumeration e, v => e.encode v
  | .formatted .dateTime, v => writeTimestamp v
  | .integer, v => .shape "int" v
  | other, _ => .unsupported (.write other)

/-- The type of the elements of a container, if the target is such a container. -/
def elementTarget (target : TypeRef) (container : Container) : TypeRef :=
  match g.kind? target, container with
  | some (.array items), .list => items
  | some (.map values), .dict => values
  | _, _ => target

mutual
/-- Convert by a transformer. The conversion by kind is given: a decoding step decodes and an
encoding step encodes, whichever way the whole goes, and the direction of the whole decides what a
value is matched with. -/
def transformWith (byKind : Direction → Value → TypeRef → Outcome Value) (direction : Direction) :
    Transformer → Value → TypeRef → Outcome Value
  | .choice _ branches, value, target => transformFirst byKind direction branches 0 value target
  | .decode source next, value, target => do
    let decoded ← byKind .decode value source
    transformNext byKind direction next decoded target
  | .encode source, value, _ => byKind .encode value source
  | .elements _ container element next, value, target => do
    let itemTarget := g.elementTarget target container
    let each v := transformWith byKind direction element v itemTarget
    let converted ← match container with
      | .list => convertItems each value
      | .dict => convertEntries each value
    transformNext byKind direction next converted target
  | .memberMatch _ member next, value, target => do
    g.requireType direction value member
    transformNext byKind direction next value target
  | .instantiate _, value, _ => .ok value
  | .parseText _ next, value, target => do
    let parsed ← g.parseInto value (match next with
      | some step => step.source
      | none => target)
    transformNext byKind direction next parsed target
  | .writeText source next, value, target => do
    let written ← g.writeFrom value source
    transformNext byKind direction next written target

/-- Go on with the next step, if there is one. -/
def transformNext (byKind : Direction → Value → TypeRef → Outcome Value) (direction : Direction) :
    Option Transformer → Value → TypeRef → Outcome Value
  | none, value, _ => .ok value
  | some step, value, target => transformWith byKind direction step value target

/-- The result of the first branch that does not fail, after `tried` that did. -/
def transformFirst (byKind : Direction → Value → TypeRef → Outcome Value) (direction : Direction) :
    List Transformer → Nat → Value → TypeRef → Outcome Value
  | [], tried, _, _ => .error (.failed (.noMember tried))
  | branch :: rest, tried, value, target =>
    match transformWith byKind direction branch value target with
    | .error (.failed _) => transformFirst byKind direction rest (tried + 1) value target
    | outcome => outcome
end

/-! ## By type -/

/-- Convert a value of a type, by way of at most `depth` types that lie within one another. -/
def convertWithin : Nat → Direction → TypeRef → Value → Outcome Value
  | 0, _, t, _ => .error (.endless t)
  | depth + 1, direction, t, value =>
    let byKind (d : Direction) := g.convertByKind d (convertWithin depth d)
    match g.transformation? t, direction with
    | none, _ => byKind direction value t
    | some x, .decode => g.transformWith byKind .decode x.transformer value x.target
    | some x, .encode => g.transformWith byKind .encode x.reverse value t

/-- How many bits tell the values apart that conversions make of one value. They keep the nesting
of lists and tables. A table may lose an entry or gain a none for a property, and a part of the
value may become a text, a number, a timestamp, a case of an enumeration or an object of a record,
or go missing: for a graph of `n` types these are no more than `32 * (n + 1)` forms of a part. -/
def formBits (value : Value) : Nat :=
  value.count * (g.propertyCount + Nat.log2 (g.size + 1) + 6)

/-- How many types may lie within one another while a value is converted. What a conversion leads to
depends on its direction, its type and its value alone, so one that meets itself again has no end.
Between two levels of the value no type is entered twice in one direction, unless by way of the
transformation of a record, which may enter a type again with another form of the value. -/
def budget (value : Value) : Nat :=
  let atOneLevel := 2 * (g.size + 1)
  let forms := if g.transformsRecords then Nat.pow 2 (g.formBits value) else 1
  atOneLevel * (value.depth + 1) * forms

/-- Convert a value of a type. -/
def convert (direction : Direction) (t : TypeRef) (value : Value) : Outcome Value :=
  g.convertWithin (g.budget value) direction t value

/-- Decode a JSON value as a type. -/
def decode (t : TypeRef) (value : Value) : Outcome Value :=
  g.convert .decode t value

/-- Encode a value of a type as a JSON value. -/
def encode (t : TypeRef) (value : Value) : Outcome Value :=
  g.convert .encode t value

/-- Convert a value by a transformer that leads to a target. -/
def transform (direction : Direction) (x : Transformer) (target : TypeRef) (value : Value) :
    Outcome Value :=
  g.transformWith (fun d => g.convertByKind d (g.convertWithin (g.budget value) d)) direction x
    value target

/-! ## Documents -/

/-- The type of a top-level. -/
def topLevelType (name : String) : Outcome TypeRef :=
  match g.topLevelType? name with
  | some t => .ok t
  | none => .error (.failed (.unknownTopLevel name))

/-- Decode a JSON document as a top-level. -/
def decodeTopLevel (name : String) (document : Json) : Outcome Value := do
  g.decode (← g.topLevelType name) (Value.ofJson document)

/-- Encode a value of a top-level as a JSON document. -/
def encodeTopLevel (name : String) (value : Value) : Outcome Json := do
  let encoded ← g.encode (← g.topLevelType name) value
  match encoded.toJson with
  | .ok document => .ok document
  | .error what => .error (.failed (.notJson what))

end TypeGraph

end TypedJson
