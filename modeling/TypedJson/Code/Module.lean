import TypedJson.Code.Annotation
import TypedJson.Code.Literal

/-!
# Generated modules

`renderModule` writes the module for a graph: an enumeration class for each enumeration, a class for
each record with a constructor and conversions in both directions, a pair of functions for each
top-level, and the support functions and imports that these need. Everything is first put into steps
of layout; nothing but names, annotations and conversions can refuse a graph.
-/

namespace TypedJson.Code

/-! ## Pieces -/

/-- The docstring of a description, if there is one. -/
def docSteps : Option String → List Step
  | none => []
  | some text => (docstring text).map .line

/-- A description as comment lines. -/
def commentSteps : Option String → List Step
  | none => []
  | some text => (Text.lines text.toList).map fun line => .line ("# " ++ String.ofList line)

/-- A property as a class holds it. -/
structure Field where
  name : String
  key : String
  type : TypeRef
  optional : Bool
  description : Option String
  /-- The annotation of the type, empty without type hints. -/
  hint : String

/-- The name of a field as a parameter of the constructor or a field of the class. -/
def Field.declaration (hints : Bool) (f : Field) : String :=
  if hints then f.name ++ ": " ++ f.hint else f.name

/-! ## Enumerations -/

/-- The class of an enumeration, given the lines of its cases. -/
def enumerationSteps (name : String) (description : Option String) (cases : List String) :
    List Step :=
  let body := docSteps description ++ cases.map .line
    ++ if cases.isEmpty && description.isNone then [.line "pass"] else []
  [.enter .enumerations, .line ("class " ++ name ++ "(Enum):")] ++ indented body ++ [.blank 2]

/-- The class of an enumeration. -/
def Context.enumerationClass (ctx : Context) (t : TypeRef) (e : Enumeration) : Gen (List Step) := do
  let name ← ctx.typeName t
  Gen.require (·.addName "enum" "Enum")
  let cases ← e.cases.zipIdx.mapM fun c => do
    let caseName ← Gen.lift (ctx.names.caseName t c.2)
    return caseName ++ " = " ++ literal ctx.features.markedText c.1
  return enumerationSteps name e.description cases

/-! ## Classes -/

/-- The fields of a class. Where the constructor comes from the fields, those with a default stand
behind the others. -/
def Context.fields (ctx : Context) (declared : List TypeRef) (t : TypeRef) (r : Record) :
    Gen (List Field) := do
  let fields ← r.properties.zipIdx.mapM fun p => do
    let name ← Gen.lift (ctx.names.propertyName t p.2)
    let f : Field := ⟨name, p.1.name, p.1.type, ctx.graph.isNullable p.1.type, p.1.description, ""⟩
    return f
  let ordered :=
    if ctx.features.dataclasses then
      fields.filter (fun f => !f.optional) ++ fields.filter (fun f => f.optional)
    else fields
  ordered.mapM fun f => do
    if ctx.features.typeHints then
      let hint ← ctx.annotate ⟨declared, true⟩ f.type
      return { f with hint }
    else return f

/-- The annotated fields of a class, each with its description. -/
def fieldSteps (f : Features) (fields : List Field) : List Step :=
  fields.flatMap fun field =>
    let default := if f.dataclasses && field.optional then " = None" else ""
    .line (field.declaration true ++ default) :: docSteps field.description

/-- The constructor of a class. Without annotated fields, the descriptions stand here. -/
def constructorSteps (hints : Bool) (fields : List Field) : List Step :=
  let parameters := ", ".intercalate ("self" :: fields.map (Field.declaration hints))
  let body := fields.flatMap fun f =>
    (if hints then [] else commentSteps f.description)
      ++ [.line ("self." ++ f.name ++ " = " ++ f.name)]
  .line ("def __init__(" ++ parameters ++ ")" ++ (if hints then " -> None" else "") ++ ":")
    :: indented (if fields.isEmpty then [.line "pass"] else body)

/-- The decoding function of a class, given the expression for each field. -/
def fromDictSteps (name : String) (returned : Option String) (values : List (Field × String)) :
    List Step :=
  let signature := match returned with
    | some hint => "def from_dict(obj: Any) -> " ++ hint ++ ":"
    | none => "def from_dict(obj):"
  let arguments := ", ".intercalate (values.map fun v => v.1.name)
  [.line "@staticmethod", .line signature]
    ++ indented (.line "assert isinstance(obj, dict)"
      :: values.map (fun v => .line (v.1.name ++ " = " ++ v.2))
      ++ [.line ("return " ++ name ++ "(" ++ arguments ++ ")")])

/-- The encoding function of a class, given the assignment for each field. An optional field that
is missing is left out of the result. -/
def toDictSteps (hints : Bool) (assignments : List (Field × String)) : List Step :=
  .line (if hints then "def to_dict(self) -> dict:" else "def to_dict(self):")
    :: indented (.line (if hints then "result: dict = \x7b\x7d" else "result = \x7b\x7d")
      :: assignments.flatMap (fun a =>
        if a.1.optional then
          .line ("if self." ++ a.1.name ++ " is not None:") :: indented [.line a.2]
        else [.line a.2])
      ++ [.line "return result"])

/-- The conversions of a class. -/
def Context.classConversions (ctx : Context) (declared : List TypeRef) (t : TypeRef)
    (name : String) (fields : List Field) : Gen (List Step) := do
  let key (f : Field) := literal ctx.features.markedText f.key
  let values ← fields.mapM fun f => do
    let value ← ctx.convertValue .decode ("obj.get(" ++ key f ++ ")") f.type
    return (f, value)
  let returned ←
    if ctx.features.typeHints then do
      Context.typing "Any"
      let hint ← ctx.annotate ⟨declared, true⟩ t
      pure (some hint)
    else pure none
  let assignments ← fields.mapM fun f => do
    let value ← ctx.convertValue .encode ("self." ++ f.name) f.type
    return (f, "result[" ++ key f ++ "] = " ++ value)
  return fromDictSteps name returned values ++ [.blank 1]
    ++ toDictSteps ctx.features.typeHints assignments

/-- Parts of a class, a blank line between each and the next; an empty part is skipped. -/
def joinParts : List (List Step) → List Step
  | [] => []
  | [] :: rest => joinParts rest
  | part :: rest =>
    match joinParts rest with
    | [] => part
    | others => part ++ .blank 1 :: others

/-- The body of a class: its description and fields, the constructor, and the conversions. -/
def classBody (f : Features) (description : Option String) (fields : List Field)
    (conversions : List Step) : List Step :=
  let declared := docSteps description ++ if f.typeHints then fieldSteps f fields else []
  let constructor := if f.dataclasses then [] else constructorSteps f.typeHints fields
  match joinParts [declared, constructor, conversions] with
  | [] => [.line "pass"]
  | body => body

/-- The class of a record, with the classes of the records `declared` in front of it. -/
def Context.recordClass (ctx : Context) (o : Options) (declared : List TypeRef) (t : TypeRef)
    (r : Record) : Gen (List Step) := do
  let name ← ctx.typeName t
  let fields ← ctx.fields declared t r
  if ctx.features.dataclasses then Gen.require (·.addName "dataclasses" "dataclass")
  let conversions ←
    if o.justTypes then pure [] else ctx.classConversions declared t name fields
  let base := if ctx.features.objectBase then "(object)" else ""
  return .enter .classes
    :: (if ctx.features.dataclasses then [.line "@dataclass"] else [])
    ++ .line ("class " ++ name ++ base ++ ":")
    :: indented (classBody ctx.features r.description fields conversions)
    ++ [.blank 2]

/-- The classes of records, those of `declared` being defined already. -/
def Context.classes (ctx : Context) (o : Options) (declared : List TypeRef) :
    List TypeRef → Gen (List Step)
  | [] => return []
  | t :: rest => do
    let first ← match ctx.graph.record? t with
      | some r => ctx.recordClass o declared t r
      | none => pure []
    let others ← ctx.classes o (t :: declared) rest
    return first ++ others

/-! ## Top-levels -/

/-- The two functions of a top-level. -/
def topLevelSteps (names : TopLevelNames) (hint : Option String) (decode encode : String) :
    List Step :=
  let signatures := match hint with
    | some a =>
      ("def " ++ names.fromDict ++ "(s: Any) -> " ++ a ++ ":",
        "def " ++ names.toDict ++ "(x: " ++ a ++ ") -> Any:")
    | none => ("def " ++ names.fromDict ++ "(s):", "def " ++ names.toDict ++ "(x):")
  [.enter .topLevels, .line signatures.1] ++ indented [.line ("return " ++ decode)]
    ++ [.blank 2, .line signatures.2] ++ indented [.line ("return " ++ encode)] ++ [.blank 2]

/-- The functions of the top-level at a position. -/
def Context.topLevel (ctx : Context) (declared : List TypeRef) (top : TopLevel) (index : Nat) :
    Gen (List Step) := do
  let names ← Gen.lift (ctx.names.functionNames index)
  let decode ← ctx.convertValue .decode "s" top.type
  let encode ← ctx.convertValue .encode "x" top.type
  let hint ←
    if ctx.features.typeHints then do
      Context.typing "Any"
      let hint ← ctx.annotate ⟨declared, false⟩ top.type
      pure (some hint)
    else pure none
  return topLevelSteps names hint decode encode

/-! ## The module -/

/-- What to tell the reader of the module first. -/
def headerSteps (parsesDates : Bool) (functions : List TopLevelNames) : List Step :=
  let install := if parsesDates then
      ["# This code parses date/times, so please", "#", "#     pip install python-dateutil", "#"]
    else []
  let usage := ["# To use this code, make sure you", "#", "#     import json", "#",
    "# and then, to convert JSON from a string, do", "#"]
  .enter .header :: (install ++ usage ++ functions.map fun names =>
    "#     result = " ++ names.fromDict ++ "(json.loads(json_string))").map .line

/-- The steps of a module apart from support functions and header. -/
def Context.moduleSteps (ctx : Context) (o : Options) : Gen (List Step) := do
  let enumerations ← ctx.graph.enumerations.mapM fun t =>
    match ctx.graph.enumeration? t with
    | some e => ctx.enumerationClass t e
    | none => pure []
  let classes ← ctx.classes o [] ctx.graph.records
  let topLevels ←
    if o.justTypes then pure []
    else ctx.graph.topLevels.zipIdx.mapM fun top =>
      ctx.topLevel ctx.graph.records top.1 top.2
  return enumerations.flatten ++ classes ++ topLevels.flatten

/-- The text of a module, given its steps and what these require. -/
def moduleText (o : Options) (functions : List TopLevelNames) (steps : List Step)
    (required : Requirements) : String :=
  let f := o.features
  let text :=
    if o.justTypes then layout steps required.imports
    else
      let header := headerSteps (required.uses .fromDatetime) functions
      layout (steps ++ required.definitions f ++ header) (required.closeImports f).imports
  if f.markedText && text.toList.any (fun c => 0x80 ≤ c.toNat) then
    "# -*- coding: utf-8 -*-\n" ++ text
  else text

/-- The module for a graph under given names. -/
def renderNamed (graph : TypeGraph) (o : Options) (names : NameTable) :
    Except GenerateError String :=
  let ctx : Context := ⟨graph, names, o.features⟩
  match (ctx.moduleSteps o).run.run .empty with
  | (.ok steps, required) => .ok (moduleText o names.topLevels steps required)
  | (.error e, _) => .error e

/-- The module for a graph. -/
def renderModule (graph : TypeGraph) (o : Options) : Except GenerateError String :=
  renderNamed graph o (NameTable.assign graph o)

end TypedJson.Code
