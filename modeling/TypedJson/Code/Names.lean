import TypedJson.Code.Error
import TypedJson.Code.Support
import TypedJson.Naming.Namespace

/-!
# Names of a module

Every record, enumeration, property, case and top-level gets its identifier before code is written.
Types and top-level functions share one scope; the properties of a record have a scope that also
excludes those, and the cases of an enumeration have a scope of their own. The order is fixed:
types, then top-levels, then properties, then cases.
-/

namespace TypedJson.Code

open Naming

/-- The words of the language that are no identifiers in one of its versions. -/
def keywords : List String :=
  ["False", "None", "True", "and", "as", "assert", "async", "await", "break", "class",
    "continue", "def", "del", "elif", "else", "except", "exec", "finally", "for", "from",
    "global", "if", "import", "in", "is", "lambda", "nonlocal", "not", "or", "pass", "print",
    "raise", "return", "try", "while", "with", "yield"]

/-- The builtin and imported names that a module relies on. -/
def globalNames : List String :=
  ["Any", "Callable", "Dict", "Enum", "EnumT", "List", "Optional", "T", "Type", "TypeVar",
    "Union", "bool", "cast", "dataclass", "datetime", "dateutil", "dict", "float", "int",
    "isinstance", "json", "list", "long", "object", "str", "type", "unicode"]

/-- The names of a class that a property must leave alone. -/
def classLocals : List String :=
  ["from_dict", "obj", "result", "self", "to_dict"]

/-- The words that no type and no function may be named. -/
def globalForbidden : List String :=
  keywords ++ globalNames ++ Converter.all.map Converter.name

/-- The names of the two functions of a top-level. -/
structure TopLevelNames where
  fromDict : String
  toDict : String
  deriving DecidableEq, Repr

/-- The identifiers of a module. Properties and cases are in declaration order. -/
structure NameTable where
  types : List (TypeRef × String)
  properties : List (TypeRef × List String)
  cases : List (TypeRef × List String)
  topLevels : List TopLevelNames
  deriving DecidableEq, Repr

namespace NameTable

/-- Name types by their labels. -/
def nameTypes (g : Grammar) (graph : TypeGraph) (ns : Namespace) :
    List TypeRef → List (TypeRef × String) × Namespace
  | [] => ([], ns)
  | t :: rest =>
    match (graph.kind? t).bind Kind.label? with
    | none => nameTypes g graph ns rest
    | some label =>
      let (name, grown) := ns.assign g label .typeName
      let (named, final) := nameTypes g graph grown rest
      ((t, name) :: named, final)

/-- Name the functions of top-levels. -/
def nameTopLevels (g : Grammar) (ns : Namespace) :
    List TopLevel → List TopLevelNames × Namespace
  | [] => ([], ns)
  | top :: rest =>
    let (fromDict, grown) := ns.assign g (top.name ++ "_from_dict") .function
    let (toDict, grown) := grown.assign g (top.name ++ "_to_dict") .function
    let (named, final) := nameTopLevels g grown rest
    (⟨fromDict, toDict⟩ :: named, final)

/-- The names of the properties of a record, in a scope without the given names of the module. -/
def nameProperties (o : Options) (moduleNames : List String) (r : Record) : List String :=
  let ns := Namespace.ofForbidden r.name
    (keywords ++ globalNames ++ classLocals ++ Converter.all.map Converter.name ++ moduleNames)
  (ns.assignAll o.features.grammar (.property o.niceNames) (r.properties.map Property.name)).1

/-- The names of the cases of an enumeration. -/
def nameCases (o : Options) (e : Enumeration) : List String :=
  ((Namespace.ofForbidden e.name keywords).assignAll o.features.grammar .enumCase e.cases).1

/-- The identifiers of the module for a graph. -/
def assign (graph : TypeGraph) (o : Options) : NameTable :=
  let g := o.features.grammar
  let (types, ns) := nameTypes g graph (.ofForbidden "global" globalForbidden) graph.namedTypes
  let (topLevels, ns) := nameTopLevels g ns graph.topLevels
  { types
    topLevels
    properties := graph.records.filterMap fun t =>
      (graph.record? t).map fun r => (t, nameProperties o ns.bound r)
    cases := graph.enumerations.filterMap fun t =>
      (graph.enumeration? t).map fun e => (t, nameCases o e) }

/-- The name of a type. -/
def typeName (names : NameTable) (t : TypeRef) : Except GenerateError String :=
  match names.types.lookup t with
  | some name => .ok name
  | none => .error (.unnamedType t)

/-- The name of a property. -/
def propertyName (names : NameTable) (record : TypeRef) (index : Nat) :
    Except GenerateError String :=
  match (names.properties.lookup record).bind (·[index]?) with
  | some name => .ok name
  | none => .error (.unnamedProperty record index)

/-- The name of a case. -/
def caseName (names : NameTable) (enumeration : TypeRef) (index : Nat) :
    Except GenerateError String :=
  match (names.cases.lookup enumeration).bind (·[index]?) with
  | some name => .ok name
  | none => .error (.unnamedCase enumeration index)

/-- The names of the functions of a top-level. -/
def functionNames (names : NameTable) (index : Nat) : Except GenerateError TopLevelNames :=
  match names.topLevels[index]? with
  | some pair => .ok pair
  | none => .error (.unnamedTopLevel index)

end NameTable

end TypedJson.Code
