import TypedJson.Code.Layout
import TypedJson.Code.Target

/-!
# Support functions

The conversions of a module call small functions that check the shape of a value. A module defines
those that its conversions call, in a fixed order, and imports what their signatures name.
-/

namespace TypedJson.Code

/-- A support function. -/
inductive Converter where
  | fromNone
  | fromBool
  | fromInt
  | fromFloat
  | toFloat
  | fromStr
  | fromDatetime
  | fromList
  | fromDict
  | fromUnion
  | isType
  | toEnum
  | toClass
  deriving DecidableEq, Repr

namespace Converter

/-- The support functions in the order of their definitions. -/
def all : List Converter :=
  [.fromNone, .fromBool, .fromInt, .fromFloat, .toFloat, .fromStr, .fromDatetime, .fromList,
    .fromDict, .fromUnion, .isType, .toEnum, .toClass]

/-- The name of a support function. -/
def name : Converter → String
  | .fromNone => "from_none"
  | .fromBool => "from_bool"
  | .fromInt => "from_int"
  | .fromFloat => "from_float"
  | .toFloat => "to_float"
  | .fromStr => "from_str"
  | .fromDatetime => "from_datetime"
  | .fromList => "from_list"
  | .fromDict => "from_dict"
  | .fromUnion => "from_union"
  | .isType => "is_type"
  | .toEnum => "to_enum"
  | .toClass => "to_class"

/-- The annotated signature refers to the type variable of any type. -/
def usesTypeVariable : Converter → Bool
  | .fromList => true
  | .fromDict => true
  | .isType => true
  | .toClass => true
  | _ => false

/-- The first line of the definition. -/
def signature (hints : Bool) : Converter → String
  | .fromNone => if hints then "def from_none(x: Any) -> Any:" else "def from_none(x):"
  | .fromBool => if hints then "def from_bool(x: Any) -> bool:" else "def from_bool(x):"
  | .fromInt => if hints then "def from_int(x: Any) -> int:" else "def from_int(x):"
  | .fromFloat => if hints then "def from_float(x: Any) -> float:" else "def from_float(x):"
  | .toFloat => if hints then "def to_float(x: Any) -> float:" else "def to_float(x):"
  | .fromStr => if hints then "def from_str(x: Any) -> str:" else "def from_str(x):"
  | .fromDatetime =>
    if hints then "def from_datetime(x: Any) -> datetime:" else "def from_datetime(x):"
  | .fromList =>
    if hints then "def from_list(f: Callable[[Any], T], x: Any) -> List[T]:"
    else "def from_list(f, x):"
  | .fromDict =>
    if hints then "def from_dict(f: Callable[[Any], T], x: Any) -> Dict[str, T]:"
    else "def from_dict(f, x):"
  | .fromUnion => "def from_union(fs, x):"
  | .isType => if hints then "def is_type(t: Type[T], x: Any) -> T:" else "def is_type(t, x):"
  | .toEnum =>
    if hints then "def to_enum(c: Type[EnumT], x: Any) -> EnumT:" else "def to_enum(c, x):"
  | .toClass => if hints then "def to_class(c: Type[T], x: Any) -> dict:" else "def to_class(c, x):"

/-- The lines of the body. -/
def body (f : Features) : Converter → List String
  | .fromNone => ["assert x is None", "return x"]
  | .fromBool => ["assert isinstance(x, bool)", "return x"]
  | .fromInt =>
    [if f.legacyBuiltins then
        "assert isinstance(x, (int, long)) and not isinstance(x, bool)"
      else "assert isinstance(x, int) and not isinstance(x, bool)",
      "return x"]
  | .fromFloat =>
    [if f.legacyBuiltins then
        "assert isinstance(x, (float, int, long)) and not isinstance(x, bool)"
      else "assert isinstance(x, (float, int)) and not isinstance(x, bool)",
      "return float(x)"]
  | .toFloat => ["assert isinstance(x, float)", "return x"]
  | .fromStr =>
    [if f.legacyBuiltins then "assert isinstance(x, (str, unicode))"
      else "assert isinstance(x, str)",
      "return x"]
  | .fromDatetime => ["return dateutil.parser.parse(x)"]
  | .fromList => ["assert isinstance(x, list)", "return [f(y) for y in x]"]
  | .fromDict =>
    ["assert isinstance(x, dict)", "return \x7b k: f(v) for (k, v) in x.items() \x7d"]
  | .fromUnion =>
    ["for f in fs:", "    try:", "        return f(x)", "    except:", "        pass",
      "assert False"]
  | .isType => ["assert isinstance(x, t)", "return x"]
  | .toEnum => ["assert isinstance(x, c)", "return x.value"]
  | .toClass =>
    ["assert isinstance(x, c)",
      if f.typeHints then "return cast(Any, x).to_dict()" else "return x.to_dict()"]

/-- The names of the annotations of the signature and body. -/
def typingNames : Converter → List String
  | .fromList => ["Any", "Callable", "List", "TypeVar"]
  | .fromDict => ["Any", "Callable", "Dict", "TypeVar"]
  | .fromUnion => []
  | .isType => ["Any", "Type", "TypeVar"]
  | .toEnum => ["Any", "Type", "TypeVar"]
  | .toClass => ["Any", "Type", "TypeVar", "cast"]
  | _ => ["Any"]

/-- Import what the definition names. -/
def addImports (hints : Bool) (imports : Imports) (c : Converter) : Imports :=
  let imports := if c = .fromDatetime then imports.addModule "dateutil.parser" else imports
  if hints then
    let imports :=
      if c = .fromDatetime then imports.addName "datetime" "datetime" else imports
    let imports := c.typingNames.foldl (fun i name => i.addName "typing" name) imports
    if c = .toEnum then imports.addName "enum" "Enum" else imports
  else imports

/-- The definition and the blank lines behind it. -/
def definition (f : Features) (c : Converter) : List Step :=
  .line (c.signature f.typeHints) :: indented ((c.body f).map .line) ++ [.blank 2]

end Converter

/-- What a module needs besides its own definitions: support functions and imports. -/
structure Requirements where
  converters : List Converter
  imports : Imports
  deriving DecidableEq, Repr

namespace Requirements

/-- Nothing is needed. -/
def empty : Requirements :=
  ⟨[], .empty⟩

/-- The support function is needed. -/
def uses (r : Requirements) (c : Converter) : Bool :=
  r.converters.contains c

/-- The support functions that are needed, in the order of their definitions. -/
def used (r : Requirements) : List Converter :=
  Converter.all.filter r.uses

/-- Need a support function. -/
def addConverter (r : Requirements) (c : Converter) : Requirements :=
  if r.uses c then r else { r with converters := c :: r.converters }

/-- Need a name of a module. -/
def addName (r : Requirements) (module name : String) : Requirements :=
  { r with imports := r.imports.addName module name }

/-- Need what the support functions name. -/
def closeImports (r : Requirements) (f : Features) : Requirements :=
  { r with imports := r.used.foldl (Converter.addImports f.typeHints) r.imports }

/-- The type variables that the support functions name. -/
def typeVariables (r : Requirements) : List Step :=
  .enter .prelude
    :: (if r.used.any Converter.usesTypeVariable then [.line "T = TypeVar(\"T\")"] else [])
    ++ if r.uses .toEnum then [.line "EnumT = TypeVar(\"EnumT\", bound=Enum)"] else []

/-- The type variables and the support functions that are needed. -/
def definitions (r : Requirements) (f : Features) : List Step :=
  (if f.typeHints then r.typeVariables else [])
    ++ .enter .support :: r.used.flatMap (Converter.definition f)

end Requirements

end TypedJson.Code
