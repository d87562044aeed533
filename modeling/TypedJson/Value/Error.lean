import TypedJson.Graph.Basic
import TypedJson.Value.Basic

/-!
# Failed conversions

Why a value is not converted. A failure belongs to the value or to the conversion that the graph
asks for, and a union goes on with its next member after one. A conversion also stops, without any
verdict on the value, where a reference denotes no type or the conversion leads back to itself.
-/

namespace TypedJson

/-- What a text was parsed into. -/
inductive ParseGoal where
  | integer
  | dateTime
  deriving DecidableEq, Repr

/-- The name of what a text was parsed into. -/
def ParseGoal.text : ParseGoal → String
  | .integer => "int"
  | .dateTime => "date-time"

/-- A conversion that has no rule. -/
inductive MissingRule where
  /-- Texts are not parsed into this kind. -/
  | parse (kind : Kind)
  /-- Values of this kind are not written as texts. -/
  | write (kind : Kind)
  /-- Texts of digits are converted by a transformation only, and the type has none. -/
  | noTransformation (type : TypeRef)
  /-- No type object tells the values of this kind. -/
  | typeObject (kind : Kind)
  deriving DecidableEq, Repr

/-- The missing rule as messages name it. -/
def MissingRule.text : MissingRule → String
  | .parse kind => "parsing a string into " ++ kind.name
  | .write kind => "stringifying " ++ kind.name
  | .noTransformation type => "integer-string " ++ type.text ++ " has no transformation"
  | .typeObject kind => "no runtime type object for " ++ kind.name

/-- A failure of a conversion. -/
inductive ConversionError where
  /-- The value has another shape. -/
  | shape (expected found : String)
  /-- The value is no case of the enumeration. -/
  | unknownCase (enumeration : String) (value : Value)
  /-- The text does not parse. -/
  | parse (goal : ParseGoal) (input : String)
  /-- Every branch of a union or a choice has failed. -/
  | noMember (tried : Nat)
  /-- There is no rule for the conversion. -/
  | unsupported (missing : MissingRule)
  /-- The value has no JSON. -/
  | notJson (what : String)
  /-- There is no top-level of this name. -/
  | unknownTopLevel (name : String)
  deriving Repr

/-- The message of a failure. -/
def ConversionError.message : ConversionError → String
  | .shape expected found => "assertion failed: expected " ++ expected ++ ", found " ++ found
  | .unknownCase enumeration value =>
    Text.quote value.display ++ " is not a valid " ++ enumeration
  | .parse goal input => "cannot parse " ++ Text.quote input ++ " as " ++ goal.text
  | .noMember tried => "no union member matched (" ++ toString tried ++ " tried)"
  | .unsupported missing => "unsupported conversion: " ++ missing.text
  | .notJson what => "value is not JSON-representable: " ++ what
  | .unknownTopLevel name => "unknown top-level `" ++ name ++ "`"

/-- Why a conversion has no result. -/
inductive Stop where
  /-- The conversion fails on this value. -/
  | failed (error : ConversionError)
  /-- The reference denotes no type. -/
  | dangling (type : TypeRef)
  /-- The conversion of the type leads back to itself without an end. -/
  | endless (type : TypeRef)
  deriving Repr

/-- The result of a conversion, or why there is none. -/
abbrev Outcome (α : Type) := Except Stop α

/-- Fail because of the value's shape. -/
def Outcome.shape {α : Type} (expected : String) (found : Value) : Outcome α :=
  .error (.failed (.shape expected found.typeName))

/-- Fail because there is no rule. -/
def Outcome.unsupported {α : Type} (missing : MissingRule) : Outcome α :=
  .error (.failed (.unsupported missing))

end TypedJson
