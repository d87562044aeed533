import TypedJson.Graph.Basic

/-!
# Refused generations

Why no code can be generated. The language of transformers can ask for conversions that have no
generated form, and a graph that was not accepted may lead nowhere or round in circles.
-/

namespace TypedJson.Code

/-- Why no code was generated. -/
inductive GenerateError where
  /-- Texts are not parsed into this kind. -/
  | cannotParse (kind : Kind)
  /-- Values of this kind are not written as texts. -/
  | cannotWrite (kind : Kind)
  /-- Texts of digits are converted by a transformation only, and the type has none. -/
  | noTransformation (type : TypeRef)
  /-- No type object tells the values of this kind. -/
  | noTypeObject (kind : Kind)
  /-- A function without an argument has no value. -/
  | noArgument
  /-- The type has no name. -/
  | unnamedType (type : TypeRef)
  /-- The property has no name. -/
  | unnamedProperty (record : TypeRef) (index : Nat)
  /-- The case has no name. -/
  | unnamedCase (enumeration : TypeRef) (index : Nat)
  /-- The top-level has no name. -/
  | unnamedTopLevel (index : Nat)
  /-- The reference denotes no type. -/
  | dangling (type : TypeRef)
  /-- The conversion of the type leads back to itself. -/
  | endless (type : TypeRef)
  deriving DecidableEq, Repr

/-- The message of a refusal. -/
def GenerateError.message : GenerateError → String
  | .cannotParse kind => "unsupported: parsing a string into " ++ kind.name
  | .cannotWrite kind => "unsupported: stringifying " ++ kind.name
  | .noTransformation type =>
    "unsupported: integer-string " ++ type.text ++ " has no transformation"
  | .noTypeObject kind => "unsupported: no runtime type object for " ++ kind.name
  | .noArgument =>
    "internal codegen error: cannot make a value from a function without an argument"
  | .unnamedType type => "unresolved name: type " ++ type.text
  | .unnamedProperty record index =>
    "unresolved name: property " ++ toString index ++ " of " ++ record.text
  | .unnamedCase enumeration index =>
    "unresolved name: case " ++ toString index ++ " of " ++ enumeration.text
  | .unnamedTopLevel index => "unresolved name: top-level " ++ toString index
  | .dangling type => "internal codegen error: " ++ type.text ++ " is not a type"
  | .endless type => "internal codegen error: " ++ type.text ++ " is converted by way of itself"

end TypedJson.Code
