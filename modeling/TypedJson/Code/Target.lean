import TypedJson.Naming.Grammar

/-!
# Target versions

Generated modules are Python. The version of the language decides which identifiers are legal,
whether signatures carry annotations, how classes are declared and how texts and integers are
recognized.
-/

namespace TypedJson.Code

open Naming

/-- A version of the target language. -/
inductive Version where
  | v27
  | v35
  | v36
  | v37
  deriving DecidableEq, Repr

/-- What a version of the language offers or asks for. -/
structure Features where
  /-- Signatures and class fields are annotated. -/
  typeHints : Bool
  /-- Classes are data classes, whose constructors come from their fields. -/
  dataclasses : Bool
  /-- The identifiers of the language. -/
  grammar : Grammar
  /-- Classes name the root class as their base. -/
  objectBase : Bool
  /-- A literal beyond ASCII is marked as text. -/
  markedText : Bool
  /-- There are a second type of texts and a second type of integers. -/
  legacyBuiltins : Bool
  deriving DecidableEq, Repr

namespace Version

/-- The features of a version. -/
def features : Version → Features
  | .v27 => ⟨false, false, .ascii, true, true, true⟩
  | .v35 => ⟨false, false, .unicode, false, false, false⟩
  | .v36 => ⟨true, false, .unicode, false, false, false⟩
  | .v37 => ⟨true, true, .unicode, false, false, false⟩

/-- The number of a version. -/
def text : Version → String
  | .v27 => "2.7"
  | .v35 => "3.5"
  | .v36 => "3.6"
  | .v37 => "3.7"

/-- The version of a number. -/
def ofText? : String → Option Version
  | "2.7" => some .v27
  | "3.5" => some .v35
  | "3.6" => some .v36
  | "3.7" => some .v37
  | _ => none

end Version

/-- What the generated module is to look like. -/
structure Options where
  version : Version
  /-- Only the types are written, without conversions. -/
  justTypes : Bool
  /-- Properties are named in snake case, not by their keys. -/
  niceNames : Bool
  deriving DecidableEq, Repr

namespace Options

/-- The latest version, with conversions and nice names. -/
def standard : Options :=
  ⟨.v37, false, true⟩

/-- The features of the chosen version. -/
def features (o : Options) : Features :=
  o.version.features

end Options

end TypedJson.Code
