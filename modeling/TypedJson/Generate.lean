import TypedJson.Code.Module
import TypedJson.Digest.Sha256
import TypedJson.Graph.Reader

/-!
# From graph text to module text

`generate` reads a type graph and a configuration, both JSON texts, and writes the module for the
graph together with a fingerprint of it and the functions that it offers. A fault of the graph comes
before a fault of the configuration.
-/

namespace TypedJson

open Code Json

/-! ## Configuration -/

/-- Read a version. -/
def Code.Version.ofJson? (j : Json) : Option Version :=
  (name? j).bind Version.ofText?

/-- Read the options of a module. Each has a default, and a list gives the first ones in order. -/
def Code.Options.ofJson? : Json → Option Options
  | .object members => do
    let version ← defaulted? "python-version" Options.standard.version Version.ofJson? members
    let justTypes ← defaulted? "just-types" Options.standard.justTypes bool? members
    let niceNames ← defaulted? "nice-property-names" Options.standard.niceNames bool? members
    return ⟨version, justTypes, niceNames⟩
  | .list [] => some .standard
  | .list [version] => do
    return { Options.standard with version := ← Version.ofJson? version }
  | .list [version, justTypes] => do
    return ⟨← Version.ofJson? version, ← bool? justTypes, Options.standard.niceNames⟩
  | .list [version, justTypes, niceNames] => do
    return ⟨← Version.ofJson? version, ← bool? justTypes, ← bool? niceNames⟩
  | _ => none

/-- Read a configuration, which holds the options of a module under the name of the language. -/
def configuration? : Json → Option Options
  | .object members => defaulted? "python" .standard Options.ofJson? members
  | .list [] => some .standard
  | .list [options] => Options.ofJson? options
  | _ => none

/-- Read the text of a configuration. -/
def readConfiguration? (s : String) : Option Options :=
  (Json.read? s).bind configuration?

/-! ## Generation -/

/-- Why no module was generated from the given texts. -/
inductive GenerationFault where
  | graph (error : GraphError)
  | configuration
  | code (error : GenerateError)
  deriving DecidableEq, Repr

/-- The message of a fault. -/
def GenerationFault.message : GenerationFault → String
  | .graph error => "type graph: " ++ error.message
  | .configuration => "configuration: not a configuration"
  | .code error => "code generation: " ++ error.message

/-- A generated module. -/
structure Generated where
  source : String
  /-- The hexadecimal SHA-256 of the source. -/
  fingerprint : String
  /-- The top-levels and the names of their functions; none if only types are written. -/
  functions : List (String × TopLevelNames)
  deriving DecidableEq, Repr

/-- Generate the module for a graph. -/
def generateModule (graph : TypeGraph) (o : Options) : Except GenerateError Generated := do
  let names := NameTable.assign graph o
  let source ← renderNamed graph o names
  let functions :=
    if o.justTypes then [] else (graph.topLevels.map TopLevel.name).zip names.topLevels
  return ⟨source, Sha256.hexDigest source, functions⟩

/-- Generate the module for the text of a graph. Without a configuration the standard options
count. -/
def generate (graph : String) (configuration : Option String) :
    Except GenerationFault Generated := do
  let graph ← (TypeGraph.read graph).mapError .graph
  let options ← match configuration with
    | none => pure Options.standard
    | some given =>
      match readConfiguration? given with
      | some options => pure options
      | none => throw .configuration
  (generateModule graph options).mapError .code

end TypedJson
