import TypedJson.Naming.Namespace
import TypedJson.Text.Blank
import TypedJson.Text.Line
import TypedJson.Text.Quoted
import TypedJson.Json.Reader
import TypedJson.Json.Writer
import TypedJson.Graph.Builder
import TypedJson.Graph.Reader
import TypedJson.Graph.Writer
import TypedJson.Code.Conversion
import TypedJson.Code.Literal
import TypedJson.Code.Module
import TypedJson.Value.Conversion
import TypedJson.Generate
import TypedJson.Proofs.Ordered
import TypedJson.Proofs.Outcome
import TypedJson.Proofs.Text.Composition
import TypedJson.Proofs.Text.Digits
import TypedJson.Proofs.Naming.Segmentation
import TypedJson.Proofs.Naming.Numbering
import TypedJson.Proofs.Naming.Uniqueness
import TypedJson.Proofs.Graph.Acceptance
import TypedJson.Proofs.Value.IntegerText
import TypedJson.Proofs.Value.TimestampText
import TypedJson.Proofs.Value.Ending
import TypedJson.Proofs.Value.Fields
import TypedJson.Proofs.Value.Recursion
import TypedJson.Proofs.Value.Family
import TypedJson.Proofs.Value.Projection
import TypedJson.Proofs.Script.Lexer
import TypedJson.Proofs.Script.Reader
import TypedJson.Proofs.Script.Machine
import TypedJson.Proofs.Script.Printing
import TypedJson.Proofs.Code.Assignment
import TypedJson.Proofs.Code.Decoding
import TypedJson.Proofs.Text.Casing
import TypedJson.Proofs.Naming.Legality
import TypedJson.Proofs.Graph.Acyclic
import TypedJson.Proofs.Value.Shrinking
import TypedJson.Proofs.Value.Termination
import TypedJson.Proofs.Code.Termination
import TypedJson.Proofs.Code.Agreement
import TypedJson.Proofs.Value.Tasks
import TypedJson.Proofs.Code.Refusals
import TypedJson.Proofs.Value.Stops
import TypedJson.Proofs.Code.Coverage
import TypedJson.Proofs.Value.Locality
import TypedJson.Proofs.Code.Locality
import TypedJson.Proofs.Json.Roundtrip
import TypedJson.Proofs.Json.Shape
import TypedJson.Proofs.Graph.Strictness
import TypedJson.Proofs.Graph.Reordering
import TypedJson.Proofs.Graph.Roundtrip
import TypedJson.Proofs.Value.Induction
import TypedJson.Proofs.Value.Choice
import TypedJson.Proofs.Value.Typing
import TypedJson.Proofs.Value.Labels
import TypedJson.Proofs.Number.Finite
import TypedJson.Proofs.Value.Range
import TypedJson.Proofs.Value.Leaks
import TypedJson.Proofs.Graph.Search
import TypedJson.Proofs.Script.Docstring
import TypedJson.Proofs.Code.Composition
import TypedJson.Proofs.Code.Exactness
import TypedJson.Proofs.Script.Literals
import TypedJson.Proofs.Code.Comments
import TypedJson.Proofs.Code.Ascii
import TypedJson.Proofs.Code.Shadowing
import TypedJson.Proofs.Naming.Marks
import TypedJson.Proofs.Naming.NormalForm
import TypedJson.Proofs.Naming.Equivalence
import TypedJson.Proofs.Text.Ascii
import TypedJson.Proofs.Naming.Restyling
import TypedJson.Proofs.Graph.Programs
import TypedJson.Proofs.Code.Blocks
import TypedJson.Proofs.Code.Suites
import TypedJson.Proofs.Code.Scopes
