import TypedJson.Naming.Word
import TypedJson.Text.CaseMap
import TypedJson.Text.Normal

/-!
# Case styles

A label becomes an identifier by casing and joining its words, or by keeping the label and
replacing what the grammar rejects. `style` does this for a role: types are in Pascal case,
functions and properties in lower snake case, enumeration cases in upper snake case. The result
always has a character, and a word or an underscore repairs a start that the grammar rejects.
-/

namespace TypedJson.Naming

open Text

/-- How the words of a label are cased and joined. -/
inductive CaseStyle where
  /-- As in `FileName`; an acronym stays in capitals, as in `CSVFile`. -/
  | pascal
  /-- As in `file_name`. -/
  | snakeLower
  /-- As in `FILE_NAME`. -/
  | snakeUpper
  /-- The label itself, apart from the characters that the grammar rejects. -/
  | verbatim
  deriving DecidableEq, Repr

/-- How one word is cased. -/
inductive WordCase where
  | firstUpper
  | upper
  | lower
  deriving DecidableEq, Repr

/-- The word in the given case. -/
def WordCase.apply : WordCase → List Char → List Char
  | .upper, cs => toUpperText cs
  | .lower, cs => toLowerText cs
  | .firstUpper, [] => []
  | .firstUpper, c :: rest => upperForm c ++ toLowerText rest

namespace CaseStyle

/-- The case of a word under the style. -/
def wordCase (style : CaseStyle) (acronym : Bool) : WordCase :=
  match style with
  | .pascal => if acronym then .upper else .firstUpper
  | .snakeLower => .lower
  | .snakeUpper => .upper
  | .verbatim => .lower

/-- What stands between two words. -/
def separator : CaseStyle → List Char
  | .pascal => []
  | .verbatim => []
  | .snakeLower => ['_']
  | .snakeUpper => ['_']

/-- A word as the style writes it. -/
def write (style : CaseStyle) (w : Word) : List Char :=
  (style.wordCase w.acronym).apply w.text

end CaseStyle

/-- The word that stands for a label without legal characters. -/
def emptyWord : Word := ⟨['e', 'm', 'p', 't', 'y'], false⟩

/-- The word put in front of an identifier that could not start with its first character. -/
def startWord : Word := ⟨['t', 'h', 'e'], false⟩

/-- The text starts with a character that may start an identifier. -/
def startsLegally (g : Grammar) : List Char → Bool
  | [] => false
  | c :: _ => g.isStart c

/-- Case and join the legal parts of the words into one identifier. -/
def combineWords (g : Grammar) (style : CaseStyle) (words : List Word) : List Char :=
  let legal := match words.flatMap (Word.legalParts g) with
    | [] => [emptyWord]
    | parts => parts
  let written := match legal.map style.write with
    | [] => []
    | first :: rest =>
      if startsLegally g first then first :: rest else style.write startWord :: first :: rest
  style.separator.intercalate written

/-- Keep the label, with an underscore for every character that the grammar rejects and in front
of a start that it rejects. -/
def sanitize (g : Grammar) (label : List Char) : List Char :=
  let kept := match label.map fun c => if g.isPart c then c else '_' with
    | [] => emptyWord.text
    | cs => cs
  if startsLegally g kept then kept else '_' :: kept

/-- What a name is for, which decides its style. -/
inductive Role where
  | typeName
  /-- A nice property is in snake case, any other keeps its label. -/
  | property (nice : Bool)
  | enumCase
  | function
  deriving DecidableEq, Repr

/-- The style of the names of a role. -/
def Role.caseStyle : Role → CaseStyle
  | .typeName => .pascal
  | .property true => .snakeLower
  | .property false => .verbatim
  | .enumCase => .snakeUpper
  | .function => .snakeLower

/-- The identifier that a label suggests for a role. Labels are composed first, so canonically
equivalent labels suggest one identifier. -/
def styleChars (g : Grammar) (role : Role) (label : List Char) : List Char :=
  match role.caseStyle with
  | .verbatim => sanitize g (compose label)
  | style => combineWords g style (Word.split (compose label))

/-- The identifier that a label suggests for a role. -/
def style (g : Grammar) (role : Role) (label : String) : String :=
  String.ofList (styleChars g role label.toList)

end TypedJson.Naming
