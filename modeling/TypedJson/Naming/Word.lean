import TypedJson.Naming.Grammar

/-!
# Words of a label

A label is read as a sequence of words: maximal runs of letters, numbers and marks, cut where the
case changes. `fooBar` has the words `foo` and `Bar`, `HTTPServer` has `HTTP` and `Server`, and
`my-id_2` has `my`, `id` and `2`. `Word.split` finds them from left to right, each by the rule
that its first character selects.
-/

namespace TypedJson.Naming

open Text

/-- One word of a label. An acronym was found without meeting a lower-case character. -/
structure Word where
  text : List Char
  acronym : Bool
  deriving DecidableEq, Repr

namespace Word

/-- The character belongs to a word. -/
def isWordChar (c : Char) : Bool :=
  isAlphanumeric c || isMark c

/-- The character belongs to a word and has no case: a digit, an ideograph or a mark. -/
def isUncased (c : Char) : Bool :=
  isWordChar c && !isLowercase c && !isUppercase c

/-- The character continues a run of lower-case letters. -/
def continuesLower (c : Char) : Bool :=
  isLowercase c || isMark c

/-- The character continues a run of capitals. -/
def continuesUpper (c : Char) : Bool :=
  isUppercase c || isMark c

/-- How the first word of a text is cut off: the characters that were read to find its end, how
many of them belong to it, and the text behind it. Reading goes one character beyond the word only
where the last capital of a run starts the next word. -/
structure Cut where
  read : List Char
  text : List Char
  rest : List Char

/-- The end of a run of lower-case letters: its letters and marks, then its digits. -/
def lowerTail (cs : List Char) : List Char × List Char :=
  let behind := cs.dropWhile continuesLower
  (cs.takeWhile continuesLower ++ behind.takeWhile isNumeric, behind.dropWhile isNumeric)

/-- Cut off the word that begins with the capitals `run`, in front of `rest`. One capital takes
the lower-case letters behind it; several take digits, or leave the last of them to a lower-case
letter. -/
def cutCapitals (run rest : List Char) : Cut :=
  match rest with
  | [] => ⟨run, run, []⟩
  | c :: _ =>
    if run.length = 1 then
      let (tail, behind) := lowerTail rest
      ⟨run ++ tail, run ++ tail, behind⟩
    else if isNumeric c then
      let word := run ++ rest.takeWhile isNumeric
      ⟨word, word, rest.dropWhile isNumeric⟩
    else if isLowercase c then
      ⟨run, run.dropLast, run.drop (run.length - 1) ++ rest⟩
    else ⟨run, run, rest⟩

/-- Cut off the first word of a text that begins with one. -/
def cut (cs : List Char) : Cut :=
  match cs with
  | [] => ⟨[], [], []⟩
  | c :: _ =>
    if isLowercase c then
      let (word, rest) := lowerTail cs
      ⟨word, word, rest⟩
    else if isUppercase c then
      cutCapitals (cs.takeWhile continuesUpper) (cs.dropWhile continuesUpper)
    else
      ⟨cs.takeWhile isUncased, cs.takeWhile isUncased, cs.dropWhile isUncased⟩

/-- The words of a text that has at most the given number of them. -/
def splitWithin : Nat → List Char → List Word
  | 0, _ => []
  | n + 1, cs =>
    match cs.dropWhile fun c => !isWordChar c with
    | [] => []
    | start =>
      let found := cut start
      ⟨found.text, !found.read.any isLowercase⟩ :: splitWithin n found.rest

/-- The words of a label, in order. Each takes at least one character. -/
def split (label : List Char) : List Word :=
  splitWithin label.length label

/-- The maximal runs of characters that satisfy `p`, in order, given the reversed start of the
current run. -/
def runsFrom (p : Char → Bool) (run : List Char) : List Char → List (List Char)
  | [] => if run = [] then [] else [run.reverse]
  | c :: rest =>
    if p c then runsFrom p (c :: run) rest
    else if run = [] then runsFrom p [] rest
    else run.reverse :: runsFrom p [] rest

/-- The parts of a word that a grammar admits, cut at the characters it rejects. Each part is an
acronym if the word is. -/
def legalParts (g : Grammar) (w : Word) : List Word :=
  (runsFrom g.isPart [] w.text).map fun part => ⟨part, w.acronym⟩

end Word

end TypedJson.Naming
