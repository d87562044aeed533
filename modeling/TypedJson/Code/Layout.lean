import TypedJson.Ordered

/-!
# Layout of a module

A module is laid out in sections of fixed order. Its parts are written in whatever order is
convenient, as steps that enter a section, write lines and ask for blank ones; `layout` sorts the
lines into their sections. Between two lines of a section there are as many blank lines as the
largest of the requests between them, and none at its ends.
-/

namespace TypedJson.Code

/-! ## Imports -/

/-- The names imported from modules and the modules imported whole, in ascending order. -/
structure Imports where
  names : List (String × List String)
  modules : List String
  deriving DecidableEq, Repr

namespace Imports

/-- No imports. -/
def empty : Imports :=
  ⟨[], []⟩

/-- Import a name from a module. -/
def addName (imports : Imports) (module name : String) : Imports :=
  let known := (Ordered.find? module imports.names).getD []
  { imports with names := Ordered.insertEntry module (Ordered.insert name known) imports.names }

/-- Import a module. -/
def addModule (imports : Imports) (module : String) : Imports :=
  { imports with modules := Ordered.insert module imports.modules }

/-- Nothing is imported. -/
def isEmpty (imports : Imports) : Bool :=
  imports.names.isEmpty && imports.modules.isEmpty

/-- The name is imported from the module. -/
def contains (imports : Imports) (module name : String) : Bool :=
  match Ordered.find? module imports.names with
  | some names => names.contains name
  | none => false

/-- The import statements. -/
def lines (imports : Imports) : List String :=
  (imports.names.map fun entry =>
    "from " ++ entry.1 ++ " import " ++ ", ".intercalate entry.2)
    ++ imports.modules.map fun module => "import " ++ module

end Imports

/-! ## Steps and sections -/

/-- A region of a module. -/
inductive Region where
  | header
  | imports
  | prelude
  | support
  | enumerations
  | classes
  | topLevels
  deriving DecidableEq, Repr

/-- The regions in the order of the module. -/
def Region.all : List Region :=
  [.header, .imports, .prelude, .support, .enumerations, .classes, .topLevels]

/-- One step of writing a module. -/
inductive Step where
  /-- Go on in a region, without indentation. -/
  | enter (region : Region)
  /-- Write a line. -/
  | line (text : String)
  /-- Ask for at least so many blank lines. -/
  | blank (count : Nat)
  /-- Indent the lines that follow by one level more. -/
  | indent
  /-- Indent the lines that follow by one level less, if there is one. -/
  | dedent
  deriving DecidableEq, Repr

/-- Steps one level deeper. -/
def indented (body : List Step) : List Step :=
  .indent :: body ++ [.dedent]

/-- What a region holds: a line with its level of indentation, or a request for blank lines. -/
inductive Entry where
  | line (level : Nat) (text : String)
  | blank (count : Nat)
  deriving DecidableEq, Repr

/-- The entries that steps write, with their regions, from the given region and level on. -/
def entriesFrom (region : Region) (level : Nat) : List Step → List (Region × Entry)
  | [] => []
  | .enter other :: rest => entriesFrom other 0 rest
  | .line text :: rest => (region, .line level text) :: entriesFrom region level rest
  | .blank count :: rest => (region, .blank count) :: entriesFrom region level rest
  | .indent :: rest => entriesFrom region (level + 1) rest
  | .dedent :: rest => entriesFrom region (level - 1) rest

/-- The entries that steps write. Writing starts in the header. -/
def entries (steps : List Step) : List (Region × Entry) :=
  entriesFrom .header 0 steps

/-! ## Lines -/

/-- Four spaces for each level. -/
def indentation (level : Nat) : String :=
  String.ofList (List.replicate (4 * level) ' ')

/-- A line with its indentation. An empty line has none. -/
def indentLine (level : Nat) (text : String) : String :=
  if text = "" then "" else indentation level ++ text

/-- The lines of entries, with `pending` blank ones before the next line unless it is the first. -/
def linesFrom (started : Bool) (pending : Nat) : List Entry → List String
  | [] => []
  | .blank count :: rest => linesFrom started (max pending count) rest
  | .line level text :: rest =>
    (if started then List.replicate pending "" else [])
      ++ indentLine level text :: linesFrom true 0 rest

/-- The lines up to the last one that is not empty. -/
def dropLastEmpty (lines : List String) : List String :=
  (lines.reverse.dropWhile (· = "")).reverse

/-- The text of a region. -/
def regionText (held : List Entry) : String :=
  "\n".intercalate (dropLastEmpty (linesFrom false 0 held))

/-- The entries of a region. The import statements stand in place of whatever was written among
the imports. -/
def regionEntries (imports : Imports) (written : List (Region × Entry)) (region : Region) :
    List Entry :=
  if region = .imports then imports.lines.map (.line 0)
  else (written.filter fun e => e.1 = region).map Prod.snd

/-- The text of the module: its regions in order, apart from empty ones, two blank lines apart. -/
def layout (steps : List Step) (imports : Imports) : String :=
  let texts := Region.all.map fun region =>
    regionText (regionEntries imports (entries steps) region)
  "\n\n\n".intercalate (texts.filter (· ≠ "")) ++ "\n"

end TypedJson.Code
