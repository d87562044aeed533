/-!
# Lines of a text

A line ends at a line feed, which a carriage return may precede. The last line needs no end, and
an end at the very end of the text opens no further line. A carriage return elsewhere belongs to
its line.
-/

namespace TypedJson.Text

/-- Drop a carriage return at the head of a reversed line. -/
def dropReturn : List Char → List Char
  | '\r' :: line => line
  | line => line

/-- The lines of the rest of a text, given the reversed start of the current line. -/
def linesFrom (line : List Char) : List Char → List (List Char)
  | [] => if line = [] then [] else [line.reverse]
  | c :: rest =>
    if c = '\n' then (dropReturn line).reverse :: linesFrom [] rest
    else linesFrom (c :: line) rest

/-- The lines of a text, without their ends. -/
def lines (cs : List Char) : List (List Char) :=
  linesFrom [] cs

end TypedJson.Text
