import TypedJson.Text.Identifier
import TypedJson.Text.Letter

/-!
# Identifier grammars

A target language admits either ASCII identifiers only or those of the Unicode identifier classes.
In both, an underscore may stand anywhere.
-/

namespace TypedJson.Naming

open Text

/-- Which characters may start or continue an identifier. -/
inductive Grammar where
  | ascii
  | unicode
  deriving DecidableEq, Repr

namespace Grammar

/-- The character may start an identifier. -/
def isStart (g : Grammar) (c : Char) : Bool :=
  match g with
  | .ascii => c.isAlpha || c == '_'
  | .unicode => isIdentifierStart c || c == '_'

/-- The character may continue an identifier. -/
def isPart (g : Grammar) (c : Char) : Bool :=
  match g with
  | .ascii => c.isAlphanum || c == '_'
  | .unicode => isIdentifierContinue c

end Grammar

/-- The character is punctuation that connects words, such as the underscore. -/
def isConnector (c : Char) : Bool :=
  ['_', '\u203f', '\u2040', '\u2054', '\ufe33', '\ufe34', '\ufe4d', '\ufe4e', '\ufe4f',
    '\uff3f'].contains c

/-- The character continues identifiers but never starts one, and is neither a number nor a
connector: a mark on the character before it. -/
def isMark (c : Char) : Bool :=
  isIdentifierContinue c && !isIdentifierStart c && !isNumeric c && !isConnector c

end TypedJson.Naming
