import NameCompletion.Text.Alphabetic
import NameCompletion.Text.Numeric

/-!
# Words and identifiers

A word is a non-empty run of letters, digits of any script and underscores.  An identifier is a
word that does not start with a numeric character.  Path segments have to be words; names that are
offered have to be identifiers.
-/

namespace NameCompletion

/-- Letters of any script. -/
def isAlphabetic (c : Char) : Bool :=
  Text.alphabetic.contains c

/-- Digits and other numeric characters of any script. -/
def isNumeric (c : Char) : Bool :=
  Text.numeric.contains c

/-- Letters, numeric characters and the underscore. -/
def isWordChar (c : Char) : Bool :=
  c = '_' || isAlphabetic c || isNumeric c

/-- A non-empty run of word characters. -/
def isWord (cs : List Char) : Bool :=
  !cs.isEmpty && cs.all isWordChar

/-- A word that does not start with a numeric character: `name`, `_x1`, `café`. -/
def isIdentifier (name : String) : Bool :=
  isWord name.toList && !(name.toList.take 1).any isNumeric

/-- Whether `name` continues what was `typed` so far. -/
def continuesText (typed name : String) : Bool :=
  typed.toList.isPrefixOf name.toList

end NameCompletion
