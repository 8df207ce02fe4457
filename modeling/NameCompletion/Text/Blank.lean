import NameCompletion.Text.Ranges

/-!
# Blank characters

The characters with the Unicode property White_Space, and the trimming of characters on both sides.
-/

namespace NameCompletion.Text

/-- The characters with the property White_Space. -/
def blank : Ranges where
  pairs := [
    (0x9, 0xd), (0x20, 0x20), (0x85, 0x85), (0xa0, 0xa0), (0x1680, 0x1680), (0x2000, 0x200a),
    (0x2028, 0x2029), (0x202f, 0x202f), (0x205f, 0x205f), (0x3000, 0x3000)]

/-- Whether the character is white space of any kind. -/
def isBlank (c : Char) : Bool :=
  blank.contains c

/-- The characters left when blanks at both ends are dropped. -/
def trimChars (cs : List Char) : List Char :=
  ((cs.dropWhile isBlank).reverse.dropWhile isBlank).reverse

/-- Whether the text holds nothing but blanks. -/
def isBlankLine (text : String) : Bool :=
  text.toList.all isBlank

end NameCompletion.Text
