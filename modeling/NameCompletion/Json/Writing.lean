/-!
# Writing JSON

Texts and arrays of texts in their shortest JSON form: no spaces, and escapes only for the quotation
mark, the backslash and the control characters below the space.
-/

namespace NameCompletion.Json

/-- One of the sixteen lower-case hexadecimal digits. -/
def hexDigit (n : Nat) : Char :=
  (Nat.toDigits 16 (n % 16)).headD '0'

/-- One character of a written text. -/
def writeChar (c : Char) : List Char :=
  if c = '"' then ['\\', '"']
  else if c = '\\' then ['\\', '\\']
  else if c = '\x08' then ['\\', 'b']
  else if c = '\x0c' then ['\\', 'f']
  else if c = '\n' then ['\\', 'n']
  else if c = '\r' then ['\\', 'r']
  else if c = '\t' then ['\\', 't']
  else if c.toNat < 0x20 then
    ['\\', 'u', '0', '0', hexDigit (c.toNat / 16), hexDigit c.toNat]
  else [c]

/-- A text between quotation marks. -/
def writeText (text : String) : String :=
  String.ofList ('"' :: text.toList.flatMap writeChar ++ ['"'])

/-- An array of texts. -/
def writeTexts (texts : List String) : String :=
  "[" ++ String.intercalate "," (texts.map writeText) ++ "]"

end NameCompletion.Json
