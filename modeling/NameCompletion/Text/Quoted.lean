import NameCompletion.Text.Extending
import NameCompletion.Text.Printable

/-!
# Quoted text

The form in which a name is shown to a developer: between quotation marks, with escapes for the
marks themselves, for line breaks and tabs, and for whatever would not be seen on its own.
-/

namespace NameCompletion.Text

/-- Digits of a code point in lower-case hexadecimal, without leading zeros. -/
def hexDigits (code : Nat) : List Char :=
  Nat.toDigits 16 code

/-- Whether the character is written by number: it would not be seen, or not on its own. -/
def isWrittenByNumber (c : Char) : Bool :=
  extending.contains c || ignorable.contains c || unprintable.contains c

/-- One character of a quoted text. -/
def quoteChar (c : Char) : List Char :=
  if c = '\x00' then ['\\', '0']
  else if c = '\t' then ['\\', 't']
  else if c = '\r' then ['\\', 'r']
  else if c = '\n' then ['\\', 'n']
  else if c = '\\' then ['\\', '\\']
  else if c = '"' then ['\\', '"']
  else if isWrittenByNumber c then
    ['\\', 'u', '\x7b'] ++ hexDigits c.toNat ++ ['\x7d']
  else [c]

/-- The text between quotation marks, with escapes. -/
def quoted (text : String) : String :=
  String.ofList ('"' :: text.toList.flatMap quoteChar ++ ['"'])

end NameCompletion.Text
