import NameCompletion.Pattern.Basic

/-!
# Escapes in patterns

What a backslash and the characters after it stand for.
-/

namespace NameCompletion.Pattern

/-- The smallest parts of a pattern. -/
inductive Atom where
  /-- A character; `isByte` if it was written as a byte in two hexadecimal digits. -/
  | literal (c : Char) (isByte : Bool)
  /-- Any character but the line feed. -/
  | dot
  /-- An end of the text or of a line. -/
  | edge
  /-- A border of a word, or the lack of one. -/
  | wordBorder
  /-- Digits, blanks or word characters, or what is none of them. -/
  | letterClass (negated : Bool)
  deriving DecidableEq, Repr

/-- The value of a hexadecimal digit. -/
def hexValue? (c : Char) : Option Nat :=
  if c.isDigit then some (c.toNat - '0'.toNat)
  else if 'a' ≤ c && c ≤ 'f' then some (c.toNat - 'a'.toNat + 10)
  else if 'A' ≤ c && c ≤ 'F' then some (c.toNat - 'A'.toNat + 10)
  else none

/-- Reads a number of hexadecimal digits after a value. -/
def readHexDigits (mode : Mode) : (count value : Nat) → List Char → Option (Nat × List Char)
  | 0, value, cs => some (value, cs)
  | _ + 1, _, [] => none
  | count + 1, value, c :: rest =>
    match hexValue? c with
    | some digit => readHexDigits mode count (16 * value + digit) (mode.skip rest)
    | none => none

/-- Reads the character that a number of hexadecimal digits stand for. -/
def readHex (mode : Mode) (count : Nat) (cs : List Char) : Option (Char × List Char) := do
  let (code, rest) ← readHexDigits mode count 0 (mode.skip cs)
  if code.isValidChar then some (Char.ofNat code, rest) else none

/-- Whether a backslash makes the character stand for itself: any ASCII character but letters,
digits and angle brackets. -/
def isEscapable (c : Char) : Bool :=
  c.toNat < 0x80 && !c.isAlphanum && c != '<' && c != '>'

/-- Reads what follows a backslash.  Classes of a property are never found, as there are no tables
for them. -/
def readEscape (mode : Mode) : List Char → Option (Atom × List Char)
  | [] => none
  | c :: rest =>
    if isEscapable c then some (.literal c false, rest)
    else
      match c with
      | 'x' => (readHex mode 2 rest).map fun (c, rest) => (.literal c true, rest)
      | 'u' => (readHex mode 4 rest).map fun (c, rest) => (.literal c false, rest)
      | 'U' => (readHex mode 8 rest).map fun (c, rest) => (.literal c false, rest)
      | 'd' | 's' | 'w' => some (.letterClass false, rest)
      | 'D' | 'S' | 'W' => some (.letterClass true, rest)
      | 'a' => some (.literal '\x07' false, rest)
      | 'f' => some (.literal '\x0c' false, rest)
      | 't' => some (.literal '\t' false, rest)
      | 'n' => some (.literal '\n' false, rest)
      | 'r' => some (.literal '\r' false, rest)
      | 'v' => some (.literal '\x0b' false, rest)
      | 'A' | 'z' => some (.edge, rest)
      | 'b' => if rest.head? = some '\x7b' then none else some (.wordBorder, rest)
      | 'B' | '<' | '>' => some (.wordBorder, rest)
      | _ => none

end NameCompletion.Pattern
