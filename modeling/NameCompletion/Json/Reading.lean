import NameCompletion.Json.Numeral

/-!
# Reading JSON

`Json.parse?` reads a whole text.  White space is the space, the tab, the line feed and the
carriage return; texts hold no raw control characters below the space, and their escapes for
surrogates come in pairs; at most `Json.depthLimit` arrays and objects may be open at the same
time.
-/

namespace NameCompletion.Json

/-- How many arrays and objects may be nested. -/
def depthLimit : Nat := 127

/-- The white space of JSON. -/
def isSpace (c : Char) : Bool :=
  c = ' ' || c = '\t' || c = '\n' || c = '\r'

/-- What follows the white space. -/
def skipSpace (cs : List Char) : List Char :=
  cs.dropWhile isSpace

/-- The value of a hexadecimal digit. -/
def hexValue? (c : Char) : Option Nat :=
  if '0' ≤ c ∧ c ≤ '9' then some (c.toNat - '0'.toNat)
  else if 'a' ≤ c ∧ c ≤ 'f' then some (c.toNat - 'a'.toNat + 10)
  else if 'A' ≤ c ∧ c ≤ 'F' then some (c.toNat - 'A'.toNat + 10)
  else none

/-- The value of four hexadecimal digits. -/
def hexQuad? (a b c d : Char) : Option Nat := do
  let a ← hexValue? a
  let b ← hexValue? b
  let c ← hexValue? c
  let d ← hexValue? d
  some (((a * 16 + b) * 16 + c) * 16 + d)

/-- The character that a one-letter escape stands for. -/
def unescape? : Char → Option Char
  | '"' => some '"'
  | '\\' => some '\\'
  | '/' => some '/'
  | 'b' => some '\x08'
  | 'f' => some '\x0c'
  | 'n' => some '\n'
  | 'r' => some '\r'
  | 't' => some '\t'
  | _ => none

/-- The character that a pair of surrogates stands for. -/
def joinSurrogates (high low : Nat) : Char :=
  Char.ofNat (0x10000 + (high - 0xd800) * 0x400 + (low - 0xdc00))

/-- Reads the rest of a text whose opening quotation mark was read. -/
def readText : List Char → Option (List Char × List Char)
  | [] => none
  | '"' :: rest => some ([], rest)
  | '\\' :: 'u' :: a :: b :: c :: d :: rest =>
    match hexQuad? a b c d with
    | none => none
    | some code =>
      if code < 0xd800 || 0xdfff < code then
        (readText rest).map fun r => (Char.ofNat code :: r.1, r.2)
      else if 0xdc00 ≤ code then none
      else match rest with
        | '\\' :: 'u' :: e :: f :: g :: h :: rest =>
          match hexQuad? e f g h with
          | none => none
          | some low =>
            if low < 0xdc00 || 0xdfff < low then none
            else (readText rest).map fun r => (joinSurrogates code low :: r.1, r.2)
        | _ => none
  | '\\' :: c :: rest =>
    match unescape? c with
    | none => none
    | some c => (readText rest).map fun r => (c :: r.1, r.2)
  | c :: rest =>
    if c = '\\' || c.toNat < 0x20 then none
    else (readText rest).map fun r => (c :: r.1, r.2)

/-- Reads items between commas up to the closing character.  Every item takes a character, so
`fuel` need not be larger than the text is long. -/
def readItems {α : Type} (item : List Char → Option (α × List Char)) (close : Char) :
    (fuel : Nat) → List Char → Option (List α × List Char)
  | 0, _ => none
  | fuel + 1, cs => do
    let (x, rest) ← item (skipSpace cs)
    match skipSpace rest with
    | [] => none
    | c :: rest =>
      if c = ',' then
        let (xs, rest) ← readItems item close fuel rest
        some (x :: xs, rest)
      else if c = close then some ([x], rest)
      else none

/-- Reads what follows the opening character of an array or object. -/
def readSequence {α : Type} (item : List Char → Option (α × List Char)) (close : Char)
    (cs : List Char) : Option (List α × List Char) :=
  match skipSpace cs with
  | [] => none
  | c :: rest =>
    if c = close then some ([], rest) else readItems item close (rest.length + 1) (c :: rest)

/-- Reads one member of an object. -/
def readMember (value : List Char → Option (Json × List Char)) :
    List Char → Option ((String × Json) × List Char)
  | '"' :: rest => do
    let (name, rest) ← readText rest
    match skipSpace rest with
    | ':' :: rest =>
      let (j, rest) ← value (skipSpace rest)
      some ((String.ofList name, j), rest)
    | _ => none
  | _ => none

/-- Reads a word such as `null`. -/
def readWord (word : String) (j : Json) (cs : List Char) : Option (Json × List Char) :=
  if word.toList.isPrefixOf cs then some (j, cs.drop word.length) else none

/-- Reads a value in which at most `depth` arrays and objects are nested. -/
def readValue : (depth : Nat) → List Char → Option (Json × List Char)
  | depth, '[' :: rest =>
    match depth with
    | 0 => none
    | depth + 1 => (readSequence (readValue depth) ']' rest).map fun r => (.array r.1, r.2)
  | depth, '\x7b' :: rest =>
    match depth with
    | 0 => none
    | depth + 1 =>
      (readSequence (readMember (readValue depth)) '\x7d' rest).map fun r => (.object r.1, r.2)
  | _, '"' :: rest => (readText rest).map fun r => (.text (String.ofList r.1), r.2)
  | _, 'n' :: rest => readWord "null" .null ('n' :: rest)
  | _, 't' :: rest => readWord "true" (.boolean true) ('t' :: rest)
  | _, 'f' :: rest => readWord "false" (.boolean false) ('f' :: rest)
  | _, cs => (readNumber cs).map fun r => (.number r.1, r.2)

/-- Reads a whole text with at most `depth` nested arrays and objects. -/
def parseWithin? (depth : Nat) (text : String) : Option Json :=
  match readValue depth (skipSpace text.toList) with
  | some (j, rest) => if (skipSpace rest).isEmpty then some j else none
  | none => none

/-- Reads a whole text. -/
def parse? (text : String) : Option Json :=
  parseWithin? depthLimit text

end NameCompletion.Json
