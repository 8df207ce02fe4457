import NameCompletion.Session
import NameCompletion.Text.Bytes

/-!
# Line editing

What a line editor needs: the word before the cursor, the replacements for it, and a hint that
shows how the line might go on.  A cursor is an offset in UTF-8 bytes; one that lies past the end
or inside a character is no cursor at all.
-/

namespace NameCompletion.Editor

/-- Characters of names and paths. -/
def isPathChar (c : Char) : Bool :=
  isWordChar c || c = '.'

/-- Where the run of path characters that ends the text starts: behind the last character that is
none of them, or at the start of the text. -/
def wordStart (before : List Char) : Nat :=
  match (Text.withOffsets 0 before).reverse.find? fun e => !isPathChar e.2 with
  | some (offset, c) => offset + c.utf8Size
  | none => 0

/-- The name or path before a cursor. -/
structure WordAt where
  /-- The byte offset at which the word starts. -/
  start : Nat
  word : String
  deriving DecidableEq, Repr

/-- The name or path that ends at a byte offset; `none` if the line would be cut at an offset that
is no boundary between characters. -/
def wordAt? (line : String) (offset : Nat) : Option WordAt := do
  let (before, _) ← Text.splitAtByte? line.toList offset
  let start := wordStart before
  let (_, word) ← Text.splitAtByte? before start
  return ⟨start, String.ofList word⟩

/-- The candidates for a word; a session that cannot answer has none. -/
def candidates (session : Session) (s : Store) (word : String) : List String :=
  match session.completions s word with
  | .ok candidates => candidates
  | .error _ => []

/-- A replacement for the word and the part of it that is listed. -/
structure Replacement where
  display : String
  replacement : String
  deriving DecidableEq, Repr

/-- What follows the last dot. -/
def lastSegment (candidate : String) : String :=
  String.ofList (candidate.toList.reverse.takeWhile (· != '.')).reverse

/-- The replacements for the word before the cursor, and where that word starts. -/
def complete? (session : Session) (s : Store) (line : String) (offset : Nat) :
    Option (Nat × List Replacement) :=
  (wordAt? line offset).map fun found =>
    (found.start, (candidates session s found.word).map fun candidate =>
      ⟨lastSegment candidate, candidate⟩)

/-- What follows as many bytes of a candidate as the word takes; `none` if that is no boundary
between characters. -/
def continuation? (word candidate : String) : Option String :=
  (Text.splitAtByte? candidate.toList word.utf8ByteSize).map fun (_, rest) => String.ofList rest

/-- How the first of the candidates continues the word, unless it is the word.  The outer `none`
says that it would be cut at an offset that is no boundary between characters. -/
def firstContinuation? (word : String) : List String → Option (Option String)
  | [] => some none
  | first :: _ =>
    (continuation? word first).map fun rest => if rest.isEmpty then none else some rest

/-- How the first candidate continues the word, if the cursor is at the end of the line and the word
takes two bytes or more.  The outer `none` says that a text would be cut at an offset that is no
boundary between characters. -/
def hintAt? (session : Session) (s : Store) (line : String) (offset : Nat) :
    Option (Option String) :=
  if offset < line.utf8ByteSize then some none
  else
    (wordAt? line offset).bind fun found =>
      if found.word.utf8ByteSize < 2 then some none
      else firstContinuation? found.word (candidates session s found.word)

/-- The hint at a cursor, if there is one. -/
def hint? (session : Session) (s : Store) (line : String) (offset : Nat) : Option String :=
  (hintAt? session s line offset).join

/-- The hint in dark grey. -/
def paint (hint : String) : String :=
  "\x1b[90m" ++ hint ++ "\x1b[0m"

end NameCompletion.Editor
