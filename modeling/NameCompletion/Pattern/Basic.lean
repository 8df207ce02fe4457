import NameCompletion.Text.Blank

/-!
# Patterns

A field in a log filter can be asked to match a pattern, which is a regular expression.  No field
is ever matched here, so of a pattern counts only whether it can be built.  It stands between an
equals sign and the closing brace that ends the field and therefore holds no closing brace itself:
a counted repetition, or an escape with braces, is never complete in it.
-/

namespace NameCompletion.Pattern

/-- Why a pattern cannot be built. -/
inductive BuildError where
  /-- The pattern is not well formed, or asks for a class or for letters of either case where no
  tables are at hand. -/
  | unreadable
  /-- The pattern looks at the borders of words in letters of any script. -/
  | wordBorder
  deriving DecidableEq, Repr

/-- The wording of the error. -/
def BuildError.message : BuildError → String
  | unreadable => "error building NFA"
  | wordBorder =>
    "unsupported regex feature for DFAs: cannot build DFAs for regexes with Unicode word " ++
      "boundaries; switch to ASCII word boundaries, or heuristically enable Unicode word " ++
      "boundaries or use a different regex engine"

/-- How a part of a pattern is read. -/
structure Mode where
  /-- Letters stand for themselves in either case. -/
  ignoreCase : Bool := false
  /-- What is matched are characters and not bytes. -/
  unicode : Bool := true
  /-- Blanks and comments are passed over. -/
  spaced : Bool := false
  deriving DecidableEq, Repr

/-- The rest after blanks and comments; a comment reaches from a number sign to the line's end. -/
def dropComments : (inComment : Bool) → List Char → List Char
  | _, [] => []
  | true, c :: rest => dropComments (c != '\n') rest
  | false, c :: rest =>
    if Text.isBlank c then dropComments false rest
    else if c = '#' then dropComments true rest
    else c :: rest

namespace Mode

/-- The rest after what is passed over. -/
def skip (mode : Mode) (cs : List Char) : List Char :=
  if mode.spaced then dropComments false cs else cs

/-- Whether a character, or the byte of that code, can be asked for outside a class.  Single bytes
have to be ASCII, and for letters of either case there are tables for ASCII only. -/
def allowsLiteral (mode : Mode) (c : Char) (isByte : Bool) : Bool :=
  if mode.unicode then !mode.ignoreCase else !isByte || c.toNat < 0x80

/-- Whether a character can be asked for in a class; a class of bytes holds only ASCII. -/
def allowsMember (mode : Mode) (c : Char) : Bool :=
  if mode.unicode then !mode.ignoreCase else c.toNat < 0x80

/-- Whether one of the classes with a name between colons can be asked for, or what is not in it. -/
def allowsNamedClass (mode : Mode) (negated : Bool) : Bool :=
  if mode.unicode then !mode.ignoreCase else !negated

/-- Whether digits, blanks or word characters can be asked for, or what is none of them; there are
tables for ASCII only. -/
def allowsLetterClass (mode : Mode) (negated : Bool) : Bool :=
  !mode.unicode && !negated

end Mode

/-- How deep several parts are nested side by side: one alone adds no level. -/
def nestingOf : List Nat → Nat
  | [] => 0
  | [nesting] => nesting
  | nestings => 1 + nestings.foldl max 0

end NameCompletion.Pattern
