import NameCompletion.Pattern.Class
import NameCompletion.Word

/-!
# Reading patterns

A pattern is read from left to right.  The open groups are kept in a list, the innermost first, and
of every part only how deep it is nested.
-/

namespace NameCompletion.Pattern

/-- A group that is open, or the whole pattern. -/
structure OpenGroup where
  /-- How deep the finished alternatives are nested. -/
  alternatives : List Nat := []
  /-- How deep the parts of the last alternative are nested, the last one first; `none` stands for a
  change of the mode, which cannot be repeated. -/
  parts : List (Option Nat) := []
  /-- The mode after the group. -/
  outerMode : Mode := {}
  deriving DecidableEq, Repr

namespace OpenGroup

/-- The group with another part. -/
def add (g : OpenGroup) (part : Option Nat) : OpenGroup :=
  { g with parts := part :: g.parts }

/-- How deep the last alternative is nested. -/
def lastNesting (g : OpenGroup) : Nat :=
  nestingOf (g.parts.map (·.getD 0))

/-- The group after a bar. -/
def alternate (g : OpenGroup) : OpenGroup :=
  { g with alternatives := g.lastNesting :: g.alternatives, parts := [] }

/-- How deep the content of the group is nested. -/
def nesting (g : OpenGroup) : Nat :=
  nestingOf (g.lastNesting :: g.alternatives)

end OpenGroup

/-- What has been read of a pattern. -/
structure Progress where
  mode : Mode := {}
  inner : OpenGroup := {}
  outer : List OpenGroup := []
  /-- The names of groups. -/
  names : List (List Char) := []
  /-- Whether the borders of words in letters of any script are asked for. -/
  asksWordBorder : Bool := false
  deriving DecidableEq, Repr

/-- Whether a character may stand in the name of a group. -/
def isNameChar (c : Char) : Bool :=
  isWordChar c || c = '.' || c = '[' || c = ']'

/-- Whether a text can be the name of a group. -/
def isGroupName (name : List Char) : Bool :=
  !name.isEmpty && name.all isNameChar && (name.take 1).all fun c => c = '_' || isAlphabetic c

/-- Reads letters that change the mode, up to a colon or a closing parenthesis: the new mode, and
whether a group follows.  No letter may be repeated, and a hyphen turns off what comes after it. -/
def readModeLetters (seen : List Char) (on : Bool) (mode : Mode) :
    List Char → Option (Mode × Bool × List Char)
  | [] => none
  | c :: rest =>
    if c = ':' || c = ')' then
      if seen.head? = some '-' || (seen.isEmpty && c = ')') then none
      else some (mode, c = ':', rest)
    else if seen.contains c then none
    else
      match c with
      | '-' => readModeLetters (c :: seen) false mode rest
      | 'i' => readModeLetters (c :: seen) on { mode with ignoreCase := on } rest
      | 'u' => readModeLetters (c :: seen) on { mode with unicode := on } rest
      | 'x' => readModeLetters (c :: seen) on { mode with spaced := on } rest
      | 'm' | 's' | 'U' | 'R' => readModeLetters (c :: seen) on mode rest
      | _ => none

namespace Progress

/-- Adds a part to the innermost group. -/
def add (p : Progress) (part : Option Nat) : Progress :=
  { p with inner := p.inner.add part }

/-- Opens a group whose content is read in a mode. -/
def enter (p : Progress) (mode : Mode) : Progress :=
  { p with mode, inner := { outerMode := p.mode }, outer := p.inner :: p.outer }

/-- Opens a group with a name, which is closed by an angle bracket. -/
def enterNamed (p : Progress) (cs : List Char) : Option (Progress × List Char) :=
  let name := cs.takeWhile (· != '>')
  match cs.dropWhile (· != '>') with
  | [] => none
  | _ :: rest =>
    if isGroupName name && !p.names.contains name then
      some ({ p.enter p.mode with names := name :: p.names }, rest)
    else none

/-- Reads what follows an opening parenthesis; looking around is not supported. -/
def openGroup (p : Progress) (cs : List Char) : Option (Progress × List Char) :=
  match p.mode.skip cs with
  | '?' :: '=' :: _ | '?' :: '!' :: _ | '?' :: '<' :: '=' :: _ | '?' :: '<' :: '!' :: _ => none
  | '?' :: 'P' :: '<' :: rest | '?' :: '<' :: rest => p.enterNamed rest
  | '?' :: rest =>
    (readModeLetters [] true p.mode rest).map fun (mode, opensGroup, rest) =>
      if opensGroup then (p.enter mode, rest) else ({ p with mode }.add none, rest)
  | rest => some (p.enter p.mode, rest)

/-- Closes the innermost group. -/
def closeGroup (p : Progress) : Option Progress :=
  match p.outer with
  | [] => none
  | parent :: outer =>
    some
      { p with
        mode := p.inner.outerMode
        inner := parent.add (some (1 + p.inner.nesting))
        outer }

/-- Repeats the last part. -/
def repeatLast (p : Progress) : Option Progress :=
  match p.inner.parts with
  | some nesting :: parts =>
    some { p with inner := { p.inner with parts := some (1 + nesting) :: parts } }
  | _ => none

/-- Adds an atom outside a class. -/
def addAtom (p : Progress) (atom : Atom) : Option Progress :=
  let allowed := match atom with
    | .literal c isByte => p.mode.allowsLiteral c isByte
    | .dot => p.mode.unicode
    | .edge | .wordBorder => true
    | .letterClass negated => p.mode.allowsLetterClass negated
  let asks := atom = .wordBorder && p.mode.unicode
  if allowed then some { p.add (some 0) with asksWordBorder := p.asksWordBorder || asks } else none

/-- Reads the next part of a pattern; the rest is not empty. -/
def readPart (p : Progress) : List Char → Option (Progress × List Char)
  | [] => none
  | c :: rest =>
    match c with
    | '(' => p.openGroup rest
    | ')' => p.closeGroup.map (·, rest)
    | '|' => some ({ p with inner := p.inner.alternate }, rest)
    | '[' => (readClass p.mode rest).map fun (nesting, rest) => (p.add (some nesting), rest)
    | '?' | '*' | '+' => p.repeatLast.map (·, if rest.head? = some '?' then rest.drop 1 else rest)
    | '\x7b' => none
    | '\\' => do
      let (atom, rest) ← readEscape p.mode rest
      let p ← p.addAtom atom
      some (p, rest)
    | '.' => (p.addAtom .dot).map (·, rest)
    | '^' | '$' => (p.addAtom .edge).map (·, rest)
    | c => (p.addAtom (.literal c false)).map (·, rest)

/-- Reads a pattern to its end.  The fuel bounds the number of parts, each of which takes a
character. -/
def readAll (p : Progress) : (fuel : Nat) → List Char → Option Progress
  | 0, _ => none
  | fuel + 1, cs =>
    match p.mode.skip cs with
    | [] => some p
    | cs =>
      match p.readPart cs with
      | some (p, rest) => p.readAll fuel rest
      | none => none

end Progress

/-- How deep a pattern may be nested. -/
def nestingLimit : Nat := 250

/-- Checks that a pattern can be built. -/
def check (pattern : List Char) : Except BuildError Unit :=
  match Progress.readAll {} (pattern.length + 1) pattern with
  | none => .error .unreadable
  | some p =>
    if !p.outer.isEmpty || nestingLimit < p.inner.nesting then .error .unreadable
    else if p.asksWordBorder then .error .wordBorder
    else .ok ()

end NameCompletion.Pattern
