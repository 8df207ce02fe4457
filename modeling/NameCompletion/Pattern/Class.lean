import NameCompletion.Pattern.Escape

/-!
# Classes in patterns

A class in brackets lists characters, ranges and other classes, and combines such lists by `&&`,
`--` and `~~`.  Classes can be nested; the open ones are kept in a list, the innermost first.
-/

namespace NameCompletion.Pattern

/-- A class whose closing bracket is still to come. -/
structure OpenClass where
  negated : Bool
  /-- How deep the operand before the last operator is nested, if there is an operator. -/
  operand : Option Nat := none
  /-- How deep the members since then are nested. -/
  members : List Nat := []
  /-- Whether only hyphens have been read so far. -/
  atStart : Bool := true
  deriving DecidableEq, Repr

namespace OpenClass

/-- The class with another member. -/
def add (c : OpenClass) (nesting : Nat) : OpenClass :=
  { c with members := nesting :: c.members }

/-- How deep the content of the class is nested. -/
def nesting (c : OpenClass) : Nat :=
  match c.operand with
  | none => nestingOf c.members
  | some operand => 1 + max operand (nestingOf c.members)

/-- The class after an operator. -/
def combine (c : OpenClass) : OpenClass :=
  { c with operand := some c.nesting, members := [] }

/-- Opens a class after its bracket. -/
def start (mode : Mode) (cs : List Char) : OpenClass × List Char :=
  match mode.skip cs with
  | '^' :: rest => ({ negated := true }, rest)
  | rest => ({ negated := false }, rest)

end OpenClass

/-- The names of classes that may stand between colons. -/
def classNames : List String :=
  ["alnum", "alpha", "ascii", "blank", "cntrl", "digit", "graph", "lower", "print", "punct",
    "space", "upper", "word", "xdigit"]

/-- Reads the class whose name stands between colons, after its bracket; the flag says whether it is
negated. -/
def readNamedClass : List Char → Option (Bool × List Char)
  | ':' :: rest =>
    let (negated, rest) := match rest with
      | '^' :: rest => (true, rest)
      | rest => (false, rest)
    match rest.dropWhile (· != ':') with
    | ':' :: ']' :: after =>
      if classNames.contains (String.ofList (rest.takeWhile (· != ':'))) then some (negated, after)
      else none
    | _ => none
  | _ => none

/-- Reads a character of a class, or an escape. -/
def readMember (mode : Mode) : List Char → Option (Atom × List Char)
  | [] => none
  | '\\' :: rest => readEscape mode rest
  | c :: rest => some (.literal c false, rest)

/-- The character after blanks, and after the blanks that follow a first number sign. -/
def nextShown? : (inComment : Bool) → List Char → Option Char
  | _, [] => none
  | inComment, c :: rest =>
    if Text.isBlank c then nextShown? inComment rest
    else if !inComment && c = '#' then nextShown? true rest
    else some c

/-- The character that decides whether a hyphen before the rest makes a range. -/
def afterHyphen? (mode : Mode) (rest : List Char) : Option Char :=
  if mode.spaced then (nextShown? false rest).or rest.head? else rest.head?

/-- Whether an atom can be a member of a class. -/
def Atom.isMember (mode : Mode) : Atom → Bool
  | .literal c isByte => mode.allowsMember c && mode.allowsLiteral c isByte
  | .letterClass negated => mode.allowsLetterClass negated
  | _ => false

/-- Whether two atoms can be the ends of a range. -/
def isRange (mode : Mode) : Atom → Atom → Bool
  | .literal first firstIsByte, .literal last lastIsByte =>
    first ≤ last && Atom.isMember mode (.literal first firstIsByte) &&
      Atom.isMember mode (.literal last lastIsByte)
  | _, _ => false

/-- Reads a member of a class or a range; the rest after it. -/
def readRange (mode : Mode) (cs : List Char) : Option (List Char) := do
  let (first, cs) ← readMember mode cs
  let cs := mode.skip cs
  let single := if first.isMember mode then some cs else none
  match cs with
  | '-' :: rest =>
    if [some ']', some '-'].contains (afterHyphen? mode rest) then single
    else do
      let (last, rest) ← readMember mode (mode.skip rest)
      if isRange mode first last then some rest else none
  | _ => single

/-- Reads the members of the innermost open class and closes it, until the outermost is closed: how
deep that is nested, and the rest.  The fuel bounds the number of steps, each of which reads a
character. -/
def readMembers (mode : Mode) :
    (fuel : Nat) → (inner : OpenClass) → (outer : List OpenClass) → List Char →
      Option (Nat × List Char)
  | 0, _, _, _ => none
  | fuel + 1, inner, outer, cs =>
    let inner' := { inner with atStart := false }
    match inner.atStart, mode.skip cs with
    | _, [] => none
    | true, '-' :: rest =>
      if mode.allowsMember '-' then readMembers mode fuel (inner.add 0) outer rest else none
    | atStart, ']' :: rest =>
      if atStart && inner.members.isEmpty then
        if mode.allowsMember ']' then readMembers mode fuel (inner'.add 0) outer rest else none
      else if inner.negated && !mode.unicode then none
      else
        match outer with
        | [] => some (1 + inner.nesting, rest)
        | parent :: outer => readMembers mode fuel (parent.add (1 + inner.nesting)) outer rest
    | _, '[' :: rest =>
      match readNamedClass rest with
      | some (negated, rest) =>
        if mode.allowsNamedClass negated then readMembers mode fuel (inner'.add 0) outer rest
        else none
      | none =>
        let (opened, rest) := OpenClass.start mode rest
        readMembers mode fuel opened (inner' :: outer) rest
    | _, '&' :: '&' :: rest => readMembers mode fuel inner'.combine outer rest
    | _, '-' :: '-' :: rest => readMembers mode fuel inner'.combine outer rest
    | _, '~' :: '~' :: rest => readMembers mode fuel inner'.combine outer rest
    | _, cs =>
      match readRange mode cs with
      | some rest => readMembers mode fuel (inner'.add 0) outer rest
      | none => none

/-- Reads a class after its bracket: how deep it is nested, and the rest. -/
def readClass (mode : Mode) (cs : List Char) : Option (Nat × List Char) :=
  let (opened, rest) := OpenClass.start mode cs
  readMembers mode (rest.length + 1) opened [] rest

end NameCompletion.Pattern
