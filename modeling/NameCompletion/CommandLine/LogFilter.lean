import NameCompletion.Pattern.Reading
import NameCompletion.Text.Bytes

/-!
# Log filters

The filter for the log is a list of directives between commas: a level, or a target with or
without a level, where a span and its fields may follow the target, as in
`shop[sale{item=2}]=debug`.  The log is no part of the program's output, so of a directive only its
form is looked at.  A field can be asked for a number or for a pattern.

Offsets in a directive count from its first character that is no blank, but its parts are cut out of
the directive as it was written.  After leading blanks the parts are therefore shifted, and one that
starts or ends inside a character cannot be cut out.
-/

namespace NameCompletion.CommandLine

/-- Why a directive is of no use. -/
inductive DirectiveError where
  | malformed
  | pattern (error : Pattern.BuildError)
  | unknownLevel
  /-- A part starts or ends inside a character. -/
  | cutsCharacter
  deriving DecidableEq, Repr

/-- The wording of the error. -/
def DirectiveError.message : DirectiveError → String
  | malformed => "invalid filter directive"
  | pattern error => "invalid field filter: " ++ error.message
  | unknownLevel =>
    "error parsing level filter: expected one of \"off\", \"error\", \"warn\", \"info\", " ++
      "\"debug\", \"trace\", or a number 0-5"
  | cutsCharacter => "a part starts or ends inside a character"

/-- The part of a directive that is being read, with the offset at which it starts. -/
inductive DirectivePart where
  | nothing
  | levelOrTarget (start : Nat)
  | span (start : Nat)
  | field (start : Nat)
  | endOfFields
  | endOfSpan
  | level (start : Nat)
  deriving DecidableEq, Repr

/-- Whether the text names a level: by its name in letters of either case, by its number with or
without a plus sign, or by nothing at all. -/
def isLevel (text : List Char) : Bool :=
  let digits := match text with
    | '+' :: rest => rest
    | _ => text
  ["", "error", "warn", "info", "debug", "trace", "off"].contains
      (String.ofList (text.map Char.toLower)) ||
    (!digits.isEmpty && digits.all Char.isDigit && Nat.ofDigitChars 10 digits 0 ≤ 5)

/-- Whether the text is a decimal number in positional notation: digits with at most one point. -/
def isPositional (text : List Char) : Bool :=
  let whole := text.takeWhile Char.isDigit
  match text.dropWhile Char.isDigit with
  | [] => !whole.isEmpty
  | c :: fraction => c = '.' && fraction.all Char.isDigit && !(whole ++ fraction).isEmpty

/-- Whether the text is empty or an exponent. -/
def isExponent : List Char → Bool
  | [] => true
  | c :: rest =>
    let digits := match rest with
      | '+' :: digits | '-' :: digits => digits
      | digits => digits
    c.toLower = 'e' && !digits.isEmpty && digits.all Char.isDigit

/-- Whether the text is a number, with or without a sign; infinity and the lack of a value count. -/
def isNumber (text : List Char) : Bool :=
  let unsigned := match text with
    | '+' :: rest | '-' :: rest => rest
    | _ => text
  let isMark (c : Char) : Bool := c.toLower != 'e'
  ["inf", "infinity", "nan"].contains (String.ofList (unsigned.map Char.toLower)) ||
    (isPositional (unsigned.takeWhile isMark) && isExponent (unsigned.dropWhile isMark))

/-- Checks what a field is asked for, which stands between its first and its second equals sign. -/
def checkField (field : List Char) : Except DirectiveError Unit :=
  match field.dropWhile (· != '=') with
  | [] => if field.isEmpty then .error .malformed else .ok ()
  | _ :: rest =>
    let value := rest.takeWhile (· != '=')
    if isNumber value then .ok ()
    else
      match Pattern.check value with
      | .ok () => .ok ()
      | .error error => .error (.pattern error)

/-- Whether a directive may start with the character, which is not a bracket. -/
def startsDirective (c : Char) : Bool :=
  c = '-' || c = ':' || isWordChar c

/-- The part of the directive between two offsets. -/
def cutPart (directive : List Char) (start stop : Nat) : Except DirectiveError (List Char) :=
  match Text.slice? directive start stop with
  | some part => .ok part
  | none => .error .cutsCharacter

namespace DirectivePart

/-- Reads the character at an offset. -/
def read (directive : List Char) (part : DirectivePart) (offset : Nat) (c : Char) :
    Except DirectiveError DirectivePart :=
  match part, c with
  | nothing, '[' => .ok (span (offset + 1))
  | nothing, c => if startsDirective c then .ok (levelOrTarget offset) else .error .malformed
  | levelOrTarget start, '=' => do
    let _ ← cutPart directive start offset
    .ok (level (offset + 1))
  | levelOrTarget start, '[' => do
    let _ ← cutPart directive start offset
    .ok (span (offset + 1))
  | levelOrTarget start, _ => .ok (levelOrTarget start)
  | span start, ']' => do
    let _ ← cutPart directive start offset
    .ok endOfSpan
  | span start, '\x7b' => do
    let _ ← cutPart directive start offset
    .ok (field (offset + 1))
  | span start, _ => .ok (span start)
  | field start, '\x7d' => do
    checkField (← cutPart directive start offset)
    .ok endOfFields
  | field start, _ => .ok (field start)
  | endOfFields, ']' => .ok endOfSpan
  | endOfFields, _ => .error .malformed
  | endOfSpan, '=' => .ok (level (offset + 1))
  | endOfSpan, _ => .error .malformed
  | level start, _ => .ok (level start)

/-- Reads the characters from an offset on. -/
def readAll (directive : List Char) (part : DirectivePart) :
    (offset : Nat) → List Char → Except DirectiveError DirectivePart
  | _, [] => .ok part
  | offset, c :: rest => do
    let part ← part.read directive offset c
    part.readAll directive (offset + c.utf8Size) rest

/-- Whether a directive may end in this part. -/
def finish (directive : List Char) : DirectivePart → Except DirectiveError Unit
  | levelOrTarget start => do
    let _ ← cutPart directive start (Text.byteLength directive)
    .ok ()
  | level start => do
    let text ← cutPart directive start (Text.byteLength directive)
    if isLevel text then .ok () else .error .unknownLevel
  | endOfSpan => .ok ()
  | _ => .error .malformed

end DirectivePart

/-- Checks the form of a directive. -/
def checkDirective (directive : List Char) : Except DirectiveError Unit := do
  let part ← DirectivePart.nothing.readAll directive 0 (Text.trimChars directive)
  part.finish directive

/-- What is said about a filter: a line for each directive that is refused, and whether reading
breaks off because a part cannot be cut out. -/
structure FilterReport where
  refusals : List String := []
  cutsCharacter : Bool := false
  deriving DecidableEq, Repr

/-- The report on directives. -/
def FilterReport.ofDirectives : List (List Char) → FilterReport
  | [] => {}
  | directive :: rest =>
    match checkDirective directive with
    | .ok () => ofDirectives rest
    | .error .cutsCharacter => { cutsCharacter := true }
    | .error error =>
      let report := ofDirectives rest
      let refusal := "ignoring `" ++ String.ofList directive ++ "`: " ++ error.message
      { report with refusals := refusal :: report.refusals }

/-- The report on a filter. -/
def FilterReport.ofFilter (filter : String) : FilterReport :=
  ofDirectives ((filter.toList.splitOn ',').filter (!·.isEmpty))

end NameCompletion.CommandLine
