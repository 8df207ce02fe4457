import NameCompletion.Candidates
import NameCompletion.Session
import NameCompletion.Snapshot.Loading
import NameCompletion.Text.Blank

/-!
# The prompt

Lines typed at the prompt bind names of the main module, unbind them, or ask for names and
completions.  Reading a line and executing the command are separate steps, and either can fail; a
line that fails changes nothing.
-/

namespace NameCompletion

/-- A line at the prompt. -/
inductive Command where
  | assign (name : String) (value : Value)
  | delete (name : String)
  | names
  | complete (text : String)
  | help
  | quit

/-- Why a line is refused. -/
inductive PromptError where
  /-- A binding without an equals sign. -/
  | expectedBinding
  | invalidName (name : String)
  /-- The value for a name is not JSON. -/
  | notJson (name : String)
  | snapshot (error : SnapshotError)
  | unknownCommand (line : String)
  | notBound (name : String)
  | session (error : CompletionError)
  deriving DecidableEq, Repr

/-- The wording of the error. -/
def PromptError.message : PromptError → String
  | expectedBinding => "expected 'let NAME = JSON'"
  | invalidName name => "not a valid name: '" ++ name ++ "'"
  | notJson name => "invalid JSON value for '" ++ name ++ "'"
  | snapshot error => error.message
  | unknownCommand line => "unknown command: " ++ line ++ " (try :help)"
  | notBound name => "name not bound: " ++ name
  | session error => error.message

namespace Prompt

/-- What the command for help prints. -/
def helpText : String :=
  String.intercalate "\n"
    ["Commands:",
      "  let NAME = JSON      bind a value in __main__",
      "  del NAME             remove a binding",
      "  :names               list bound names",
      "  :complete FRAGMENT   print the candidates for FRAGMENT",
      "  :help                show this help",
      "  :quit                exit (Ctrl-D also works)",
      "Press Tab to complete the name under the cursor."]

/-- What follows the opening of a text. -/
def after? (opening : String) (text : List Char) : Option (List Char) :=
  if opening.toList.isPrefixOf text then some (text.drop opening.length) else none

/-- The name in a text that may have blanks around it: word characters, the first of them no ASCII
digit. -/
def readName (text : List Char) : Except PromptError String :=
  let name := Text.trimChars text
  if isWord name && !(name.take 1).any Char.isDigit then .ok (String.ofList name)
  else .error (.invalidName (String.ofList name))

/-- Reads what follows `let`: a name, the first equals sign and a JSON value. -/
def readBinding (s : Store) (text : List Char) : Except PromptError (Command × Store) := do
  match text.dropWhile (· != '=') with
  | [] => .error .expectedBinding
  | _ :: written =>
    let name ← readName (text.takeWhile (· != '='))
    match Json.parse? (String.ofList (Text.trimChars written)) with
    | none => .error (.notJson name)
    | some j =>
      match Snapshot.loadValue s j with
      | .error error => .error (.snapshot error)
      | .ok (value, s) => .ok (.assign name value, s)

/-- Reads a line without blanks at its ends. -/
def readTrimmed (s : Store) (line : List Char) : Except PromptError (Command × Store) :=
  if let some rest := after? "let " line then readBinding s rest
  else if let some rest := after? "del " line then
    (readName rest).map fun name => (.delete name, s)
  else if let some rest := after? ":complete" line then
    .ok (.complete (String.ofList (Text.trimChars rest)), s)
  else
    match String.ofList line with
    | ":names" => .ok (.names, s)
    | ":help" => .ok (.help, s)
    | ":quit" => .ok (.quit, s)
    | ":q" => .ok (.quit, s)
    | line => .error (.unknownCommand line)

/-- Reads a line; the value of a binding is built in new cells. -/
def readCommand (s : Store) (line : String) : Except PromptError (Command × Store) :=
  readTrimmed s (Text.trimChars line.toList)

/-- Executes a command; the text to print, or `none` if the prompt is to end. -/
def execute (session : Session) (s : Store) :
    Command → Except PromptError (Option String × Store)
  | .assign name value =>
    match session.inject s mainModule name value with
    | .ok (_, s) => .ok (some "", s)
    | .error error => .error (.session error)
  | .delete name =>
    match session.remove s mainModule name with
    | .ok (some _, s) => .ok (some "", s)
    | .ok (none, _) => .error (.notBound name)
    | .error error => .error (.session error)
  | .names =>
    match session.names s mainModule with
    | .ok names => .ok (some (String.intercalate "\n" names), s)
    | .error error => .error (.session error)
  | .complete text =>
    match session.completions s text with
    | .ok candidates => .ok (some (Candidates.plainText candidates), s)
    | .error error => .error (.session error)
  | .help => .ok (some helpText, s)
  | .quit => .ok (none, s)

/-- What the prompt does after a line. -/
inductive Reply where
  /-- Print the text, unless it is empty, and go on. -/
  | print (text : String)
  /-- Report the error and go on. -/
  | report (error : PromptError)
  /-- End. -/
  | stop
  deriving DecidableEq, Repr

/-- The reply to a line; a blank line is passed over. -/
def respond (session : Session) (s : Store) (line : String) : Reply × Store :=
  if Text.isBlankLine line then (.print "", s)
  else
    match readCommand s line with
    | .error error => (.report error, s)
    | .ok (command, s) =>
      match execute session s command with
      | .error error => (.report error, s)
      | .ok (some text, s) => (.print text, s)
      | .ok (none, s) => (.stop, s)

/-- The replies to lines, up to the one that ends the prompt. -/
def respondAll (session : Session) (s : Store) : List String → List Reply
  | [] => []
  | line :: rest =>
    match respond session s line with
    | (.stop, _) => [.stop]
    | (reply, s) => reply :: respondAll session s rest

end Prompt

end NameCompletion
