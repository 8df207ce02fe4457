import NameCompletion.CommandLine.Arguments
import NameCompletion.CommandLine.LogFilter
import NameCompletion.Prompt
import NameCompletion.Text.Backspace

/-!
# Running the program

What an invocation prints and how it ends.  Files are read through a function, in the order
namespace, builtins, configuration, so that the first one that cannot be used decides the error;
the lines for the prompt are the standard input,
with their backspaces carried out.
-/

namespace NameCompletion.CommandLine

/-- Why a file cannot be read as text. -/
inductive ReadFailure where
  | notFound
  | isDirectory
  | notText
  deriving DecidableEq, Repr

/-- The wording of the failure. -/
def ReadFailure.message : ReadFailure → String
  | notFound => "No such file or directory (os error 2)"
  | isDirectory => "Is a directory (os error 21)"
  | notText => "stream did not contain valid UTF-8"

/-- Reads a file as text. -/
abbrev Files := String → Except ReadFailure String

/-- Why the program gives up. -/
inductive RunError where
  | namespaceUnreadable (file : String) (failure : ReadFailure)
  | namespaceInvalid (file : String) (error : SnapshotError)
  | configUnreadable (file : String) (failure : ReadFailure)
  | configInvalid (file : String)
  | session (error : CompletionError)
  deriving DecidableEq, Repr

/-- The wording of the error. -/
def RunError.message : RunError → String
  | namespaceUnreadable file failure =>
    "Error reading namespace '" ++ file ++ "': " ++ failure.message
  | namespaceInvalid file error =>
    "Invalid namespace snapshot '" ++ file ++ "': " ++ error.message
  | configUnreadable file failure => "Error reading config '" ++ file ++ "': " ++ failure.message
  | configInvalid file => "Invalid config '" ++ file ++ "'"
  | session error => error.message

/-- The bindings in a file; without a file there are none. -/
def loadNamespace (files : Files) (s : Store) :
    Option String → Except RunError (Namespace × Store)
  | none => .ok (∅, s)
  | some file =>
    match files file with
    | .error failure => .error (.namespaceUnreadable file failure)
    | .ok text =>
      match Snapshot.loadText s text with
      | .error error => .error (.namespaceInvalid file error)
      | .ok loaded => .ok loaded

/-- The options in a file; without a file the plain ones. -/
def loadOptions (files : Files) : Option String → Except RunError Options
  | none => .ok .plain
  | some file =>
    match files file with
    | .error failure => .error (.configUnreadable file failure)
    | .ok text =>
      match Options.ofText? text with
      | none => .error (.configInvalid file)
      | some options => .ok options

/-- The options of a setup: what the arguments say, else what the configuration says. -/
def Setup.layer (setup : Setup) (config : Options) : Options where
  keywords := if setup.keywords.isEmpty then config.keywords else setup.keywords
  decorate := setup.decorate.getD config.decorate
  showPrivate := setup.showPrivate.getD config.showPrivate

/-- The session of a setup: its namespace is the main module. -/
def Setup.session (setup : Setup) (files : Files) (s : Store) :
    Except RunError (Session × Store) := do
  let (globals, s) ← loadNamespace files s setup.namespaceFile
  let (builtins, s) ← loadNamespace files s setup.builtinsFile
  let config ← loadOptions files setup.configFile
  let (session, s) := Session.detached s
  let (_, s) := session.setBuiltins s builtins
  let (main, s) := Module.create s mainModule globals
  let (_, s) := session.register s main
  .ok (session.withOptions (setup.layer config), s)

/-- A piece of output. -/
inductive Output where
  | line (text : String)
  | error (text : String)
  deriving DecidableEq, Repr

/-- How the program ends and what it prints on the way. -/
structure Outcome where
  code : Nat
  output : List Output
  deriving DecidableEq, Repr

/-- The text on the standard output. -/
def Outcome.standardOutput (outcome : Outcome) : String :=
  String.join <| outcome.output.map fun
    | .line text => text ++ "\n"
    | .error _ => ""

/-- The text on the standard error. -/
def Outcome.standardError (outcome : Outcome) : String :=
  String.join <| outcome.output.map fun
    | .line _ => ""
    | .error text => text ++ "\n"

/-- The name and the version of the program. -/
def versionText : String := "nscomplete 0.1.0"

/-- The first line of the prompt. -/
def banner : String := versionText ++ " - type :help for commands"

/-- How the program is called. -/
def usageText : String :=
  String.intercalate "\n"
    ["Usage: nscomplete [--log-level FILTER] <COMMAND>",
      "",
      "Commands:",
      "  complete [FRAGMENT] [--json]  Print the completions of a fragment",
      "  repl                          Start an interactive prompt",
      "",
      "Options of both commands:",
      "  -n, --namespace FILE          JSON snapshot bound as the session globals",
      "  -b, --builtins FILE           JSON snapshot of builtin names",
      "  -c, --config FILE             JSON file with completion options",
      "  -k, --keyword WORD            Offer a keyword (repeatable)",
      "  --decorate, --no-decorate     Append a parenthesis to callables, a space to keywords",
      "  --show-private, --no-show-private",
      "                                Offer private members before the underscore is typed"]

/-- The line that reports an error. -/
def errorLine (message : String) : Output :=
  .error ("Error: " ++ message)

/-- Prints a text unless it is empty. -/
def printed (text : String) : List Output :=
  if text.isEmpty then [] else [.line text]

/-- What a reply prints. -/
def replyOutput : Prompt.Reply → List Output
  | .print text => printed text
  | .report error => [errorLine error.message]
  | .stop => []

/-- A line without the carriage return that ends it. -/
def dropReturn (line : List Char) : List Char :=
  if line.getLast? = some '\r' then line.dropLast else line

/-- The lines of a text; a line ends with a line feed, which a carriage return may precede.  What
follows the last line feed is a line of its own unless it is empty. -/
def inputLines (text : String) : List String :=
  let pieces := text.toList.splitOn '\n'
  pieces.dropLast.map (fun line => String.ofList (dropReturn line)) ++
    ((pieces.getLast?.filter (!·.isEmpty)).map String.ofList).toList

/-- What is reported when a character would be cut in two. -/
def cutCharacter : Output :=
  .error "a character would be cut in two"

/-- The code of a run that ends because a character would be cut in two. -/
def cutCode : Nat := 101

/-- What is printed on the log filter of a setup before anything else, and whether the run ends
there. -/
def Setup.startLog (setup : Setup) : List Output × Bool :=
  let report := FilterReport.ofFilter (setup.logFilter.getD "")
  (report.refusals.map .error, report.cutsCharacter)

/-- The outcome of a run after its log filter was read. -/
def Setup.logged (setup : Setup) (outcome : Outcome) : Outcome :=
  match setup.startLog with
  | (output, true) => ⟨cutCode, output ++ [cutCharacter]⟩
  | (output, false) => ⟨outcome.code, output ++ outcome.output⟩

/-- The lines with their backspaces carried out, up to the first where one cuts a character; the
flag says whether there is such a line. -/
def editedLines : List String → List String × Bool
  | [] => ([], false)
  | line :: rest =>
    match Text.edited? line.toList with
    | none => ([], true)
    | some edited =>
      let (lines, cut) := editedLines rest
      (String.ofList edited :: lines, cut)

/-- The outcome of a prompt that is given these lines. -/
def promptOutcome (session : Session) (s : Store) (input : List String) : Outcome :=
  let (lines, cut) := editedLines input
  let replies := Prompt.respondAll session s lines
  let output := .line banner :: replies.flatMap replyOutput
  if cut && !replies.contains .stop then ⟨cutCode, output ++ [cutCharacter]⟩
  else ⟨0, output⟩

/-- The outcome of a completion. -/
def completeOutcome (files : Files) (fragment : String) (asJson : Bool) (setup : Setup) :
    Outcome :=
  match setup.session files .empty with
  | .error error => ⟨1, [errorLine error.message]⟩
  | .ok (session, s) =>
    match session.completions s fragment with
    | .error error => ⟨1, [errorLine (RunError.session error).message]⟩
    | .ok candidates => ⟨0, printed (Candidates.render candidates asJson)⟩

/-- Runs the program on files and the text of the standard input. -/
def Invocation.run (files : Files) (input : String) : Invocation → Outcome
  | .help => ⟨0, [.line usageText]⟩
  | .version => ⟨0, [.line versionText]⟩
  | .complete fragment asJson setup =>
    setup.logged (completeOutcome files fragment asJson setup)
  | .prompt setup =>
    setup.logged <|
      match setup.session files .empty with
      | .error error => ⟨1, [errorLine error.message]⟩
      | .ok (session, s) => promptOutcome session s (inputLines input)

/-- Runs the program on its arguments, files and the text of the standard input. -/
def run (files : Files) (arguments : List String) (input : String) : Outcome :=
  match Invocation.ofArguments? arguments with
  | some invocation => invocation.run files input
  | none => ⟨2, [.error usageText]⟩

end NameCompletion.CommandLine
