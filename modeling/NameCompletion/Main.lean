import NameCompletion.CommandLine.Run

/-!
# The program

Reads the files and the standard input, and prints what the invocation says.
-/

namespace NameCompletion.CommandLine

/-- Reads one file. -/
def readFile (file : String) : IO (Except ReadFailure String) := do
  try
    let bytes ← IO.FS.readBinFile file
    match String.fromUTF8? bytes with
    | some text => return .ok text
    | none => return .error .notText
  catch error =>
    match error with
    | .inappropriateType .. => return .error .isDirectory
    | _ => return .error .notFound

/-- The files that a setup names, read. -/
def readFiles (setup : Setup) : IO Files := do
  let names := [setup.namespaceFile, setup.builtinsFile, setup.configFile].filterMap id
  let contents ← names.mapM fun name => do return (name, ← readFile name)
  return fun name => (contents.lookup name).getD (.error .notFound)

/-- Prints output as it comes. -/
def printOutput (output : List Output) : IO Unit :=
  output.forM fun
    | .line text => IO.println text
    | .error text => IO.eprintln text

/-- Answers lines until the prompt ends or the input does; the code to end with. -/
partial def converse (session : Session) (s : Store) : IO Nat := do
  match inputLines (← (← IO.getStdin).getLine) with
  | [] => return 0
  | line :: _ =>
    match Text.edited? line.toList with
    | none =>
      printOutput [cutCharacter]
      return cutCode
    | some edited =>
      let (reply, s) := Prompt.respond session s (String.ofList edited)
      printOutput (replyOutput reply)
      if reply = .stop then return 0 else converse session s

end NameCompletion.CommandLine

open NameCompletion NameCompletion.CommandLine

/-- Runs the program on its command-line arguments. -/
def main (arguments : List String) : IO UInt32 := do
  match Invocation.ofArguments? arguments with
  | some (.prompt setup) =>
    let (output, cut) := setup.startLog
    printOutput output
    if cut then
      printOutput [cutCharacter]
      return cutCode.toUInt32
    match setup.session (← readFiles setup) .empty with
    | .error error =>
      printOutput [errorLine error.message]
      return 1
    | .ok (session, s) =>
      printOutput [.line banner]
      return (← converse session s).toUInt32
  | some (.complete fragment asJson setup) =>
    let outcome := Invocation.run (← readFiles setup) "" (.complete fragment asJson setup)
    printOutput outcome.output
    return outcome.code.toUInt32
  | _ =>
    let outcome := run (fun _ => .error .notFound) arguments ""
    printOutput outcome.output
    return outcome.code.toUInt32
