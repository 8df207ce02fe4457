/-!
# Command-line arguments

What the arguments of the program ask for.  Arguments are read from left to right:

* An option that takes a value is written `--name value`, `--name=value`, `-n value`, `-nvalue` or
  `-n=value`; flags can share a dash, `-hn value`.
* While an option waits for its value, the next argument is that value, unless it is an option or
  a flag itself or the separator `--`; then the value is missing.
* The fragment may start with a dash as long as it is still to come: an unknown long option, or a
  dash with a letter that is no short option, is then taken as a value.  After the separator every
  argument is a value.
* An option or a flag may be given once, except for keywords.  Of a flag and its opposite the last
  one counts, and giving one makes room for the other.
* The subcommand `help` may be followed by the name of one subcommand and by nothing else, be it an
  option, a flag or the separator.
-/

namespace NameCompletion.CommandLine

/-- Where the names and the options of a session come from, and the filter for the log. -/
structure Setup where
  namespaceFile : Option String := none
  builtinsFile : Option String := none
  configFile : Option String := none
  keywords : List String := []
  decorate : Option Bool := none
  showPrivate : Option Bool := none
  logFilter : Option String := none
  deriving DecidableEq, Repr

/-- What the program is asked to do. -/
inductive Invocation where
  | help
  | version
  | complete (fragment : String) (asJson : Bool) (setup : Setup)
  | prompt (setup : Setup)
  deriving DecidableEq, Repr

/-- Which arguments are expected: those before the subcommand, or those of a subcommand. -/
inductive Context where
  | top
  | complete
  | prompt
  deriving DecidableEq, Repr

/-- Options that take a value. -/
inductive ValueOption where
  | namespaceFile
  | builtinsFile
  | configFile
  | keyword
  | logFilter
  deriving DecidableEq, Repr

/-- Options without a value. -/
inductive Flag where
  | json
  | decorate (on : Bool)
  | showPrivate (on : Bool)
  | help
  | version
  deriving DecidableEq, Repr

/-- An option or a flag. -/
inductive Switch where
  | valueOption (option : ValueOption)
  | flag (flag : Flag)
  deriving DecidableEq, Repr

/-- The long name of a switch, where it is known. -/
def longSwitch? (context : Context) (name : String) : Option Switch :=
  match context, name with
  | _, "log-level" => some (.valueOption .logFilter)
  | _, "help" => some (.flag .help)
  | .top, "version" => some (.flag .version)
  | .top, _ => none
  | _, "namespace" => some (.valueOption .namespaceFile)
  | _, "builtins" => some (.valueOption .builtinsFile)
  | _, "config" => some (.valueOption .configFile)
  | _, "keyword" => some (.valueOption .keyword)
  | _, "decorate" => some (.flag (.decorate true))
  | _, "no-decorate" => some (.flag (.decorate false))
  | _, "show-private" => some (.flag (.showPrivate true))
  | _, "no-show-private" => some (.flag (.showPrivate false))
  | .complete, "json" => some (.flag .json)
  | _, _ => none

/-- The letter of a switch, where it is known. -/
def shortSwitch? (context : Context) (letter : Char) : Option Switch :=
  match context, letter with
  | _, 'h' => some (.flag .help)
  | .top, 'V' => some (.flag .version)
  | .top, _ => none
  | _, 'n' => some (.valueOption .namespaceFile)
  | _, 'b' => some (.valueOption .builtinsFile)
  | _, 'c' => some (.valueOption .configFile)
  | _, 'k' => some (.valueOption .keyword)
  | _, _ => none

/-- Why reading the arguments stops before their end. -/
inductive Stop where
  /-- The arguments are not understood. -/
  | usage
  | help
  | version
  deriving DecidableEq, Repr

/-- What the arguments so far have said. -/
structure Progress where
  setup : Setup := {}
  asJson : Bool := false
  fragment : Option String := none
  /-- The option that waits for its value. -/
  waiting : Option ValueOption := none
  /-- Whether the separator was passed. -/
  valuesOnly : Bool := false
  deriving DecidableEq, Repr

namespace Progress

/-- Fills in a value that may be given once; a file needs a name. -/
def fillOnce (current : Option String) (value : String) (mayBeEmpty : Bool) :
    Except Stop (Option String) :=
  if current.isSome || (value.isEmpty && !mayBeEmpty) then .error .usage else .ok (some value)

/-- Takes the value of an option. -/
def giveValue (p : Progress) (option : ValueOption) (value : String) : Except Stop Progress := do
  let p := { p with waiting := none }
  match option with
  | .namespaceFile =>
    let file ← fillOnce p.setup.namespaceFile value false
    .ok { p with setup := { p.setup with namespaceFile := file } }
  | .builtinsFile =>
    let file ← fillOnce p.setup.builtinsFile value false
    .ok { p with setup := { p.setup with builtinsFile := file } }
  | .configFile =>
    let file ← fillOnce p.setup.configFile value false
    .ok { p with setup := { p.setup with configFile := file } }
  | .keyword =>
    .ok { p with setup := { p.setup with keywords := p.setup.keywords ++ [value] } }
  | .logFilter =>
    let logFilter ← fillOnce p.setup.logFilter value true
    .ok { p with setup := { p.setup with logFilter } }

/-- Turns a switch on or off, unless the same was said last. -/
def setOnce (current : Option Bool) (on : Bool) : Except Stop (Option Bool) :=
  if current = some on then .error .usage else .ok (some on)

/-- Takes a flag. -/
def raise (p : Progress) : Flag → Except Stop Progress
  | .json => if p.asJson then .error .usage else .ok { p with asJson := true }
  | .decorate on => do
    let decorate ← setOnce p.setup.decorate on
    .ok { p with setup := { p.setup with decorate } }
  | .showPrivate on => do
    let showPrivate ← setOnce p.setup.showPrivate on
    .ok { p with setup := { p.setup with showPrivate } }
  | .help => .error .help
  | .version => .error .version

/-- Takes an argument that is no switch: the value of the waiting option, or the fragment. -/
def takeValue (context : Context) (p : Progress) (value : String) : Except Stop Progress :=
  match p.waiting with
  | some option => if p.valuesOnly then .error .usage else p.giveValue option value
  | none =>
    if context = .complete && p.fragment.isNone then .ok { p with fragment := some value }
    else .error .usage

/-- Takes the letters after a dash. -/
def takeLetters (context : Context) : List Char → Progress → Except Stop Progress
  | [], p => .ok p
  | letter :: rest, p =>
    match shortSwitch? context letter with
    | none => .error .usage
    | some (.flag flag) => do
      let p ← p.raise flag
      takeLetters context rest p
    | some (.valueOption option) =>
      match rest with
      | [] => .ok { p with waiting := some option }
      | '=' :: value => p.giveValue option (String.ofList value)
      | value => p.giveValue option (String.ofList value)

/-- Takes a known long switch, with the value that is attached to it. -/
def takeLong (p : Progress) (attached : Option String) : Switch → Except Stop Progress
  | .flag flag => if attached.isSome then .error .usage else p.raise flag
  | .valueOption option =>
    match attached with
    | some value => p.giveValue option value
    | none => .ok { p with waiting := some option }

/-- Whether the fragment may still come, so that unknown switches are values. -/
def expectsFragment (context : Context) (p : Progress) : Bool :=
  context = .complete && p.fragment.isNone

/-- Takes a switch, unless an option still waits for its value. -/
def takeSwitch (p : Progress) (take : Progress → Except Stop Progress) : Except Stop Progress :=
  if p.waiting.isSome then .error .usage else take p

/-- Takes one argument. -/
def take (context : Context) (p : Progress) (argument : String) : Except Stop Progress :=
  if p.valuesOnly then p.takeValue context argument
  else
    match argument.toList with
    | ['-', '-'] => .ok { p with valuesOnly := true }
    | '-' :: '-' :: long =>
      let name := String.ofList (long.takeWhile (· != '='))
      let attached := match long.dropWhile (· != '=') with
        | [] => none
        | _ :: value => some (String.ofList value)
      match longSwitch? context name with
      | some switch => p.takeSwitch (·.takeLong attached switch)
      | none =>
        if p.expectsFragment context then p.takeValue context argument else .error .usage
    | '-' :: letter :: letters =>
      let unknown := (letter :: letters).any fun c => (shortSwitch? context c).isNone
      if p.expectsFragment context && unknown then p.takeValue context argument
      else p.takeSwitch (takeLetters context (letter :: letters))
    | _ => p.takeValue context argument

/-- Takes the arguments of a subcommand. -/
def takeAll (context : Context) (p : Progress) (arguments : List String) : Except Stop Progress :=
  arguments.foldlM (take context) p

/-- The progress at the end of the arguments, when no option waits any more. -/
def finish (p : Progress) : Except Stop Progress :=
  if p.waiting.isSome then .error .usage else .ok p

end Progress

/-- The invocation of a subcommand with its arguments; a log filter among them counts before the one
that was given earlier. -/
def readSubcommand (context : Context) (earlier : Option String) (arguments : List String) :
    Except Stop Invocation := do
  let p ← Progress.takeAll context {} arguments
  let p ← p.finish
  let setup := { p.setup with logFilter := p.setup.logFilter.or earlier }
  match context with
  | .complete => .ok (.complete (p.fragment.getD "") p.asJson setup)
  | _ => .ok (.prompt setup)

/-- The names of the subcommands; none of them has subcommands of its own. -/
def subcommandNames : List String :=
  ["complete", "repl", "help"]

/-- Where `help` leads with the arguments after it: at most one, the name of a subcommand. -/
def helpOn : List String → Stop
  | [] => .help
  | [name] => if subcommandNames.contains name then .help else .usage
  | _ => .usage

/-- The invocation, given what was said before the subcommand. -/
def readTop (p : Progress) : List String → Except Stop Invocation
  | [] => .error .usage
  | argument :: rest =>
    if p.valuesOnly || p.waiting.isSome then do
      let p ← p.take .top argument
      readTop p rest
    else
      match argument with
      | "complete" => readSubcommand .complete p.setup.logFilter rest
      | "repl" => readSubcommand .prompt p.setup.logFilter rest
      | "help" => .error (helpOn rest)
      | _ => do
        let p ← p.take .top argument
        readTop p rest

/-- What the arguments ask for; `none` if they are not understood. -/
def Invocation.ofArguments? (arguments : List String) : Option Invocation :=
  match readTop {} arguments with
  | .ok invocation => some invocation
  | .error .help => some .help
  | .error .version => some .version
  | .error .usage => none

end NameCompletion.CommandLine
