import NameCompletion.Completer

/-!
# Sessions

A session is a handle on the modules of an interpreter, on its builtins and on the options of its
completions.  The bindings of the module `__main__` are the global names.  A copy of a handle
refers to the same modules and the same builtins, so a change through one is seen through the
other; options belong to the handle alone.
-/

namespace NameCompletion

/-- Why a session cannot answer. -/
inductive CompletionError where
  /-- There is no main module to take the global names from. -/
  | namespaceUnavailable (name : String)
  /-- No module of that name is registered. -/
  | moduleNotFound (name : String)
  deriving DecidableEq, Repr

/-- The wording of the error. -/
def CompletionError.message : CompletionError → String
  | namespaceUnavailable name =>
    "session has no '" ++ name ++ "' module; the host did not initialize its globals"
  | moduleNotFound name => "module not found: " ++ name

/-- The module whose bindings are the global names. -/
def mainModule : String := "__main__"

/-- A new module with its own bindings. -/
def Module.create (s : Store) (name : String) (bindings : Namespace) : Module × Store :=
  let (scope, s) := s.newScope bindings
  (⟨name, scope⟩, s)

/-- A handle on modules, builtins and options. -/
structure Session where
  registry : RegistryRef
  builtins : ScopeRef
  options : Options
  deriving DecidableEq, Repr

namespace Session

/-- A session without any module; it completes nothing until a main module is registered. -/
def detached (s : Store) : Session × Store :=
  let (registry, s) := s.newRegistry
  let (builtins, s) := s.newScope ∅
  (⟨registry, builtins, .plain⟩, s)

/-- The registered module of that name. -/
def module? (session : Session) (s : Store) (name : String) : Option Module :=
  (s.modules session.registry).get? name

/-- Registers a module under its name; the module that it replaces. -/
def register (session : Session) (s : Store) (m : Module) : Option Module × Store :=
  (session.module? s m.name,
    s.setModules session.registry ((s.modules session.registry).insert m.name m))

/-- A session with an empty main module. -/
def create (s : Store) : Session × Store :=
  let (session, s) := detached s
  let (main, s) := Module.create s mainModule ∅
  (session, (session.register s main).2)

/-- The handle with other options. -/
def withOptions (session : Session) (options : Options) : Session :=
  { session with options }

/-- Replaces the builtins; the previous ones. -/
def setBuiltins (session : Session) (s : Store) (builtins : Namespace) : Namespace × Store :=
  (s.scope session.builtins, s.setScope session.builtins builtins)

/-- The bindings of a registered module. -/
def moduleScope (session : Session) (s : Store) (name : String) :
    Except CompletionError ScopeRef :=
  match session.module? s name with
  | some m => .ok m.scope
  | none => .error (.moduleNotFound name)

/-- A registered module as a value. -/
def importModule (session : Session) (s : Store) (name : String) : Except CompletionError Value :=
  match session.module? s name with
  | some m => .ok (.module m)
  | none => .error (.moduleNotFound name)

/-- Binds a member of a module; the value that was bound to it before. -/
def inject (session : Session) (s : Store) (moduleName member : String) (value : Value) :
    Except CompletionError (Option Value × Store) :=
  (session.moduleScope s moduleName).map fun scope => s.bind scope member value

/-- Unbinds a member of a module; the value that was bound to it. -/
def remove (session : Session) (s : Store) (moduleName member : String) :
    Except CompletionError (Option Value × Store) :=
  (session.moduleScope s moduleName).map fun scope => s.unbind scope member

/-- The names that a module binds, in order. -/
def names (session : Session) (s : Store) (moduleName : String) :
    Except CompletionError (List String) :=
  (session.moduleScope s moduleName).map fun scope => (s.scope scope).names

/-- The global names. -/
def globals (session : Session) (s : Store) : Except CompletionError ScopeRef :=
  match session.module? s mainModule with
  | some m => .ok m.scope
  | none => .error (.namespaceUnavailable mainModule)

/-- What the completions of the session are answered from. -/
def completer (session : Session) (s : Store) : Except CompletionError Completer :=
  (session.globals s).map fun scope =>
    { store := s
      globals := s.scope scope
      builtins := some (s.scope session.builtins)
      options := session.options }

/-- All candidates for the typed text. -/
def completions (session : Session) (s : Store) (text : String) :
    Except CompletionError (List String) :=
  (session.completer s).map (·.complete text)

/-- The candidate at a position. -/
def completionAt (session : Session) (s : Store) (text : String) (position : Nat) :
    Except CompletionError (Option String) :=
  (session.completer s).map (·.completeAt text position)

section

variable {session : Session} {s : Store} {m : Module} {name : String}

theorem importModule_of_module? (h : session.module? s name = some m) :
    session.importModule s name = .ok (.module m) := by
  simp only [importModule, h]

theorem importModule_of_module?_eq_none (h : session.module? s name = none) :
    session.importModule s name = .error (.moduleNotFound name) := by
  simp only [importModule, h]

theorem inject_of_module? (h : session.module? s name = some m) (member : String) (value : Value) :
    session.inject s name member value = .ok (s.bind m.scope member value) := by
  simp only [inject, moduleScope, h]
  rfl

theorem inject_of_module?_eq_none (h : session.module? s name = none) (member : String)
    (value : Value) :
    session.inject s name member value = .error (.moduleNotFound name) := by
  simp only [inject, moduleScope, h]
  rfl

theorem remove_of_module? (h : session.module? s name = some m) (member : String) :
    session.remove s name member = .ok (s.unbind m.scope member) := by
  simp only [remove, moduleScope, h]
  rfl

theorem remove_of_module?_eq_none (h : session.module? s name = none) (member : String) :
    session.remove s name member = .error (.moduleNotFound name) := by
  simp only [remove, moduleScope, h]
  rfl

theorem names_of_module? (h : session.module? s name = some m) :
    session.names s name = .ok (s.scope m.scope).names := by
  simp only [names, moduleScope, h]
  rfl

theorem names_of_module?_eq_none (h : session.module? s name = none) :
    session.names s name = .error (.moduleNotFound name) := by
  simp only [names, moduleScope, h]
  rfl

theorem globals_of_module? (h : session.module? s mainModule = some m) :
    session.globals s = .ok m.scope := by
  simp only [globals, h]

theorem globals_of_module?_eq_none (h : session.module? s mainModule = none) :
    session.globals s = .error (.namespaceUnavailable mainModule) := by
  simp only [globals, h]

/-- With a main module, completions are those of its bindings. -/
theorem completions_of_module? (h : session.module? s mainModule = some m)
    (text : String) :
    session.completions s text = .ok (Completer.complete
      { store := s
        globals := s.scope m.scope
        builtins := some (s.scope session.builtins)
        options := session.options } text) := by
  simp only [completions, completer, globals_of_module? h]
  rfl

/-- Without a main module there are no completions. -/
theorem completions_of_module?_eq_none (h : session.module? s mainModule = none) (text : String) :
    session.completions s text = .error (.namespaceUnavailable mainModule) := by
  simp only [completions, completer, globals_of_module?_eq_none h]
  rfl

end

end Session

end NameCompletion
