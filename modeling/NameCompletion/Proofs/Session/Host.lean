import NameCompletion.Session
import NameCompletion.Snapshot.Description

/-!
# Hosts

A host is a program that works with sessions.  It holds sessions, modules and live bindings, and
refers to each of them by its number.  Live bindings are those of the main module or the builtins of
a session, or those of a module; the host can write to them at any later time, also when another
module has taken the place of the one that they belong to.

Asking for completions or for names changes nothing, so these requests are no actions.
-/

namespace NameCompletion

/-- What a host holds, and the store behind it. -/
structure Host where
  store : Store
  sessions : List Session := []
  modules : List Module := []
  /-- The live bindings. -/
  scopes : List ScopeRef := []

namespace Host

/-- What a host can do.  An action on something that the host does not hold does nothing. -/
inductive Action where
  /-- A session without any module. -/
  | detached
  /-- A session with an empty main module. -/
  | create
  /-- A further handle on the same modules and builtins, with the same options. -/
  | copy (session : Nat)
  | withOptions (session : Nat) (options : Options)
  | setBuiltins (session : Nat) (builtins : Namespace)
  /-- A module with bindings of its own. -/
  | newModule (name : String) (bindings : Namespace)
  /-- Registers a module; the one that it replaces is handed back to the host. -/
  | register (session m : Nat)
  | importModule (session : Nat) (name : String)
  | inject (session : Nat) (moduleName member : String) (value : Value)
  | remove (session : Nat) (moduleName member : String)
  /-- The live bindings of the main module. -/
  | globals (session : Nat)
  /-- The live builtins. -/
  | builtins (session : Nat)
  /-- The live bindings of a module. -/
  | bindings (m : Nat)
  /-- Writes to live bindings. -/
  | write (scope : Nat) (change : Namespace → Namespace)
  /-- Builds a value, in new cells. -/
  | build (d : Description)

/-- A host that holds nothing yet. -/
def start (s : Store) : Host where
  store := s

/-- Keeps a new session. -/
def addSession (w : Host) (made : Session × Store) : Host :=
  { w with store := made.2, sessions := w.sessions ++ [made.1] }

/-- Keeps a new module. -/
def addModule (w : Host) (made : Module × Store) : Host :=
  { w with store := made.2, modules := w.modules ++ [made.1] }

/-- Changes bindings, if there are any. -/
def writeAt (w : Host) (scope : Option ScopeRef) (change : Namespace → Namespace) : Host :=
  (scope.map fun r => { w with store := w.store.setScope r (change (w.store.scope r)) }).getD w

/-- The store after a change, unless the change was refused. -/
def applied (w : Host) {α : Type} : Option (Except CompletionError (α × Store)) → Host
  | some (.ok (_, s)) => { w with store := s }
  | _ => w

/-- Keeps an imported module, unless there was none. -/
def keepModule (w : Host) : Option (Except CompletionError Value) → Host
  | some (.ok (.module m)) => { w with modules := w.modules ++ [m] }
  | _ => w

/-- Keeps live bindings, unless there were none. -/
def keepScope (w : Host) : Option (Except CompletionError ScopeRef) → Host
  | some (.ok scope) => { w with scopes := w.scopes ++ [scope] }
  | _ => w

/-- What the host holds after an action. -/
def step (w : Host) : Action → Host
  | .detached => w.addSession (Session.detached w.store)
  | .create => w.addSession (Session.create w.store)
  | .copy h => { w with sessions := w.sessions ++ w.sessions[h]?.toList }
  | .withOptions h options => { w with sessions := w.sessions.modify h (·.withOptions options) }
  | .setBuiltins h builtins =>
    w.applied <| w.sessions[h]?.map fun session => .ok (session.setBuiltins w.store builtins)
  | .newModule name bindings => w.addModule (Module.create w.store name bindings)
  | .register h m =>
    match w.sessions[h]?, w.modules[m]? with
    | some session, some m =>
      let (replaced, s) := session.register w.store m
      { w with store := s, modules := w.modules ++ replaced.toList }
    | _, _ => w
  | .importModule h name => w.keepModule <| w.sessions[h]?.map (·.importModule w.store name)
  | .inject h moduleName member value =>
    w.applied <| w.sessions[h]?.map (·.inject w.store moduleName member value)
  | .remove h moduleName member =>
    w.applied <| w.sessions[h]?.map (·.remove w.store moduleName member)
  | .globals h => w.keepScope <| w.sessions[h]?.map (·.globals w.store)
  | .builtins h => { w with scopes := w.scopes ++ (w.sessions[h]?.map Session.builtins).toList }
  | .bindings m => { w with scopes := w.scopes ++ (w.modules[m]?.map Module.scope).toList }
  | .write i change => w.writeAt w.scopes[i]? change
  | .build d => { w with store := (Description.build w.store d).2 }

/-- What the host holds after some actions. -/
def run (w : Host) (actions : List Action) : Host :=
  actions.foldl step w

/-! ## What actions come to -/

/-- The module that a session finds under the name. -/
def module? (w : Host) (h : Nat) (name : String) : Option Module :=
  w.sessions[h]?.bind fun session => session.module? w.store name

section

variable (w : Host) (h : Nat)

theorem step_setBuiltins (builtins : Namespace) :
    w.step (.setBuiltins h builtins) =
      w.writeAt (w.sessions[h]?.map Session.builtins) fun _ => builtins := by
  rw [step]
  cases w.sessions[h]? <;> rfl

theorem step_importModule (name : String) :
    w.step (.importModule h name) =
      { w with modules := w.modules ++ (w.module? h name).toList } := by
  rw [step, module?]
  cases w.sessions[h]? with
  | none => simp [keepModule]
  | some session =>
    cases hm : session.module? w.store name with
    | none => simp [keepModule, Session.importModule_of_module?_eq_none hm, hm]
    | some m => simp [keepModule, Session.importModule_of_module? hm, hm]

theorem step_globals :
    w.step (.globals h) =
      { w with scopes := w.scopes ++ ((w.module? h mainModule).map Module.scope).toList } := by
  rw [step, module?]
  cases w.sessions[h]? with
  | none => simp [keepScope]
  | some session =>
    cases hm : session.module? w.store mainModule with
    | none => simp [keepScope, Session.globals_of_module?_eq_none hm, hm]
    | some m => simp [keepScope, Session.globals_of_module? hm, hm]

theorem step_inject (moduleName member : String) (value : Value) :
    w.step (.inject h moduleName member value) =
      w.writeAt ((w.module? h moduleName).map Module.scope) (·.insert member value) := by
  rw [step, module?]
  cases w.sessions[h]? with
  | none => rfl
  | some session =>
    rw [Option.map_some, Option.bind_some]
    cases hm : session.module? w.store moduleName with
    | none => rw [Session.inject_of_module?_eq_none hm]; rfl
    | some m => rw [Session.inject_of_module? hm]; rfl

theorem step_remove (moduleName member : String) :
    w.step (.remove h moduleName member) =
      w.writeAt ((w.module? h moduleName).map Module.scope) (·.erase member) := by
  rw [step, module?]
  cases w.sessions[h]? with
  | none => rfl
  | some session =>
    rw [Option.map_some, Option.bind_some]
    cases hm : session.module? w.store moduleName with
    | none => rw [Session.remove_of_module?_eq_none hm]; rfl
    | some m => rw [Session.remove_of_module? hm]; rfl

end

end Host

end NameCompletion
