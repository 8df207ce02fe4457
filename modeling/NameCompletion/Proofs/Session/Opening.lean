import NameCompletion.CommandLine.Run
import NameCompletion.Proofs.Prompt.Line
import NameCompletion.Proofs.Snapshot.Reading

/-!
# Sessions that were just opened

Where sessions with a main module come from.  All of them are opened alike: a new registry and new
builtins, a module with its bindings, and then that module is registered.

* `withMain_register`: the module is the main module of the session.
* `isNew_create`: a new session, with an empty main module.
* `HoldsLoaded`: the main module binds what was loaded from a text.  So it does in the session that
  the program sets up (`exists_holdsLoaded_of_setup`).
-/

namespace NameCompletion.Session

/-- A module that was just made and registered under the name of the main module. -/
theorem withMain_register {session : Session} {s : Store}
    (hregistry : session.registry.index < s.registries.size)
    (hbuiltins : session.builtins.index < s.scopes.size) (names : Namespace) :
    session.WithMain
      (session.register (Module.create s mainModule names).2 (Module.create s mainModule names).1).2
      (Module.create s mainModule names).1 where
  registered := by
    have hkept : session.registry.index < (Module.create s mainModule names).2.registries.size :=
      hregistry
    rw [module?, register, Store.modules_setModules_self hkept, Bindings.get?_insert]
    exact if_pos rfl
  scope_lt := Cells.fresh_lt_alloc _ _
  builtins_lt := (Store.extends_newScope s names).scope_index_lt hbuiltins
  builtins_ne h := Nat.ne_of_lt hbuiltins (congrArg Ref.index h)

theorem WithMain.withOptions {session : Session} {s : Store} {m : Module} (h : session.WithMain s m)
    (options : Options) : (session.withOptions options).WithMain s m :=
  ⟨h.registered, h.scope_lt, h.builtins_lt, h.builtins_ne⟩

/-- A session whose main module binds the names. -/
def holding (s : Store) (names : Namespace) : Session × Store :=
  let (session, s) := detached s
  let (main, s) := Module.create s mainModule names
  (session, (session.register s main).2)

section

variable (s : Store) (names : Namespace)

/-- Its main module. -/
def heldMain : Module :=
  (Module.create (detached s).2 mainModule names).1

theorem withMain_holding : (holding s names).1.WithMain (holding s names).2 (heldMain s names) :=
  withMain_register (Cells.fresh_lt_alloc _ _) (Cells.fresh_lt_alloc _ _) names

theorem scope_holding : (holding s names).2.scope (heldMain s names).scope = names :=
  (Store.scope_newScope _ _ _).trans (if_pos rfl)

theorem extends_detached : s.Extends (detached s).2 :=
  (Store.extends_newRegistry s).trans (Store.extends_newScope _ _)

theorem extends_holding : s.Extends (holding s names).2 :=
  ((extends_detached s).trans (Store.extends_newScope _ _)).setModules (Nat.le_refl _) _

end

/-! ## New sessions -/

/-- What a new session finds in the store: an empty main module, in cells that were not there
before. -/
structure IsNew (session : Session) (s made : Store) (m : Module) : Prop where
  main : session.WithMain made m
  empty : made.scope m.scope = ∅
  others : s.Extends made
  scope_le : s.scopes.size ≤ m.scope.index
  builtins_le : s.scopes.size ≤ session.builtins.index

theorem isNew_create (s : Store) : (create s).1.IsNew s (create s).2 (heldMain s ∅) where
  main := withMain_holding s ∅
  empty := scope_holding s ∅
  others := extends_holding s ∅
  scope_le := (extends_detached s).scopes.size_le
  builtins_le := Nat.le_refl _

/-! ## Loaded sessions -/

/-- The main module binds what was loaded from the text, and what was made for that is still
there. -/
structure HoldsLoaded (session : Session) (s : Store) (m : Module) (text : String) : Prop where
  main : session.WithMain s m
  loaded : ∃ start made, Snapshot.loadText start text = .ok (s.scope m.scope, made) ∧
    start.Keeps made s

theorem extends_loadNamespace {files : CommandLine.Files} {s s' : Store} {file : Option String}
    {names : Namespace} (h : CommandLine.loadNamespace files s file = .ok (names, s')) :
    s.Extends s' := by
  unfold CommandLine.loadNamespace at h
  split at h
  · cases h
    exact .refl s
  · split at h
    · cases h
    · split at h
      · cases h
      · next hload =>
        cases h
        exact Snapshot.extends_loadText hload

theorem loadText_of_loadNamespace {files : CommandLine.Files} {s s' : Store} {file text : String}
    {names : Namespace} (htext : files file = .ok text)
    (h : CommandLine.loadNamespace files s (some file) = .ok (names, s')) :
    Snapshot.loadText s text = .ok (names, s') := by
  rw [CommandLine.loadNamespace, htext] at h
  dsimp only at h
  split at h
  · cases h
  · next hload => rw [hload, Except.ok.inj h]

/-- The session that the program sets up holds what is in the namespace file. -/
theorem exists_holdsLoaded_of_setup {setup : CommandLine.Setup} {files : CommandLine.Files}
    {start s : Store} {session : Session} {file text : String}
    (hfile : setup.namespaceFile = some file) (htext : files file = .ok text)
    (hsession : setup.session files start = .ok (session, s)) :
    ∃ m, HoldsLoaded session s m text := by
  unfold CommandLine.Setup.session at hsession
  obtain ⟨⟨globals, made⟩, hglobals, hsession⟩ := exists_of_bind_eq_ok hsession
  obtain ⟨⟨builtins, read⟩, hbuiltins, hsession⟩ := exists_of_bind_eq_ok hsession
  obtain ⟨config, _, hsession⟩ := exists_of_bind_eq_ok hsession
  cases hsession
  rw [hfile] at hglobals
  let detached := Session.detached read
  let filled := (detached.1.setBuiltins detached.2 builtins).2
  have hread : made.Extends read := extends_loadNamespace hbuiltins
  have hfill : detached.2.ExtendsBut detached.1.builtins filled := Store.extendsBut_setScope _ _ _
  have hfilled : made.Extends filled :=
    (hread.trans (extends_detached read)).of_extendsBut hread.scopes.size_le hfill
  have hregistry : detached.1.registry.index < filled.registries.size :=
    Cells.fresh_lt_alloc _ _
  have hmain := withMain_register hregistry
    (hfill.scope_index_lt (Cells.fresh_lt_alloc _ _)) globals
  refine ⟨_, hmain.withOptions _, start, made, ?_, .of_extends ?_⟩
  · rw [loadText_of_loadNamespace htext hglobals]
    congr 2
    exact ((Store.scope_newScope _ _ _).trans (if_pos rfl)).symm
  · exact (hfilled.trans (Store.extends_newScope _ _)).setModules hread.registries.size_le _

theorem loadText_of_readNamespace {text : String} {document : Json}
    {members : List (String × Description)} (hparse : Json.parse? text = some document)
    (hread : Snapshot.readNamespace document = .ok members) (s : Store) :
    Snapshot.loadText s text = .ok (Description.buildNamespace s members) := by
  rw [Snapshot.loadText, hparse]
  dsimp only
  rw [Snapshot.loadNamespace, hread]
  rfl

/-- What was loaded from a text is held by a session whose main module binds it. -/
theorem holdsLoaded_holding {s made : Store} {text : String} {names : Namespace}
    (hload : Snapshot.loadText s text = .ok (names, made)) :
    (holding made names).1.HoldsLoaded (holding made names).2 (heldMain made names) text where
  main := withMain_holding made names
  loaded := ⟨s, made, by rw [scope_holding, hload],
    .of_extends (extends_holding made names)⟩

end NameCompletion.Session
