import Mathlib.Data.List.TakeWhile
import NameCompletion.Proofs.Prompt.Binding
import NameCompletion.Proofs.Session.Isolation
import NameCompletion.Proofs.Store.Keeping

/-!
# One line at the prompt

To perform a line is to read it and to execute its command.  What can come of that depends on
whether the session has a main module.

* `Session.WithMain`, `Session.WithoutMain`: the two kinds of sessions there are.
* `readCommand_cases`: what reading a line does to the store.
* `perform_cases`: with a main module, a line makes one change of its bindings or none at all.
* `perform_of_missing`, `extends_perform`: without one, it fails and changes nothing.
* `isQuit_of_stop`: the prompt ends only where it is told to.
-/

namespace NameCompletion

/-! ## Sessions whose cells are in place -/

/-- The session has a main module; its bindings and the builtins are in two cells of the store. -/
structure Session.WithMain (session : Session) (s : Store) (m : Module) : Prop where
  registered : session.module? s mainModule = some m
  scope_lt : m.scope.index < s.scopes.size
  builtins_lt : session.builtins.index < s.scopes.size
  builtins_ne : session.builtins ≠ m.scope

/-- The session has no main module; its modules and its builtins are in cells of the store. -/
structure Session.WithoutMain (session : Session) (s : Store) : Prop where
  missing : session.module? s mainModule = none
  registry_lt : session.registry.index < s.registries.size
  builtins_lt : session.builtins.index < s.scopes.size

/-- Whatever a host does, its sessions are of one of the two kinds. -/
theorem Host.withMain_or_withoutMain (s : Store) (actions : List Host.Action) {i : Nat}
    {session : Session} (h : ((Host.start s).run actions).sessions[i]? = some session) :
    (∃ m, session.WithMain ((Host.start s).run actions).store m) ∨
      session.WithoutMain ((Host.start s).run actions).store := by
  obtain ⟨l, hfollows⟩ := (Follows.start s).run actions
  obtain ⟨handle, _, hhandle⟩ := exists_of_rel_left (hfollows.sessions i) h
  have hbuiltins := hfollows.mirrors.scope_lt (Layout.scope?_builtins hhandle.cells)
  cases hmain : session.module? ((Host.start s).run actions).store mainModule with
  | some m =>
    have hknows : ((Host.start s).run actions).Knows m :=
      .inr ⟨i, mainModule, (Host.module?_eq h mainModule).trans hmain⟩
    exact .inl ⟨m, hmain, hfollows.scope_lt hknows, hbuiltins,
      hfollows.builtins_ne_scope hknows (List.mem_of_getElem? h)⟩
  | none => exact .inr ⟨hmain, hfollows.mirrors.registry_lt hhandle.cells, hbuiltins⟩

theorem Session.WithMain.of_extendsBut {session : Session} {s grown : Store} {m : Module}
    (h : session.WithMain s m) (hgrown : s.ExtendsBut m.scope grown) :
    session.WithMain grown m where
  registered := Store.get?_modules_of_extends hgrown.registries h.registered
  scope_lt := hgrown.scope_index_lt h.scope_lt
  builtins_lt := hgrown.scope_index_lt h.builtins_lt
  builtins_ne := h.builtins_ne

theorem Session.WithoutMain.of_extends {session : Session} {s grown : Store}
    (h : session.WithoutMain s) (hgrown : s.Extends grown) : session.WithoutMain grown where
  missing := by
    rw [module?, hgrown.modules_eq h.registry_lt]
    exact h.missing
  registry_lt := hgrown.registry_index_lt h.registry_lt
  builtins_lt := hgrown.scope_index_lt h.builtins_lt

namespace Prompt

/-! ## Performing a line -/

/-- What comes of a line. -/
inductive Outcome where
  /-- The command was executed; what it prints, or nothing if the prompt is to end. -/
  | done (command : Command) (output : Option String)
  /-- The line could not be read, or the command could not be executed. -/
  | failed (error : PromptError)

/-- Reads a line and executes its command. -/
def perform (session : Session) (s : Store) (line : String) : Outcome × Store :=
  match readCommand s line with
  | .error error => (.failed error, s)
  | .ok (command, s) =>
    match execute session s command with
    | .error error => (.failed error, s)
    | .ok (output, s) => (.done command output, s)

/-- A change of bindings. -/
inductive Change where
  | bind (name : String) (value : Value)
  | unbind (name : String)

/-- The bindings after a change. -/
def Change.apply (names : Namespace) : Change → Namespace
  | bind name value => names.insert name value
  | unbind name => names.erase name

/-- The change that a line makes: a binding that was made, or one that was taken back. -/
def Outcome.change? : Outcome → Option Change
  | done (.assign name value) _ => some (.bind name value)
  | done (.delete name) _ => some (.unbind name)
  | _ => none

/-- The reply that goes with an outcome. -/
def Outcome.reply : Outcome → Reply
  | done _ (some text) => .print text
  | done _ none => .stop
  | failed error => .report error

/-- Why a command cannot be executed without a main module. -/
def missingMain? : Command → Option CompletionError
  | .assign _ _ | .delete _ | .names => some (.moduleNotFound mainModule)
  | .complete _ => some (.namespaceUnavailable mainModule)
  | .help | .quit => none

section

variable {session : Session} {s s' : Store} {m : Module} {line : String} {command : Command}

theorem perform_of_read_error {e : PromptError} (hread : readCommand s line = .error e) :
    perform session s line = (.failed e, s) := by
  rw [perform, hread]

theorem perform_of_execute {output : Option String} {after : Store}
    (hread : readCommand s line = .ok (command, s'))
    (hexecute : execute session s' command = .ok (output, after)) :
    perform session s line = (.done command output, after) := by
  simp only [perform, hread, hexecute]

theorem perform_of_execute_error {e : PromptError}
    (hread : readCommand s line = .ok (command, s'))
    (hexecute : execute session s' command = .error e) :
    perform session s line = (.failed e, s') := by
  simp only [perform, hread, hexecute]

/-- The prompt passes over blank lines, and otherwise replies to what comes of the line. -/
theorem respond_eq (session : Session) (s : Store) (line : String) :
    respond session s line =
      if Text.isBlankLine line then (.print "", s)
      else ((perform session s line).1.reply, (perform session s line).2) := by
  unfold respond perform
  split
  · rfl
  · cases readCommand s line with
    | error e => rfl
    | ok read =>
      obtain ⟨command, s⟩ := read
      dsimp only
      cases execute session s command with
      | error e => rfl
      | ok done =>
        obtain ⟨_ | text, s⟩ := done
        · rfl
        · rfl

/-! ## Reading lines -/

theorem exists_assign_of_readBinding {text : List Char}
    (h : readBinding s text = .ok (command, s')) : ∃ name value, command = .assign name value := by
  unfold readBinding at h
  split at h
  · cases h
  · simp only [bind, Except.bind] at h
    split at h
    · cases h
    · split at h
      · cases h
      · split at h
        · cases h
        · cases h
          exact ⟨_, _, rfl⟩

/-- A line binds a name, or it is read alike in every store and leaves the store as it is. -/
theorem readCommand_cases (h : readCommand s line = .ok (command, s')) :
    (∃ name value j, command = .assign name value ∧ Snapshot.loadValue s j = .ok (value, s')) ∨
      s' = s ∧ ∀ t, readCommand t line = .ok (command, t) := by
  unfold readCommand readTrimmed at h ⊢
  cases hlet : after? "let " (Text.trimChars line.toList) with
  | some text =>
    rw [hlet] at h
    obtain ⟨name, value, rfl⟩ := exists_assign_of_readBinding h
    obtain ⟨_, _, j, _, _, _, hload⟩ := readBinding_eq_ok_iff.1 h
    exact .inl ⟨name, value, j, rfl, hload⟩
  | none =>
    right
    rw [hlet] at h
    cases hdel : after? "del " (Text.trimChars line.toList) with
    | some text =>
      rw [hdel] at h
      dsimp only at h ⊢
      cases hname : readName text with
      | error e => rw [hname] at h; cases h
      | ok name =>
        rw [hname] at h
        cases h
        exact ⟨rfl, fun t => rfl⟩
    | none =>
      rw [hdel] at h
      cases hcomplete : after? ":complete" (Text.trimChars line.toList) with
      | some text =>
        rw [hcomplete] at h
        cases h
        exact ⟨rfl, fun t => rfl⟩
      | none =>
        rw [hcomplete] at h
        dsimp only at h ⊢
        split at h <;> cases h <;> exact ⟨rfl, fun t => rfl⟩

/-- Reading a line only adds cells. -/
theorem extends_readCommand (h : readCommand s line = .ok (command, s')) : s.Extends s' := by
  rcases readCommand_cases h with ⟨_, _, _, _, hload⟩ | ⟨rfl, _⟩
  · exact Snapshot.extends_loadValue hload
  · exact .refl _

/-- Reading a line that binds no name leaves the store as it is. -/
theorem readCommand_store_eq (h : readCommand s line = .ok (command, s'))
    (hcommand : ∀ name value, command ≠ .assign name value) : s' = s := by
  rcases readCommand_cases h with ⟨name, value, _, hassign, _⟩ | ⟨rfl, _⟩
  · exact absurd hassign (hcommand name value)
  · rfl

/-- A blank line is no command. -/
theorem readCommand_of_blank (hblank : Text.isBlankLine line = true) :
    readCommand s line = .error (.unknownCommand "") := by
  have htrim : Text.trimChars line.toList = [] := by
    rw [Text.trimChars, List.dropWhile_eq_nil_iff.2 (List.all_eq_true.1 hblank)]
    rfl
  rw [readCommand, htrim]
  rfl

/-! ## One line -/

theorem execute_of_missing (hmissing : session.module? s mainModule = none)
    {e : CompletionError} (hneeds : missingMain? command = some e) :
    execute session s command = .error (.session e) := by
  cases command with
  | assign name value =>
    cases hneeds
    rw [execute, Session.inject_of_module?_eq_none hmissing]
  | delete name =>
    cases hneeds
    rw [execute, Session.remove_of_module?_eq_none hmissing]
  | names =>
    cases hneeds
    rw [execute, Session.names_of_module?_eq_none hmissing]
  | complete text =>
    cases hneeds
    rw [execute, Session.completions_of_module?_eq_none hmissing]
  | help => cases hneeds
  | quit => cases hneeds

/-- Only the command that ends the prompt prints nothing at all. -/
theorem eq_quit_of_execute (h : execute session s command = .ok (none, s')) : command = .quit := by
  cases command with
  | quit => rfl
  | help => cases h
  | assign name value | delete name | names | complete text =>
    rw [execute] at h
    split at h <;> cases h

/-- Without a main module, a line that needs one fails. -/
theorem perform_of_missing (hmissing : session.WithoutMain s) {e : CompletionError}
    (hread : readCommand s line = .ok (command, s')) (hneeds : missingMain? command = some e) :
    perform session s line = (.failed (.session e), s') :=
  perform_of_execute_error hread <|
    execute_of_missing (hmissing.of_extends (extends_readCommand hread)).missing hneeds

/-- Without a main module nothing happens to the cells that are there. -/
theorem extends_perform (hmissing : session.WithoutMain s) (line : String) :
    s.Extends (perform session s line).2 := by
  cases hread : readCommand s line with
  | error e =>
    rw [perform_of_read_error hread]
    exact .refl s
  | ok read =>
    obtain ⟨command, s'⟩ := read
    have hgrown := extends_readCommand hread
    cases command with
    | help =>
      rw [perform_of_execute hread rfl]
      exact hgrown
    | quit =>
      rw [perform_of_execute hread rfl]
      exact hgrown
    | assign _ _ | delete _ | names | complete _ =>
      rw [perform_of_missing hmissing hread rfl]
      exact hgrown

/-- With a main module, a line either leaves the store as it is, or it makes a change of the
bindings of the main module and adds the cells of a value. -/
theorem perform_cases (hmain : session.WithMain s m) (line : String) :
    ((perform session s line).1.change? = none ∧ (perform session s line).2 = s) ∨
      ∃ change grown, (perform session s line).1.change? = some change ∧ s.Extends grown ∧
        (perform session s line).2 = grown.setScope m.scope (change.apply (s.scope m.scope)) := by
  cases hread : readCommand s line with
  | error e =>
    rw [perform_of_read_error hread]
    exact .inl ⟨rfl, rfl⟩
  | ok read =>
    obtain ⟨command, s'⟩ := read
    have hgrown := extends_readCommand hread
    have hfound : session.module? s' mainModule = some m := hgrown.module? hmain.registered
    cases command with
    | assign name value =>
      have hdone : execute session s' (.assign name value) =
          .ok (some "", (s'.bind m.scope name value).2) := by
        rw [execute, Session.inject_of_module? hfound]
      rw [perform_of_execute hread hdone, ← hgrown.scope_eq hmain.scope_lt]
      exact .inr ⟨.bind name value, s', rfl, hgrown, rfl⟩
    | delete name =>
      obtain rfl := readCommand_store_eq hread fun _ _ h => by cases h
      cases hbound : (s'.scope m.scope).get? name with
      | none =>
        have hfails : execute session s' (.delete name) = .error (.notBound name) := by
          rw [execute, Session.remove_of_module? hfound, Store.unbind, hbound]
        rw [perform_of_execute_error hread hfails]
        exact .inl ⟨rfl, rfl⟩
      | some value =>
        have hdone : execute session s' (.delete name) =
            .ok (some "", s'.setScope m.scope ((s'.scope m.scope).erase name)) := by
          rw [execute, Session.remove_of_module? hfound, Store.unbind, hbound]
        rw [perform_of_execute hread hdone]
        exact .inr ⟨.unbind name, s', rfl, hgrown, rfl⟩
    | names =>
      obtain rfl := readCommand_store_eq hread fun _ _ h => by cases h
      rw [perform_of_execute hread (by rw [execute, Session.names_of_module? hfound])]
      exact .inl ⟨rfl, rfl⟩
    | complete text =>
      obtain rfl := readCommand_store_eq hread fun _ _ h => by cases h
      rw [perform_of_execute hread (by rw [execute, Session.completions_of_module? hfound])]
      exact .inl ⟨rfl, rfl⟩
    | help =>
      obtain rfl := readCommand_store_eq hread fun _ _ h => by cases h
      rw [perform_of_execute hread rfl]
      exact .inl ⟨rfl, rfl⟩
    | quit =>
      obtain rfl := readCommand_store_eq hread fun _ _ h => by cases h
      rw [perform_of_execute hread rfl]
      exact .inl ⟨rfl, rfl⟩

/-- A line that makes no change leaves the store as it is. -/
theorem perform_store_eq (hmain : session.WithMain s m)
    (hidle : (perform session s line).1.change? = none) : (perform session s line).2 = s := by
  rcases perform_cases hmain line with ⟨_, hstore⟩ | ⟨change, _, hchange, _⟩
  · exact hstore
  · rw [hidle] at hchange
    cases hchange

/-- A line changes no cell but that of the main module. -/
theorem extendsBut_perform (hmain : session.WithMain s m) (line : String) :
    s.ExtendsBut m.scope (perform session s line).2 := by
  rcases perform_cases hmain line with ⟨_, hstore⟩ | ⟨change, grown, _, hgrown, hstore⟩
  · rw [hstore]
    exact (Store.Extends.refl s).extendsBut _
  · rw [hstore]
    exact (hgrown.extendsBut _).trans (Store.extendsBut_setScope _ _ _)

/-- The bindings after a line are those before it with its change made, if it makes one. -/
theorem scope_perform (hmain : session.WithMain s m) (line : String) :
    (perform session s line).2.scope m.scope =
      (perform session s line).1.change?.toList.foldl Change.apply (s.scope m.scope) := by
  rcases perform_cases hmain line with ⟨hnone, hstore⟩ | ⟨change, grown, hchange, hgrown, hstore⟩
  · rw [hnone, hstore]
    rfl
  · rw [hchange, hstore, Store.scope_setScope_self (hgrown.scope_index_lt hmain.scope_lt)]
    rfl

/-! ## The end of the prompt -/

/-- The line is read as the command that ends the prompt. -/
def IsQuit (line : String) : Prop :=
  ∃ s s', readCommand s line = .ok (.quit, s')

theorem readCommand_of_isQuit (h : IsQuit line) (s : Store) :
    readCommand s line = .ok (.quit, s) := by
  obtain ⟨t, t', hread⟩ := h
  rcases readCommand_cases hread with ⟨_, _, _, hassign, _⟩ | ⟨_, hevery⟩
  · cases hassign
  · exact hevery s

theorem respond_of_isQuit (h : IsQuit line) (session : Session) (s : Store) :
    respond session s line = (.stop, s) := by
  have hread := readCommand_of_isQuit h s
  have hblank : ¬ Text.isBlankLine line = true := fun hblank => by
    rw [readCommand_of_blank hblank] at hread
    cases hread
  simp only [respond, if_neg hblank, hread, execute]

/-- Only the command that ends the prompt ends it. -/
theorem isQuit_of_stop (h : (respond session s line).1 = .stop) : IsQuit line := by
  rw [respond_eq] at h
  split at h
  · cases h
  · cases hread : readCommand s line with
    | error e =>
      rw [perform_of_read_error hread] at h
      cases h
    | ok read =>
      obtain ⟨command, s'⟩ := read
      cases hexecute : execute session s' command with
      | error e =>
        rw [perform_of_execute_error hread hexecute] at h
        cases h
      | ok done =>
        obtain ⟨_ | text, after⟩ := done
        · rw [eq_quit_of_execute hexecute] at hread
          exact ⟨s, s', hread⟩
        · rw [perform_of_execute hread hexecute] at h
          cases h

end

end Prompt

end NameCompletion
