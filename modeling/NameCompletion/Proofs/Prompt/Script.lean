import NameCompletion.Proofs.Prompt.Line

/-!
# Scripts

A script is a list of lines that are typed at the prompt one after the other.  A line changes
something only if it succeeds in binding or unbinding a name, and then it changes the bindings of
the main module and nothing else.  All other lines could as well be left out.

* `performAll`: what comes of all lines of a script.
* `loop`: what the prompt itself does, which passes over blank lines and ends where it is told to.
* `script_effects`: what a script does, with a main module and without.
-/

namespace NameCompletion.Prompt

/-! ## Performing lines -/

/-- Performs lines one after the other. -/
def performAll (session : Session) (s : Store) : List String → List Outcome × Store
  | [] => ([], s)
  | line :: rest =>
    let (outcome, s) := perform session s line
    let (outcomes, s) := performAll session s rest
    (outcome :: outcomes, s)

/-- The replies of the prompt to lines, up to the one that ends it, and the store it leaves. -/
def loop (session : Session) (s : Store) : List String → List Reply × Store
  | [] => ([], s)
  | line :: rest =>
    match respond session s line with
    | (.stop, s) => ([.stop], s)
    | (reply, s) =>
      let (replies, s) := loop session s rest
      (reply :: replies, s)

section

variable {session : Session} {s s' : Store} {m : Module} {line : String}

theorem performAll_cons (session : Session) (s : Store) (line : String) (rest : List String) :
    performAll session s (line :: rest) =
      ((perform session s line).1 :: (performAll session (perform session s line).2 rest).1,
        (performAll session (perform session s line).2 rest).2) :=
  rfl

theorem loop_cons_of_stop {rest : List String} (h : (respond session s line).1 = .stop) :
    loop session s (line :: rest) = ([.stop], (respond session s line).2) := by
  rw [loop]
  generalize respond session s line = replied at h
  obtain ⟨reply, s⟩ := replied
  obtain rfl : reply = .stop := h
  rfl

theorem loop_cons_of_ne_stop {rest : List String} (h : (respond session s line).1 ≠ .stop) :
    loop session s (line :: rest) =
      ((respond session s line).1 :: (loop session (respond session s line).2 rest).1,
        (loop session (respond session s line).2 rest).2) := by
  rw [loop]
  generalize respond session s line = replied at h
  obtain ⟨reply, s⟩ := replied
  cases reply with
  | stop => exact absurd rfl h
  | _ => rfl

/-- The loop gives the replies of the prompt. -/
theorem respondAll_eq (session : Session) (s : Store) (lines : List String) :
    respondAll session s lines = (loop session s lines).1 := by
  induction lines generalizing s with
  | nil => rfl
  | cons line rest ih =>
    rw [respondAll, loop]
    generalize respond session s line = replied
    obtain ⟨reply, s⟩ := replied
    cases reply with
    | stop => rfl
    | print text => exact congrArg _ (ih s)
    | report error => exact congrArg _ (ih s)

/-! ## All lines of a script -/

/-- Without a main module nothing happens to the cells that are there. -/
theorem extends_performAll (hmissing : session.WithoutMain s) (lines : List String) :
    s.Extends (performAll session s lines).2 := by
  induction lines generalizing s with
  | nil => exact .refl s
  | cons line rest ih =>
    have hline := extends_perform hmissing line
    exact hline.trans (ih (hmissing.of_extends hline))

/-- A script changes no cell but that of the main module. -/
theorem extendsBut_performAll (hmain : session.WithMain s m) (lines : List String) :
    s.ExtendsBut m.scope (performAll session s lines).2 := by
  induction lines generalizing s with
  | nil => exact (Store.Extends.refl s).extendsBut _
  | cons line rest ih =>
    have hline := extendsBut_perform hmain line
    exact hline.trans (ih (hmain.of_extendsBut hline))

/-- The final bindings are the initial ones with the changes made in order. -/
theorem scope_performAll (hmain : session.WithMain s m) (lines : List String) :
    (performAll session s lines).2.scope m.scope =
      ((performAll session s lines).1.filterMap Outcome.change?).foldl Change.apply
        (s.scope m.scope) := by
  induction lines generalizing s with
  | nil => rfl
  | cons line rest ih =>
    have hrest := ih (hmain.of_extendsBut (extendsBut_perform hmain line))
    rw [scope_perform hmain line, ← List.foldl_append] at hrest
    have hchanges : (performAll session s (line :: rest)).1.filterMap Outcome.change? =
        (perform session s line).1.change?.toList ++
          (performAll session (perform session s line).2 rest).1.filterMap Outcome.change? := by
      rw [performAll_cons, List.filterMap_cons]
      cases (perform session s line).1.change? <;> rfl
    rw [hchanges]
    exact hrest

/-- The elements that are not marked by `false`. -/
def kept {α : Type} : List Bool → List α → List α
  | _, [] => []
  | [], xs => xs
  | true :: marks, x :: xs => x :: kept marks xs
  | false :: marks, _ :: xs => kept marks xs

/-- Lines that make no change can be left out. -/
theorem performAll_kept (hmain : session.WithMain s m) (lines : List String) (marks : List Bool)
    (hidle : ∀ i : Nat, marks[i]? = some false → ∀ outcome,
      (performAll session s lines).1[i]? = some outcome → outcome.change? = none) :
    performAll session s (kept marks lines) =
      (kept marks (performAll session s lines).1, (performAll session s lines).2) := by
  induction lines generalizing s marks with
  | nil => cases marks <;> rfl
  | cons line rest ih =>
    have hrest := ih (hmain.of_extendsBut (extendsBut_perform hmain line))
    match marks with
    | [] => rfl
    | true :: marks =>
      rw [kept, performAll_cons, performAll_cons, hrest marks fun i hi => hidle (i + 1) hi, kept]
    | false :: marks =>
      have hsame : (perform session s line).2 = s :=
        perform_store_eq hmain (hidle 0 rfl _ rfl)
      have hkept := hrest marks fun i hi => hidle (i + 1) hi
      rw [kept, performAll_cons, kept]
      rw [hsame] at hkept ⊢
      exact hkept

/-! ## The prompt itself -/

/-- Nothing that follows the command to end the prompt has an effect. -/
theorem loop_of_isQuit (h : IsQuit line) (session : Session) (s : Store)
    (front rest : List String) :
    loop session s (front ++ line :: rest) = loop session s (front ++ [line]) := by
  induction front generalizing s with
  | nil =>
    have hstop : (respond session s line).1 = .stop := by rw [respond_of_isQuit h]
    rw [List.nil_append, List.nil_append, loop_cons_of_stop hstop, loop_cons_of_stop hstop]
  | cons first front ih =>
    rw [List.cons_append, List.cons_append]
    by_cases hstop : (respond session s first).1 = .stop
    · rw [loop_cons_of_stop hstop, loop_cons_of_stop hstop]
    · rw [loop_cons_of_ne_stop hstop, loop_cons_of_ne_stop hstop, ih]

/-- The reply to a line of which something has come. -/
def replyTo (line : String) (outcome : Outcome) : Reply :=
  if Text.isBlankLine line then .print "" else outcome.reply

/-- Until it is to end, the prompt performs the lines and replies to what comes of them. -/
theorem loop_eq_performAll (session : Session) (s : Store) (lines : List String)
    (h : ∀ line ∈ lines, ¬ IsQuit line) :
    loop session s lines =
      (List.zipWith replyTo lines (performAll session s lines).1,
        (performAll session s lines).2) := by
  induction lines generalizing s with
  | nil => rfl
  | cons line rest ih =>
    have hgoes : (respond session s line).1 ≠ .stop := fun hstop =>
      h line List.mem_cons_self (isQuit_of_stop hstop)
    have hrespond : respond session s line =
        (replyTo line (perform session s line).1, (perform session s line).2) := by
      rw [respond_eq, replyTo]
      split
      · next hblank => rw [perform_of_read_error (readCommand_of_blank hblank)]
      · rfl
    rw [loop_cons_of_ne_stop hgoes, hrespond,
      ih _ fun line hline => h line (List.mem_cons_of_mem _ hline), performAll_cons,
      List.zipWith_cons_cons]

end

/-! ## The main result -/

/-- What a script does if there is a main module. -/
structure ChangesMainOnly (session : Session) (s : Store) (m : Module) (lines : List String)
    (outcomes : List Outcome) (after : Store) : Prop where
  /-- The bindings are the initial ones with the changes made in order. -/
  bindings : after.scope m.scope =
    (outcomes.filterMap Outcome.change?).foldl Change.apply (s.scope m.scope)
  main : session.WithMain after m
  builtins : after.scope session.builtins = s.scope session.builtins
  /-- Names are completed with the initial builtins and the options of the session. -/
  completions : ∀ text, session.completions after text = .ok (Completer.complete
    { store := after
      globals := after.scope m.scope
      builtins := some (s.scope session.builtins)
      options := session.options } text)
  /-- No cell changes but that of the main module. -/
  others : s.ExtendsBut m.scope after
  /-- A line that makes no change leaves everything as it was before it. -/
  idle : ∀ front line rest, lines = front ++ line :: rest →
    let before := (performAll session s front).2
    (perform session before line).1.change? = none → (perform session before line).2 = before
  /-- To leave out lines that make no change makes no difference to the others. -/
  leaveOut : ∀ marks : List Bool, (∀ i : Nat, marks[i]? = some false → ∀ outcome,
      outcomes[i]? = some outcome → outcome.change? = none) →
    performAll session s (kept marks lines) = (kept marks outcomes, after)

/-- What a script does if there is no main module. -/
structure ChangesNothing (session : Session) (s : Store) (lines : List String) (after : Store) :
    Prop where
  missing : session.WithoutMain after
  /-- Values that were read are in new cells, to which nothing refers. -/
  cells : s.Extends after
  /-- Whatever needs a main module fails. -/
  fails : ∀ front line rest, lines = front ++ line :: rest →
    let before := (performAll session s front).2
    ∀ command s' e, readCommand before line = .ok (command, s') → missingMain? command = some e →
      perform session before line = (.failed (.session e), s')

/-- What the prompt does with the lines of a script. -/
structure EndsAtQuit (session : Session) (s : Store) (lines : List String) : Prop where
  /-- The lines behind the command to end have no effect. -/
  ends : ∀ front line rest, lines = front ++ line :: rest → IsQuit line →
    loop session s lines = loop session s (front ++ [line])
  /-- Without that command all lines are performed. -/
  performs : (∀ line ∈ lines, ¬ IsQuit line) → loop session s lines =
    (List.zipWith replyTo lines (performAll session s lines).1, (performAll session s lines).2)
  replies : respondAll session s lines = (loop session s lines).1

/-- With a main module, a script changes its bindings by the lines that bind or unbind a name, and
does nothing else; all other lines could be left out.  Without a main module it does nothing at all.
The prompt performs a script up to the command to end. -/
theorem script_effects (session : Session) (s : Store) (lines : List String) :
    (∀ m, session.WithMain s m → ChangesMainOnly session s m lines
      (performAll session s lines).1 (performAll session s lines).2) ∧
      (session.WithoutMain s → ChangesNothing session s lines (performAll session s lines).2) ∧
      EndsAtQuit session s lines := by
  refine ⟨fun m hmain => ?_, fun hmissing => ?_, ?_⟩
  · have hothers := extendsBut_performAll hmain lines
    have hmain' := hmain.of_extendsBut hothers
    have hbuiltins := hothers.scope_eq hmain.builtins_ne hmain.builtins_lt
    constructor
    case bindings => exact scope_performAll hmain lines
    case main => exact hmain'
    case builtins => exact hbuiltins
    case completions =>
      intro text
      rw [Session.completions_of_module? hmain'.registered, hbuiltins]
    case others => exact hothers
    case idle =>
      intro front line rest _ before
      exact perform_store_eq (hmain.of_extendsBut (extendsBut_performAll hmain front))
    case leaveOut => exact performAll_kept hmain lines
  · have hcells := extends_performAll hmissing lines
    constructor
    case missing => exact hmissing.of_extends hcells
    case cells => exact hcells
    case fails =>
      intro front line rest _ before command s' e
      exact perform_of_missing (hmissing.of_extends (extends_performAll hmissing front))
  · constructor
    case ends =>
      rintro front line rest rfl hquit
      exact loop_of_isQuit hquit session s front rest
    case performs => exact loop_eq_performAll session s lines
    case replies => exact respondAll_eq session s lines

/-- A session whose main module binds `x`. -/
def boundX : Session × Store :=
  let (session, s) := Session.create .empty
  (session, (s.bind ⟨1⟩ "x" .null).2)

/-- To unbind a name twice fails the second time, so that line can be left out, and a blank one too.
A session without a main module cannot unbind a name at all. -/
theorem second_deletion_left_out :
    boundX.1.WithMain boundX.2 ⟨mainModule, ⟨1⟩⟩ ∧
      (performAll boundX.1 boundX.2 (kept [true, false, false] ["del x", "del x", " ", ":names"]) =
        (kept [true, false, false]
            (performAll boundX.1 boundX.2 ["del x", "del x", " ", ":names"]).1,
          (performAll boundX.1 boundX.2 ["del x", "del x", " ", ":names"]).2)) ∧
      (Session.detached .empty).1.WithoutMain (Session.detached .empty).2 ∧
      perform (Session.detached .empty).1 (Session.detached .empty).2 "del x" =
        (.failed (.session (.moduleNotFound mainModule)), (Session.detached .empty).2) ∧
      loop boundX.1 boundX.2 [":q", "del x"] = loop boundX.1 boundX.2 [":q"] := by
  have hmain : boundX.1.WithMain boundX.2 ⟨mainModule, ⟨1⟩⟩ :=
    ⟨by decide +kernel, by decide +kernel, by decide +kernel, by decide +kernel⟩
  have hmissing : (Session.detached .empty).1.WithoutMain (Session.detached .empty).2 :=
    ⟨by decide +kernel, by decide +kernel, by decide +kernel⟩
  refine ⟨hmain, ?_, hmissing, ?_, ?_⟩
  · refine ((script_effects boundX.1 boundX.2 _).1 _ hmain).leaveOut _ ?_
    intro i hi outcome houtcome
    match i with
    | 0 => cases hi
    | 1 => cases houtcome; rfl
    | 2 => cases houtcome; rfl
    | n + 3 => cases hi
  · exact ((script_effects _ _ ["del x"]).2.1 hmissing).fails [] "del x" [] rfl _ _ _ rfl rfl
  · exact (script_effects _ _ [":q", "del x"]).2.2.ends [] ":q" ["del x"] rfl ⟨.empty, .empty, rfl⟩

end NameCompletion.Prompt
