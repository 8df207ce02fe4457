import NameCompletion.Proofs.Bindings
import NameCompletion.Proofs.Text.ByteOrder

/-!
# Bindings after a history

Bindings that start empty go through operations of any kind, in any order and with repeated names.
What they are afterwards is told by the history alone: a name is bound to a value if it was bound to
it and nothing that happened later concerns the name.

* `Event`, `LastBound`: a history taken apart, so that it happens to one name at a time.
* `get?_apply_iff`, `get?_foldl_apply`: what is found after one event, and after any number of them.
* `bindings_follow_history`: what is listed, found and given back follows the history.
-/

namespace NameCompletion.Bindings

variable {α : Type}

/-! ## What happens to names -/

/-- What happens to one name, or to all of them. -/
inductive Event (α : Type) where
  | bound (name : String) (value : α)
  | unbound (name : String)
  | discarded

/-- Whether what the name is bound to is settled by the event. -/
def Event.Concerns : Event α → String → Prop
  | bound other _, name | unbound other, name => other = name
  | discarded, _ => True

/-- The bindings after an event. -/
def Event.apply (b : Bindings α) : Event α → Bindings α
  | bound name value => b.insert name value
  | unbound name => b.erase name
  | discarded => ∅

/-- What happens in an operation. -/
def Operation.events : Operation α → List (Event α)
  | insert name value | add name value => [.bound name value]
  | remove name => [.unbound name]
  | extend pairs => pairs.map fun p => .bound p.1 p.2
  | collect pairs => .discarded :: pairs.map fun p => .bound p.1 p.2

/-- What happens in a history. -/
def events (history : List (Operation α)) : List (Event α) :=
  history.flatMap Operation.events

/-- The name was bound to the value, and nothing that happened later concerns the name. -/
def LastBound (happened : List (Event α)) (name : String) (value : α) : Prop :=
  ∃ earlier later, happened = earlier ++ .bound name value :: later ∧
    ∀ e ∈ later, ¬ e.Concerns name

section

variable {happened : List (Event α)} {e : Event α} {name : String} {value : α}

/-- The latest event settles the names that it concerns, and does not matter to the others. -/
theorem lastBound_concat_iff :
    LastBound (happened ++ [e]) name value ↔
      e = .bound name value ∨ ¬ e.Concerns name ∧ LastBound happened name value := by
  constructor
  · rintro ⟨earlier, later, heq, hlater⟩
    rcases List.eq_nil_or_concat later with rfl | ⟨init, last, rfl⟩
    · left
      exact List.head_eq_of_cons_eq (List.append_inj_right' heq rfl)
    · right
      rw [List.concat_eq_append, ← List.cons_append, ← List.append_assoc] at heq
      obtain ⟨hhappened, hlast⟩ := List.append_inj' heq rfl
      obtain rfl := List.head_eq_of_cons_eq hlast
      refine ⟨hlater e (by simp), earlier, init, hhappened, fun e' he' => hlater e' ?_⟩
      simp [he']
  · rintro (rfl | ⟨hother, earlier, later, rfl, hlater⟩)
    · exact ⟨happened, [], rfl, fun e he => absurd he List.not_mem_nil⟩
    · refine ⟨earlier, later ++ [e], by simp, ?_⟩
      exact List.forall_mem_append.2 ⟨hlater, List.forall_mem_singleton.2 hother⟩

/-! ## Events and operations -/

/-- So it is with what is found after the event. -/
theorem get?_apply_iff (b : Bindings α) :
    (e.apply b).get? name = some value ↔
      e = .bound name value ∨ ¬ e.Concerns name ∧ b.get? name = some value := by
  cases e with
  | bound other v =>
    rw [Event.apply, get?_insert]
    by_cases h : name = other
    · simp [Event.Concerns, h]
    · simp [Event.Concerns, h, Ne.symm h]
  | unbound other =>
    rw [Event.apply, get?_erase]
    by_cases h : name = other
    · simp [Event.Concerns, h]
    · simp [Event.Concerns, h, Ne.symm h]
  | discarded =>
    show (∅ : Bindings α).get? name = some value ↔ _
    exact ⟨nofun, fun h => h.elim nofun fun h => absurd trivial h.1⟩

/-- What is found after some events is what the name was last bound to. -/
theorem get?_foldl_apply :
    (happened.foldl Event.apply ∅).get? name = some value ↔ LastBound happened name value := by
  -- From the latest event back: either it settles the name, or it can be left out.
  induction happened using List.reverseRecOn with
  | nil =>
    refine ⟨nofun, ?_⟩
    rintro ⟨earlier, later, heq, _⟩
    simp at heq
  | append_singleton happened e ih =>
    rw [List.foldl_append, List.foldl_cons, List.foldl_nil, get?_apply_iff, ih,
      lastBound_concat_iff]

end

theorem extend_eq (b : Bindings α) (pairs : List (String × α)) :
    b.extend pairs = (pairs.map fun p => Event.bound p.1 p.2).foldl Event.apply b := by
  rw [List.foldl_map]
  rfl

/-- An operation comes to what happens in it. -/
theorem perform_eq (b : Bindings α) (operation : Operation α) :
    (b.perform operation).2 = operation.events.foldl Event.apply b := by
  cases operation with
  | insert name value | add name value => rfl
  | remove name => rfl
  | extend pairs => exact extend_eq b pairs
  | collect pairs => exact extend_eq ∅ pairs

/-! ## Histories -/

/-- What some operations give back, and the bindings after them. -/
def run (b : Bindings α) : List (Operation α) → List (Option α) × Bindings α
  | [] => ([], b)
  | operation :: rest =>
    let (answer, b) := b.perform operation
    let (answers, b) := b.run rest
    (answer :: answers, b)

/-- The bindings after a history that starts without any. -/
def after (history : List (Operation α)) : Bindings α :=
  (run ∅ history).2

/-- What the operations of a history give back. -/
def answers (history : List (Operation α)) : List (Option α) :=
  (run ∅ history).1

theorem run_append (b : Bindings α) (before later : List (Operation α)) :
    b.run (before ++ later) =
      ((b.run before).1 ++ ((b.run before).2.run later).1, ((b.run before).2.run later).2) := by
  induction before generalizing b with
  | nil => rfl
  | cons operation rest ih => simp only [List.cons_append, run, ih]

theorem length_run (b : Bindings α) (history : List (Operation α)) :
    (b.run history).1.length = history.length := by
  induction history generalizing b with
  | nil => rfl
  | cons operation rest ih => simp only [run, List.length_cons, ih]

/-- A run comes to what happens in it. -/
theorem run_eq (b : Bindings α) (history : List (Operation α)) :
    (b.run history).2 = (events history).foldl Event.apply b := by
  induction history generalizing b with
  | nil => rfl
  | cons operation rest ih =>
    rw [events, List.flatMap_cons, List.foldl_append, ← perform_eq]
    exact ih _

theorem get?_after {history : List (Operation α)} {name : String} {value : α} :
    (after history).get? name = some value ↔ LastBound (events history) name value := by
  rw [after, run_eq, get?_foldl_apply]

theorem after_append (before later : List (Operation α)) :
    after (before ++ later) = ((after before).run later).2 := by
  rw [after, run_append, after]

/-- What an operation gives back depends on what was done before. -/
theorem getElem?_answers (before later : List (Operation α)) (operation : Operation α) :
    (answers (before ++ operation :: later))[before.length]? =
      some ((after before).perform operation).1 := by
  have hlength : (run ∅ before).1.length = before.length := length_run ∅ before
  rw [answers, run_append, List.getElem?_append_right (by omega), hlength, Nat.sub_self]
  rfl

/-! ## The main result -/

/-- What was found under a name is what it was last bound to. -/
def IsLast (happened : List (Event α)) (name : String) (found : Option α) : Prop :=
  ∀ value, found = some value ↔ LastBound happened name value

/-- Bindings after a history, and what its operations give back, are as the history tells it. -/
structure FollowHistory (history : List (Operation α)) : Prop where
  /-- The names are listed in strictly ascending order of their bytes. -/
  ascending : Text.ByteAscending (after history).names
  /-- The entries are listed under the same names in the same order. -/
  entries : (after history).toList.map Prod.fst = (after history).names
  /-- The entries are what the names were last bound to. -/
  mem_entries : ∀ name value, (name, value) ∈ (after history).toList ↔
    LastBound (events history) name value
  size : (after history).size = (after history).names.length
  found : ∀ name, IsLast (events history) name ((after history).get? name)
  contains : ∀ name, (after history).contains name = true ↔
    ∃ value, LastBound (events history) name value
  inserted : ∀ before name value later, history = before ++ .insert name value :: later →
    ∃ previous, (answers history)[before.length]? = some previous ∧
      IsLast (events before) name previous
  removed : ∀ before name later, history = before ++ .remove name :: later →
    ∃ previous, (answers history)[before.length]? = some previous ∧
      IsLast (events before) name previous
  /-- Pairs can be collected in two steps. -/
  collected : ∀ xs ys, after (history ++ [.collect (xs ++ ys)]) =
    after (history ++ [.collect xs, .extend ys])
  /-- Another history that binds the names alike leaves the same names and entries. -/
  alike : ∀ other, (∀ name value, LastBound (events history) name value ↔
      LastBound (events other) name value) →
    (after history).names = (after other).names ∧ (after history).toList = (after other).toList

theorem bindings_follow_history (history : List (Operation α)) : FollowHistory history where
  ascending := Text.byteAscending_iff.2 (after history).pairwise_names
  entries := rfl
  mem_entries name value := by rw [← get?_eq_some_iff, get?_after]
  size := (List.length_map ..).symm
  found name value := get?_after
  contains name := by
    rw [contains, Option.isSome_iff_exists]
    exact exists_congr fun value => get?_after
  inserted := by
    rintro before name value later rfl
    exact ⟨_, getElem?_answers before later _, fun value => get?_after⟩
  removed := by
    rintro before name later rfl
    exact ⟨_, getElem?_answers before later _, fun value => get?_after⟩
  collected xs ys := by
    rw [after_append, after_append]
    exact List.foldl_append ..
  alike other h := by
    have hsame : after history = after other := by
      refine ext_get? fun name => Option.ext fun value => ?_
      rw [get?_after, get?_after, h]
    rw [hsame]
    exact ⟨rfl, rfl⟩

/-- A name is bound twice, unbound, and bound twice again by the pairs that are collected. -/
example :
    Prod.map id toList (run ∅ [.insert "b" 1, .insert "b" 2, .remove "b", .add "c" 3,
        .collect [("b", 4), ("a", 5), ("b", 6)]]) =
      ([none, some 1, some 2, none, none], [("a", 5), ("b", 6)]) := by
  rfl

end NameCompletion.Bindings
