import NameCompletion.Candidates

/-!
# Candidates that are taken one at a time

A host gets at the candidates of a request in several ways: as a list, by their positions, and
through iterators, which it can copy, put back and start over as it likes.  All of these come to the
same thing.  An iterator is a cursor in the list of all candidates.

* `Traversal`: what a host can ask of an iterator; `Candidates.traversal` answers from what remains
  of the candidates, `Traversal.ofCursor` from a position in the list of all of them.
* `Traversal.Action`, `Traversal.run`: any use of any number of iterators.
* `Traversal.Follows.run`: the one traversal follows the other through every use.
* `candidates_follow_cursors`: so do the candidates of a request follow their cursors.
-/

namespace NameCompletion

/-- How candidates are gone through; the state says how far one has come. -/
structure Traversal (σ : Type) where
  start : σ
  /-- The next candidate, and the state behind it. -/
  next : σ → Option String × σ
  /-- How many candidates remain. -/
  length : σ → Nat
  /-- The bounds of that number. -/
  sizeHint : σ → Nat × Option Nat
  /-- All candidates that remain, and the state behind them. -/
  takeAll : σ → List String × σ
  /-- The candidate at a position, counted from the start. -/
  candidateAt : Nat → Option String

/-- The candidates of a request are gone through by dropping those that were taken. -/
def Candidates.traversal (c : Completer) (text : String) : Traversal Candidates where
  start := .ofText c text
  next := next
  length := length
  sizeHint := sizeHint
  takeAll := takeAll
  candidateAt := c.completeAt text

namespace Traversal

/-- A list is gone through by a cursor: the position of the next candidate, which stays at the end
once it is there. -/
def ofCursor (all : List String) : Traversal Nat where
  start := 0
  next k := if k < all.length then (all[k]?, k + 1) else (none, k)
  length k := all.length - k
  sizeHint k := (all.length - k, some (all.length - k))
  takeAll k := (all.drop k, all.length)
  candidateAt position := all[position]?

section

variable {all : List String} {k : Nat}

theorem next_ofCursor_of_lt (h : k < all.length) : (ofCursor all).next k = (all[k]?, k + 1) :=
  if_pos h

theorem next_ofCursor_of_le (h : all.length ≤ k) : (ofCursor all).next k = (none, k) :=
  if_neg (Nat.not_lt.2 h)

end

/-! ## Using iterators -/

/-- What a host does.  It holds iterators and refers to each by its number; what it does to an
iterator that it does not hold has no effect. -/
inductive Action where
  | next (i : Nat)
  | length (i : Nat)
  | sizeHint (i : Nat)
  /-- Keeps a copy of the iterator, under the next number. -/
  | copy (i : Nat)
  /-- Goes on with a copy of another iterator. -/
  | resume (i kept : Nat)
  | restart (i : Nat)
  | takeAll (i : Nat)
  /-- Asks for the candidate at a position. -/
  | candidateAt (position : Nat)
  deriving DecidableEq, Repr

/-- What a host is answered. -/
inductive Answer where
  | candidate (found : Option String)
  | count (n : Nat)
  | bounds (least : Nat) (most : Option Nat)
  | candidates (all : List String)
  | nothing
  deriving DecidableEq, Repr

/-- The iterator that may be in another state after the action. -/
def Action.moves? : Action → Option Nat
  | next i | resume i _ | restart i | takeAll i => some i
  | length _ | sizeHint _ | copy _ | candidateAt _ => none

/-- The iterator that may have more candidates after the action. -/
def Action.rewinds? : Action → Option Nat
  | resume i _ | restart i => some i
  | next _ | takeAll _ | length _ | sizeHint _ | copy _ | candidateAt _ => none

section

variable {σ τ : Type}

/-- Uses an iterator, if the host holds it. -/
def withIterator (held : List σ) (i : Nat) (use : σ → Answer × List σ) : Answer × List σ :=
  match held[i]? with
  | some state => use state
  | none => (.nothing, held)

/-- The answer to an action, and the iterators after it. -/
def step (t : Traversal σ) (held : List σ) : Action → Answer × List σ
  | .next i => withIterator held i fun state =>
    (.candidate (t.next state).1, held.set i (t.next state).2)
  | .length i => withIterator held i fun state => (.count (t.length state), held)
  | .sizeHint i => withIterator held i fun state =>
    (.bounds (t.sizeHint state).1 (t.sizeHint state).2, held)
  | .copy i => withIterator held i fun state => (.nothing, held ++ [state])
  | .resume i kept => withIterator held kept fun state => (.nothing, held.set i state)
  | .restart i => (.nothing, held.set i t.start)
  | .takeAll i => withIterator held i fun state =>
    (.candidates (t.takeAll state).1, held.set i (t.takeAll state).2)
  | .candidateAt position => (.candidate (t.candidateAt position), held)

/-- The answers to some actions, and the iterators after them. -/
def run (t : Traversal σ) (held : List σ) : List Action → List Answer × List σ
  | [] => ([], held)
  | action :: rest =>
    let (answer, held) := t.step held action
    let (answers, held) := t.run held rest
    (answer :: answers, held)

/-- The answers to a host that starts with one iterator. -/
def answers (t : Traversal σ) (actions : List Action) : List Answer :=
  (t.run [t.start] actions).1

/-- The state of an iterator after some actions. -/
def state? (t : Traversal σ) (actions : List Action) (i : Nat) : Option σ :=
  (t.run [t.start] actions).2[i]?

/-! ## One traversal after another -/

/-- Whatever is asked of a state of the one traversal can be asked of a state of the other. -/
structure Follows (t : Traversal τ) (u : Traversal σ) (f : σ → τ) : Prop where
  start : t.start = f u.start
  next : ∀ state, t.next (f state) = ((u.next state).1, f (u.next state).2)
  length : ∀ state, t.length (f state) = u.length state
  sizeHint : ∀ state, t.sizeHint (f state) = u.sizeHint state
  takeAll : ∀ state, t.takeAll (f state) = ((u.takeAll state).1, f (u.takeAll state).2)
  candidateAt : ∀ position, t.candidateAt position = u.candidateAt position

variable {t : Traversal τ} {u : Traversal σ} {f : σ → τ}

theorem withIterator_map {held : List σ} {i : Nat} {use : σ → Answer × List σ}
    {use' : τ → Answer × List τ}
    (h : ∀ state, use' (f state) = ((use state).1, (use state).2.map f)) :
    withIterator (held.map f) i use' =
      ((withIterator held i use).1, (withIterator held i use).2.map f) := by
  unfold withIterator
  rw [List.getElem?_map]
  cases held[i]? with
  | none => rfl
  | some state => exact h state

/-- One action. -/
theorem Follows.step (h : Follows t u f) (held : List σ) (action : Action) :
    t.step (held.map f) action = ((u.step held action).1, (u.step held action).2.map f) := by
  cases action with
  | next i =>
    refine withIterator_map fun state => ?_
    rw [h.next, List.map_set]
  | length i =>
    refine withIterator_map fun state => ?_
    rw [h.length]
  | sizeHint i =>
    refine withIterator_map fun state => ?_
    rw [h.sizeHint]
  | copy i =>
    refine withIterator_map fun state => ?_
    rw [List.map_append, List.map_singleton]
  | resume i kept =>
    refine withIterator_map fun state => ?_
    rw [List.map_set]
  | restart i =>
    simp only [Traversal.step, h.start, List.map_set]
  | takeAll i =>
    refine withIterator_map fun state => ?_
    rw [h.takeAll, List.map_set]
  | candidateAt position =>
    simp only [Traversal.step, h.candidateAt]

/-- Any number of actions. -/
theorem Follows.run (h : Follows t u f) (held : List σ) (actions : List Action) :
    t.run (held.map f) actions = ((u.run held actions).1, (u.run held actions).2.map f) := by
  induction actions generalizing held with
  | nil => rfl
  | cons action rest ih => simp only [Traversal.run, h.step, ih]

theorem Follows.answers (h : Follows t u f) (actions : List Action) :
    t.answers actions = u.answers actions := by
  have hrun := h.run [u.start] actions
  rw [List.map_singleton, ← h.start] at hrun
  rw [Traversal.answers, hrun, Traversal.answers]

theorem Follows.state? (h : Follows t u f) (actions : List Action) (i : Nat) :
    t.state? actions i = (u.state? actions i).map f := by
  have hrun := h.run [u.start] actions
  rw [List.map_singleton, ← h.start] at hrun
  rw [Traversal.state?, hrun, List.getElem?_map, Traversal.state?]

/-! ## What becomes of an iterator -/

/-- What every action keeps, a run keeps. -/
theorem run_induction (Inv : List σ → Prop) {actions : List Action}
    (hstep : ∀ action ∈ actions, ∀ held, Inv held → Inv (u.step held action).2) {held : List σ}
    (h : Inv held) : Inv (u.run held actions).2 := by
  induction actions generalizing held with
  | nil => exact h
  | cons action rest ih =>
    have hfirst := hstep action List.mem_cons_self held h
    exact ih (fun a ha => hstep a (List.mem_cons_of_mem _ ha)) hfirst

theorem run_append (u : Traversal σ) (held : List σ) (before after : List Action) :
    (u.run held (before ++ after)).2 = (u.run (u.run held before).2 after).2 := by
  induction before generalizing held with
  | nil => rfl
  | cons action rest ih => exact ih _

theorem withIterator_keeps (Inv : List σ → Prop) {held : List σ} {i : Nat}
    {use : σ → Answer × List σ} (h : Inv held)
    (huse : ∀ state, held[i]? = some state → Inv (use state).2) :
    Inv (withIterator held i use).2 := by
  unfold withIterator
  split
  · next state hstate => exact huse state hstate
  · exact h

/-- An action on other iterators leaves an iterator as it is. -/
theorem getElem?_step_of_moves {action : Action} {i : Nat} (hother : action.moves? ≠ some i)
    {held : List σ} {state : σ} (h : held[i]? = some state) :
    (u.step held action).2[i]? = some state := by
  have hset : ∀ {j : Nat} (other : σ), some j ≠ some i → (held.set j other)[i]? = some state := by
    intro j other hne
    rw [List.getElem?_set_ne fun hji => hne (congrArg some hji), h]
  cases action with
  | next j | takeAll j =>
    exact withIterator_keeps (·[i]? = some state) h fun other _ => hset _ hother
  | resume j kept =>
    exact withIterator_keeps (·[i]? = some state) h fun other _ => hset _ hother
  | restart j => exact hset _ hother
  | length j | sizeHint j =>
    exact withIterator_keeps (·[i]? = some state) h fun _ _ => h
  | copy j =>
    refine withIterator_keeps (·[i]? = some state) h fun other _ => ?_
    have hlt := (List.getElem?_eq_some_iff.1 h).1
    rw [List.getElem?_append_left hlt, h]
  | candidateAt position => exact h

/-! ## Cursors -/

section

variable {all : List String}

/-- A cursor that is at the end stays there until it is put back. -/
theorem getElem?_step_of_rewinds {action : Action} {i : Nat} (hforth : action.rewinds? ≠ some i)
    {held : List Nat} (h : held[i]? = some all.length) :
    ((ofCursor all).step held action).2[i]? = some all.length := by
  by_cases hmoves : action.moves? = some i
  · have hlt := (List.getElem?_eq_some_iff.1 h).1
    cases action with
    | next j =>
      obtain rfl : j = i := Option.some.inj hmoves
      refine withIterator_keeps (·[j]? = some all.length) h fun k hk => ?_
      obtain rfl : all.length = k := Option.some.inj (h.symm.trans hk)
      rw [List.getElem?_set_self hlt, next_ofCursor_of_le (Nat.le_refl _)]
    | takeAll j =>
      obtain rfl : j = i := Option.some.inj hmoves
      refine withIterator_keeps (·[j]? = some all.length) h fun k _ => ?_
      exact List.getElem?_set_self hlt
    | resume j kept | restart j => exact absurd hmoves hforth
    | length j | sizeHint j | copy j | candidateAt position => cases hmoves
  · exact getElem?_step_of_moves hmoves h

/-- Cursors do not pass the end. -/
theorem le_length_of_mem_step {held : List Nat} (h : ∀ k ∈ held, k ≤ all.length) (action : Action) :
    ∀ k ∈ ((ofCursor all).step held action).2, k ≤ all.length := by
  have hset : ∀ {j k : Nat}, k ≤ all.length → ∀ l ∈ held.set j k, l ≤ all.length := by
    intro j k hk l hl
    rcases List.mem_or_eq_of_mem_set hl with hl | rfl
    · exact h l hl
    · exact hk
  cases action with
  | next j =>
    refine withIterator_keeps (∀ k ∈ ·, k ≤ all.length) h fun k hk => hset ?_
    rcases Nat.lt_or_ge k all.length with hlt | hge
    · rw [next_ofCursor_of_lt hlt]
      exact hlt
    · rw [next_ofCursor_of_le hge]
      exact h k (List.mem_of_getElem? hk)
  | takeAll j =>
    refine withIterator_keeps (∀ k ∈ ·, k ≤ all.length) h fun k _ => hset ?_
    exact Nat.le_refl _
  | resume j kept =>
    refine withIterator_keeps (∀ k ∈ ·, k ≤ all.length) h fun k hk => hset ?_
    exact h k (List.mem_of_getElem? hk)
  | restart j => exact hset (Nat.zero_le _)
  | length j | sizeHint j =>
    exact withIterator_keeps (∀ k ∈ ·, k ≤ all.length) h fun _ _ => h
  | copy j =>
    refine withIterator_keeps (∀ k ∈ ·, k ≤ all.length) h fun k hk => ?_
    refine List.forall_mem_append.2 ⟨h, List.forall_mem_singleton.2 ?_⟩
    exact h k (List.mem_of_getElem? hk)
  | candidateAt position => exact h

end

end

end Traversal

/-! ## The main result -/

open Traversal

/-- The candidates that remain behind a cursor. -/
theorem Candidates.traversal_follows (c : Completer) (text : String) :
    (Candidates.traversal c text).Follows (ofCursor (c.complete text))
      fun k => ⟨(c.complete text).drop k⟩ where
  start := rfl
  next k := by
    rcases Nat.lt_or_ge k (c.complete text).length with hlt | hge
    · rw [next_ofCursor_of_lt hlt, List.drop_eq_getElem_cons hlt, List.getElem?_eq_getElem hlt]
      rfl
    · rw [next_ofCursor_of_le hge, List.drop_eq_nil_of_le hge]
      rfl
  length k := List.length_drop
  sizeHint k := by simp only [traversal, ofCursor, sizeHint, length, List.length_drop]
  takeAll k := by simp only [traversal, ofCursor, takeAll, List.drop_length]
  candidateAt _ := rfl

/-- The iterators of a request behave as cursors in the list of its candidates. -/
structure Completer.TakenByCursor (c : Completer) (text : String) : Prop where
  /-- Every use of iterators is answered as the same use of cursors. -/
  answers : ∀ actions, (Candidates.traversal c text).answers actions =
    (ofCursor (c.complete text)).answers actions
  /-- An iterator holds the candidates from its cursor on. -/
  remaining : ∀ actions i, (Candidates.traversal c text).state? actions i =
    ((ofCursor (c.complete text)).state? actions i).map fun k => ⟨(c.complete text).drop k⟩
  inRange : ∀ actions i k, (ofCursor (c.complete text)).state? actions i = some k →
    k ≤ (c.complete text).length
  /-- What is done to other iterators does not matter. -/
  kept : ∀ before after i k, (ofCursor (c.complete text)).state? before i = some k →
    (∀ action ∈ after, action.moves? ≠ some i) →
    (ofCursor (c.complete text)).state? (before ++ after) i = some k
  /-- An iterator that has come to the end stays there until it is put back. -/
  exhausted : ∀ before after i,
    (ofCursor (c.complete text)).state? before i = some (c.complete text).length →
    (∀ action ∈ after, action.rewinds? ≠ some i) →
    (ofCursor (c.complete text)).state? (before ++ after) i = some (c.complete text).length

theorem candidates_follow_cursors (c : Completer) (text : String) : c.TakenByCursor text where
  answers := (Candidates.traversal_follows c text).answers
  remaining := (Candidates.traversal_follows c text).state?
  inRange actions i k h := by
    exact run_induction (u := ofCursor (c.complete text)) (∀ k ∈ ·, k ≤ (c.complete text).length)
      (fun action _ held hheld => le_length_of_mem_step hheld action)
      (List.forall_mem_singleton.2 (Nat.zero_le _)) k (List.mem_of_getElem? h)
  kept before after i k h hafter := by
    rw [Traversal.state?, run_append]
    refine run_induction (·[i]? = some k) (fun action haction held hheld => ?_) h
    exact getElem?_step_of_moves (hafter action haction) hheld
  exhausted before after i h hafter := by
    rw [Traversal.state?, run_append]
    refine run_induction (·[i]? = some (c.complete text).length)
      (fun action haction held hheld => ?_) h
    exact getElem?_step_of_rewinds (hafter action haction) hheld

/-- An iterator that is copied, used up and put back gives what the copy still has. -/
example :
    (ofCursor ["a", "b"]).answers
        [.next 0, .copy 0, .next 0, .next 0, .resume 0 1, .next 0, .length 1] =
      [.candidate (some "a"), .nothing, .candidate (some "b"), .candidate none, .nothing,
        .candidate (some "b"), .count 1] := by
  decide

end NameCompletion
