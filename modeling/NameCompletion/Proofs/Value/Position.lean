import NameCompletion.Proofs.Store.Writing
import NameCompletion.Proofs.Value.Parts
import NameCompletion.Value.Display
import NameCompletion.Value.Members

/-!
# Positions in values

A position leads from a value to a part of it, step by step: to an element of a vector, to what is
bound to a name, to a base of a class or to the class of an instance (`Value.at?`).  The positions
of a namespace start with one of its names (`Namespace.at?`).

What is read of a value depends on its own cell and on the classes only (`readsAlike_of_agreeBut`),
so after a change of one cell, what is found at a position is the same, unless the way to it goes
through that cell (`at?_eq_of_agreeBut`).
-/

namespace NameCompletion

/-- A step from a value to one of its parts. -/
inductive Step where
  /-- What is bound to a name in a record, a module, a class or an instance. -/
  | name (n : String)
  /-- An element of a vector. -/
  | element (i : Nat)
  /-- A base of a class. -/
  | base (i : Nat)
  /-- The class of an instance. -/
  | classOf
  deriving DecidableEq, Repr

namespace Value

/-- The part that a step leads to. -/
def child? (s : Store) : Value → Step → Option Value
  | vector r, .element i => (s.vector r)[i]?
  | record r, .name n => (s.scope r).get? n
  | module m, .name n => (s.scope m.scope).get? n
  | classObject c, .name n => (s.classes.members c).get? n
  | classObject c, .base i => (s.classes.bases c)[i]?.map classObject
  | instanceObject i, .name n => (s.scope i.fields).get? n
  | instanceObject i, .classOf => some (classObject i.classRef)
  | _, _ => none

/-- What is found at a position. -/
def at? (s : Store) (v : Value) : List Step → Option Value
  | [] => some v
  | step :: rest => (v.child? s step).bind fun part => part.at? s rest

end Value

/-- What is found at a position; the first step is one of the names. -/
def Namespace.at? (s : Store) (names : Namespace) : List Step → Option Value
  | .name n :: rest => (names.get? n).bind fun v => v.at? s rest
  | _ => none

namespace Value

/-- Everything that can be read of the value itself is the same in both stores. -/
structure ReadsAlike (s now : Store) (v : Value) : Prop where
  memberNames : v.memberNames now = v.memberNames s
  member : ∀ name, v.member now name = v.member s name
  isCallable : v.isCallable now = v.isCallable s
  typeName : v.typeName now = v.typeName s
  display : v.display now = v.display s
  parts : v.parts now = v.parts s
  child? : ∀ step, v.child? now step = v.child? s step

variable {s now : Store} {cell : Cell} {v : Value}

/-- What is read of a value that is in another cell stays the same. -/
theorem readsAlike_of_agreeBut (h : s.AgreeBut cell now) (hv : v.cell? ≠ some cell) :
    v.ReadsAlike s now := by
  have hvector : ∀ r, v = .vector r → now.vector r = s.vector r := by
    rintro r rfl
    exact h.vectors r fun heq => hv (congrArg some heq)
  have hscope : ∀ r, v.cell? = some (.scope r) → now.scope r = s.scope r := by
    intro r hr
    exact h.scopes r fun heq => hv (hr.trans (congrArg some heq))
  have hhost : ∀ object, now.host object = s.host object := by
    intro object
    rw [Store.host, Store.host, h.hosts]
  cases v with
  | null | number | text | function =>
    exact ⟨rfl, fun _ => rfl, rfl, rfl, rfl, rfl, fun _ => rfl⟩
  | boolean b => exact ⟨rfl, fun _ => rfl, rfl, rfl, by cases b <;> rfl, rfl, fun _ => rfl⟩
  | vector r =>
    have heq := hvector r rfl
    refine ⟨rfl, fun _ => rfl, rfl, rfl, ?_, heq, fun step => ?_⟩
    · rw [display, display, heq]
    · cases step <;> simp only [child?, heq]
  | record r =>
    have heq := hscope r rfl
    refine ⟨?_, fun name => ?_, rfl, rfl, ?_, ?_, fun step => ?_⟩
    · rw [memberNames, memberNames, heq]
    · rw [member, member, heq]
    · rw [display, display, heq]
    · rw [Value.parts, Value.parts, heq]
    · cases step <;> simp only [child?, heq]
  | module m =>
    have heq := hscope m.scope rfl
    refine ⟨?_, fun name => ?_, rfl, rfl, rfl, ?_, fun step => ?_⟩
    · rw [memberNames, memberNames, heq]
    · rw [member, member, heq]
    · rw [Value.parts, Value.parts, heq]
    · cases step <;> simp only [child?, heq]
  | classObject c =>
    refine ⟨?_, fun name => ?_, rfl, rfl, ?_, ?_, fun step => ?_⟩
    · rw [memberNames, memberNames, h.classes]
    · rw [member, member, h.classes]
    · rw [display, display, h.classes]
    · rw [Value.parts, Value.parts, h.classes]
    · cases step <;> simp only [child?, h.classes]
  | instanceObject i =>
    have heq := hscope i.fields rfl
    refine ⟨?_, fun name => ?_, rfl, ?_, ?_, ?_, fun step => ?_⟩
    · rw [memberNames, memberNames, heq, h.classes]
    · rw [member, member, heq, h.classes]
    · rw [typeName, typeName, h.classes]
    · rw [display, display, h.classes]
    · rw [Value.parts, Value.parts, heq]
    · cases step <;> simp only [child?, heq]
  | hostObject object =>
    have heq := hhost object
    refine ⟨?_, fun name => ?_, ?_, rfl, rfl, rfl, fun _ => rfl⟩
    · rw [memberNames, memberNames, heq]
    · rw [member, member, heq]
    · rw [isCallable, isCallable, heq]

/-- Whether a value can be called never changes. -/
theorem isCallable_of_agreeBut (h : s.AgreeBut cell now) (v : Value) :
    v.isCallable now = v.isCallable s := by
  cases v with
  | hostObject object => rw [isCallable, isCallable, Store.host, Store.host, h.hosts]
  | _ => rfl

/-- What is found at a position stays the same, unless the way to it goes through the cell. -/
theorem at?_eq_of_agreeBut (h : s.AgreeBut cell now) {steps : List Step}
    (haway : ∀ front step rest, steps = front ++ step :: rest → ∀ x, v.at? s front = some x →
      x.cell? ≠ some cell) : v.at? now steps = v.at? s steps := by
  induction steps generalizing v with
  | nil => rfl
  | cons step rest ih =>
    have hself : v.cell? ≠ some cell := haway [] step rest rfl v rfl
    rw [at?, at?, (readsAlike_of_agreeBut h hself).child? step]
    cases hpart : v.child? s step with
    | none => rfl
    | some part =>
      refine ih fun front step' rest' hrest x hx => ?_
      refine haway (step :: front) step' rest' (congrArg (step :: ·) hrest) x ?_
      rw [at?, hpart]
      exact hx

end Value

end NameCompletion
