/-!
# Cells

A `Cells` value holds the contents of the shared cells of one kind.  A `Ref` names one of them,
and two names are the same cell exactly when they are equal.  Cells are never released, so a fresh
reference is one past the last cell, and a reference that was handed out stays valid.

`read?_alloc`, `read?_write_self` and `read?_write_of_ne` say what allocating and writing do to
reading; no other lemma has to unfold these functions.
-/

namespace NameCompletion

/-- What a cell holds. -/
inductive CellKind where
  | vector
  | scope
  | classObject
  | host
  | registry
  deriving DecidableEq, Repr

/-- The name of a cell of one kind. -/
structure Ref (kind : CellKind) where
  index : Nat
  deriving DecidableEq, Repr

/-- The contents of all cells of one kind. -/
structure Cells (kind : CellKind) (α : Type) where
  contents : Array α := #[]

namespace Cells

variable {kind : CellKind} {α : Type}

/-- How many cells there are. -/
def size (cells : Cells kind α) : Nat :=
  cells.contents.size

/-- The contents of a cell. -/
def read? (cells : Cells kind α) (r : Ref kind) : Option α :=
  cells.contents[r.index]?

/-- The reference of the next cell. -/
def fresh (cells : Cells kind α) : Ref kind :=
  ⟨cells.size⟩

/-- A further cell, which `fresh` names. -/
def alloc (cells : Cells kind α) (x : α) : Cells kind α where
  contents := cells.contents.push x

/-- Replaces the contents of a cell. -/
def write (cells : Cells kind α) (r : Ref kind) (x : α) : Cells kind α where
  contents := cells.contents.setIfInBounds r.index x

theorem read?_alloc (cells : Cells kind α) (x : α) (r : Ref kind) :
    (cells.alloc x).read? r = if r = cells.fresh then some x else cells.read? r := by
  obtain ⟨i⟩ := r
  simp only [alloc, read?, fresh, size, Array.getElem?_push, Ref.mk.injEq]

theorem read?_write_self {cells : Cells kind α} {r : Ref kind} (h : r.index < cells.size) (x : α) :
    (cells.write r x).read? r = some x := by
  simp only [write, read?, Array.getElem?_setIfInBounds_self]
  exact if_pos h

theorem read?_write_of_ne (cells : Cells kind α) {r other : Ref kind} (h : other ≠ r) (x : α) :
    (cells.write r x).read? other = cells.read? other := by
  have hne : r.index ≠ other.index := fun heq => h (congrArg Ref.mk heq.symm)
  simp only [write, read?, Array.getElem?_setIfInBounds_ne hne]

@[simp] theorem size_write (cells : Cells kind α) (r : Ref kind) (x : α) :
    (cells.write r x).size = cells.size := by
  simp [write, size]

theorem index_lt_of_read? {cells : Cells kind α} {r : Ref kind} {x : α}
    (h : cells.read? r = some x) : r.index < cells.size :=
  (Array.getElem?_eq_some_iff.1 h).1

end Cells

end NameCompletion
