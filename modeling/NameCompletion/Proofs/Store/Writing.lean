import NameCompletion.Store.Basic

/-!
# Changing one cell

What a program can do to a cell that is there: push and pop elements of a vector, put and drop names
of a scope (`Write`).  Everything else stays as it is (`Store.AgreeBut`), after one change
(`Write.agreeBut_apply`) and after any number of changes of the same cell (`agreeBut_foldl_apply`).
-/

namespace NameCompletion

/-- A cell that values refer to. -/
inductive Cell where
  | vector (r : VectorRef)
  | scope (r : ScopeRef)
  | classObject (c : ClassRef)
  | host (h : HostRef)
  deriving DecidableEq, Repr

/-- The cell is there. -/
def Cell.In (s : Store) : Cell → Prop
  | vector r => r.index < s.vectors.size
  | scope r => r.index < s.scopes.size
  | classObject c => c.index < s.classes.cells.size
  | host h => h.index < s.hosts.size

instance (s : Store) : DecidablePred (Cell.In s)
  | .vector r => inferInstanceAs (Decidable (r.index < s.vectors.size))
  | .scope r => inferInstanceAs (Decidable (r.index < s.scopes.size))
  | .classObject c => inferInstanceAs (Decidable (c.index < s.classes.cells.size))
  | .host h => inferInstanceAs (Decidable (h.index < s.hosts.size))

/-- The cell of a value that is not plain.  An instance has its own fields; its class is a value by
itself. -/
def Value.cell? : Value → Option Cell
  | vector r => some (.vector r)
  | record r => some (.scope r)
  | module m => some (.scope m.scope)
  | classObject c => some (.classObject c)
  | instanceObject i => some (.scope i.fields)
  | hostObject h => some (.host h)
  | _ => none

/-- A change of a vector, or of the bindings of a record, a module or an instance. -/
inductive Write where
  | push (r : VectorRef) (value : Value)
  | pop (r : VectorRef)
  | put (r : ScopeRef) (name : String) (value : Value)
  | drop (r : ScopeRef) (name : String)

namespace Write

/-- The cell that is changed. -/
def cell : Write → Cell
  | push r _ | pop r => .vector r
  | put r _ _ | drop r _ => .scope r

/-- The value that is written. -/
def value? : Write → Option Value
  | push _ value | put _ _ value => some value
  | pop _ | drop _ _ => none

/-- The store after the change. -/
def apply (s : Store) : Write → Store
  | push r value => (s.push r value).2
  | pop r => (s.pop r).2
  | put r name value => (s.bind r name value).2
  | drop r name => (s.unbind r name).2

end Write

section

variable {s : Store} {cell : Cell}

theorem Cell.in_setVector {r : VectorRef} {items : List Value} :
    cell.In (s.setVector r items) ↔ cell.In s := by
  cases cell <;> simp [Cell.In, Store.setVector]

theorem Cell.in_setScope {r : ScopeRef} {names : Namespace} :
    cell.In (s.setScope r names) ↔ cell.In s := by
  cases cell <;> simp [Cell.In, Store.setScope]

/-- A change makes no cell, and it takes none away. -/
theorem Write.in_apply {w : Write} : cell.In (w.apply s) ↔ cell.In s := by
  cases w with
  | push | pop => exact Cell.in_setVector
  | put | drop => exact Cell.in_setScope

end

/-- The stores hold the same, except in one cell. -/
structure Store.AgreeBut (cell : Cell) (s now : Store) : Prop where
  vectors : ∀ r, Cell.vector r ≠ cell → now.vector r = s.vector r
  scopes : ∀ r, Cell.scope r ≠ cell → now.scope r = s.scope r
  classes : now.classes = s.classes
  hosts : now.hosts = s.hosts

namespace Store.AgreeBut

variable {cell : Cell} {s now later : Store}

theorem refl (cell : Cell) (s : Store) : AgreeBut cell s s where
  vectors _ _ := rfl
  scopes _ _ := rfl
  classes := rfl
  hosts := rfl

theorem trans (h : AgreeBut cell s now) (h' : AgreeBut cell now later) :
    AgreeBut cell s later where
  vectors r hr := (h'.vectors r hr).trans (h.vectors r hr)
  scopes r hr := (h'.scopes r hr).trans (h.scopes r hr)
  classes := h'.classes.trans h.classes
  hosts := h'.hosts.trans h.hosts

end Store.AgreeBut

namespace Store

theorem agreeBut_setVector (s : Store) (r : VectorRef) (items : List Value) :
    AgreeBut (.vector r) s (s.setVector r items) where
  vectors q hq := by
    have hne : q ≠ r := fun heq => hq (congrArg Cell.vector heq)
    simp only [vector, setVector, Cells.read?_write_of_ne _ hne]
  scopes _ _ := rfl
  classes := rfl
  hosts := rfl

theorem agreeBut_setScope (s : Store) (r : ScopeRef) (names : Namespace) :
    AgreeBut (.scope r) s (s.setScope r names) where
  vectors _ _ := rfl
  scopes _ hq := scope_setScope_of_ne s (fun heq => hq (congrArg Cell.scope heq)) names
  classes := rfl
  hosts := rfl

end Store

/-- A change leaves all other cells alone. -/
theorem Write.agreeBut_apply (s : Store) (w : Write) : Store.AgreeBut w.cell s (w.apply s) := by
  cases w with
  | push r value => exact s.agreeBut_setVector r _
  | pop r => exact s.agreeBut_setVector r _
  | put r name value => exact s.agreeBut_setScope r _
  | drop r name => exact s.agreeBut_setScope r _

/-- Any changes of a cell leave all other cells alone. -/
theorem agreeBut_foldl_apply {cell : Cell} {writes : List Write}
    (h : ∀ w ∈ writes, w.cell = cell) (s : Store) :
    Store.AgreeBut cell s (writes.foldl Write.apply s) := by
  induction writes generalizing s with
  | nil => exact .refl cell s
  | cons w rest ih =>
    obtain ⟨hcell, hrest⟩ := List.forall_mem_cons.1 h
    have hfirst : Store.AgreeBut cell s (w.apply s) := hcell ▸ w.agreeBut_apply s
    exact hfirst.trans (ih hrest (w.apply s))

end NameCompletion
