import NameCompletion.Value

/-!
# The store

All state that values share: the contents of vectors and scopes, the classes, the host objects and
the modules that sessions know.  A reference that names no cell reads as something empty.

A class can only inherit from classes that are there already.  `ClassTable.older` keeps that fact,
and it is what lets functions recurse along the bases of a class.
-/

namespace NameCompletion

/-- The classes; every base of a class is older than the class. -/
structure ClassTable where
  cells : Cells .classObject ClassInfo := {}
  older : ∀ c info, cells.read? c = some info → ∀ b ∈ info.bases, b.index < c.index := by
    intro c info h; simp [Cells.read?] at h

namespace ClassTable

/-- The classes that a class inherits from directly. -/
def bases (table : ClassTable) (c : ClassRef) : List ClassRef :=
  ((table.cells.read? c).map ClassInfo.bases).getD []

/-- The members that a class defines itself. -/
def members (table : ClassTable) (c : ClassRef) : Namespace :=
  ((table.cells.read? c).map ClassInfo.members).getD ∅

/-- The name of a class. -/
def name (table : ClassTable) (c : ClassRef) : String :=
  ((table.cells.read? c).map ClassInfo.name).getD ""

section

variable {table : ClassTable} {c : ClassRef} {info : ClassInfo}

theorem bases_of_read? (h : table.cells.read? c = some info) : table.bases c = info.bases := by
  rw [bases, h]
  rfl

theorem members_of_read? (h : table.cells.read? c = some info) :
    table.members c = info.members := by
  rw [members, h]
  rfl

theorem name_of_read? (h : table.cells.read? c = some info) : table.name c = info.name := by
  rw [name, h]
  rfl

end

theorem index_lt_of_mem_bases {table : ClassTable} {c b : ClassRef} (h : b ∈ table.bases c) :
    b.index < c.index := by
  unfold bases at h
  cases hread : table.cells.read? c with
  | none => simp [hread] at h
  | some info => exact table.older c info hread b (by simpa [hread] using h)

/-- A further class; bases that do not exist are left out. -/
def alloc (table : ClassTable) (info : ClassInfo) : ClassTable where
  cells := table.cells.alloc
    { info with bases := info.bases.filter fun b => decide (b.index < table.cells.size) }
  older := by
    intro c info' h b hb
    rw [Cells.read?_alloc] at h
    split at h
    · next hc =>
      subst hc
      obtain rfl := Option.some.inj h
      exact of_decide_eq_true (List.mem_filter.1 hb).2
    · exact table.older c info' h b hb

end ClassTable

/-- The contents of all shared cells. -/
structure Store where
  vectors : Cells .vector (List Value) := {}
  scopes : Cells .scope Namespace := {}
  classes : ClassTable := {}
  hosts : Cells .host HostObject := {}
  registries : Cells .registry (Bindings Module) := {}

namespace Store

/-- The store before anything was allocated. -/
def empty : Store := {}

instance : Inhabited Store := ⟨empty⟩

/-- The elements of a vector. -/
def vector (s : Store) (r : VectorRef) : List Value :=
  (s.vectors.read? r).getD []

/-- The bindings of a scope. -/
def scope (s : Store) (r : ScopeRef) : Namespace :=
  (s.scopes.read? r).getD ∅

/-- An object of the host. -/
def host (s : Store) (r : HostRef) : HostObject :=
  (s.hosts.read? r).getD
    { memberNames := .ok [], member := fun _ => .ok none, isCallable := false }

/-- The modules of a family of sessions. -/
def modules (s : Store) (r : RegistryRef) : Bindings Module :=
  (s.registries.read? r).getD ∅

/-- A new vector. -/
def newVector (s : Store) (items : List Value) : VectorRef × Store :=
  (s.vectors.fresh, { s with vectors := s.vectors.alloc items })

/-- A new scope. -/
def newScope (s : Store) (bindings : Namespace) : ScopeRef × Store :=
  (s.scopes.fresh, { s with scopes := s.scopes.alloc bindings })

/-- A new class. -/
def newClass (s : Store) (info : ClassInfo) : ClassRef × Store :=
  (s.classes.cells.fresh, { s with classes := s.classes.alloc info })

/-- A new object of the host. -/
def newHost (s : Store) (object : HostObject) : HostRef × Store :=
  (s.hosts.fresh, { s with hosts := s.hosts.alloc object })

/-- A new, empty table of modules. -/
def newRegistry (s : Store) : RegistryRef × Store :=
  (s.registries.fresh, { s with registries := s.registries.alloc ∅ })

/-- Replaces the elements of a vector. -/
def setVector (s : Store) (r : VectorRef) (items : List Value) : Store :=
  { s with vectors := s.vectors.write r items }

/-- Replaces the bindings of a scope. -/
def setScope (s : Store) (r : ScopeRef) (bindings : Namespace) : Store :=
  { s with scopes := s.scopes.write r bindings }

/-- Replaces the modules of a family of sessions. -/
def setModules (s : Store) (r : RegistryRef) (modules : Bindings Module) : Store :=
  { s with registries := s.registries.write r modules }

/-- Binds a name in a scope; the value that was bound to it before. -/
def bind (s : Store) (r : ScopeRef) (name : String) (value : Value) : Option Value × Store :=
  ((s.scope r).get? name, s.setScope r ((s.scope r).insert name value))

/-- Unbinds a name in a scope; the value that was bound to it. -/
def unbind (s : Store) (r : ScopeRef) (name : String) : Option Value × Store :=
  ((s.scope r).get? name, s.setScope r ((s.scope r).erase name))

/-- Appends an element to a vector; the new length. -/
def push (s : Store) (r : VectorRef) (value : Value) : Nat × Store :=
  ((s.vector r).length + 1, s.setVector r (s.vector r ++ [value]))

/-- Takes the last element off a vector. -/
def pop (s : Store) (r : VectorRef) : Option Value × Store :=
  ((s.vector r).getLast?, s.setVector r (s.vector r).dropLast)

/-! ## What a change leaves alone -/

theorem scope_setScope_self {s : Store} {r : ScopeRef} (h : r.index < s.scopes.size)
    (names : Namespace) : (s.setScope r names).scope r = names := by
  simp only [scope, setScope, Cells.read?_write_self h, Option.getD_some]

theorem scope_setScope_of_ne (s : Store) {r other : ScopeRef} (h : other ≠ r) (names : Namespace) :
    (s.setScope r names).scope other = s.scope other := by
  simp only [scope, setScope, Cells.read?_write_of_ne _ h]

theorem scope_newScope (s : Store) (names : Namespace) (r : ScopeRef) :
    (s.newScope names).2.scope r = if r = s.scopes.fresh then names else s.scope r := by
  simp only [scope, newScope, Cells.read?_alloc]
  split <;> rfl

theorem modules_newScope (s : Store) (names : Namespace) (registry : RegistryRef) :
    (s.newScope names).2.modules registry = s.modules registry :=
  rfl

theorem modules_setModules_self {s : Store} {r : RegistryRef} (h : r.index < s.registries.size)
    (modules : Bindings Module) : (s.setModules r modules).modules r = modules := by
  simp only [Store.modules, setModules, Cells.read?_write_self h, Option.getD_some]

theorem modules_setModules_of_ne (s : Store) {r other : RegistryRef} (h : other ≠ r)
    (modules : Bindings Module) : (s.setModules r modules).modules other = s.modules other := by
  simp only [Store.modules, setModules, Cells.read?_write_of_ne _ h]

theorem modules_newRegistry (s : Store) (r : RegistryRef) :
    s.newRegistry.2.modules r = if r = s.registries.fresh then ∅ else s.modules r := by
  simp only [modules, newRegistry, Cells.read?_alloc]
  split <;> rfl

end Store

end NameCompletion
