import NameCompletion.Proofs.Store.Growth

/-!
# What a change leaves alone

Two ways to say that a store is still good for what is known of it.

* `Store.ExtendsBut`: every cell is still there with the same contents, except for one scope.  That
  is what binding a name comes to.
* `Store.Keeps`: the cells that were made between two earlier stores are still there with the same
  contents.  That is all that a value needs which was built between them.

`Keeps.inside` goes from all cells that were made to those of a part, and `Keeps.of_extendsBut`
says that a change of an older scope does no harm.
-/

namespace NameCompletion

namespace Cells

variable {kind : CellKind} {α : Type}

/-- Every cell of `made` that `old` does not have is in `now`, with the same contents. -/
def Keeps (old made now : Cells kind α) : Prop :=
  ∀ r x, old.size ≤ r.index → made.read? r = some x → now.read? r = some x

theorem Extends.size_le {cells grown : Cells kind α} (h : cells.Extends grown) :
    cells.size ≤ grown.size := by
  refine Nat.le_of_not_lt fun hlt => ?_
  exact Nat.lt_irrefl _ (h.index_lt (r := ⟨grown.size⟩) hlt)

variable {old made now a b : Cells kind α}

theorem Keeps.of_extends (h : made.Extends now) : old.Keeps made now :=
  fun r x _ hread => h r x hread

/-- If nothing was made, there is nothing to keep. -/
theorem keeps_self (old now : Cells kind α) : old.Keeps old now :=
  fun _ _ hr hread => absurd (index_lt_of_read? hread) (Nat.not_lt.2 hr)

/-- What is kept of all cells is kept of those that were made in between. -/
theorem Keeps.inside (h : old.Keeps made now) (ha : old.Extends a) (hb : b.Extends made) :
    a.Keeps b now :=
  fun r x hr hread => h r x (Nat.le_trans ha.size_le hr) (hb r x hread)

/-- A cell that was just made is kept. -/
theorem Keeps.read?_fresh (h : old.Keeps made now) (ha : old.Extends a) {x : α}
    (hx : (a.alloc x).Extends made) : now.read? a.fresh = some x := by
  refine h _ _ ha.size_le (hx _ _ ?_)
  rw [read?_alloc, if_pos rfl]

end Cells

namespace Store

/-! ## One scope is changed -/

/-- Every cell of `s` is still there, with the same contents unless it is the scope `r`. -/
structure ExtendsBut (s : Store) (r : ScopeRef) (grown : Store) : Prop where
  vectors : s.vectors.Extends grown.vectors
  scopes : ∀ q names, q ≠ r → s.scopes.read? q = some names → grown.scopes.read? q = some names
  scopes_size_le : s.scopes.size ≤ grown.scopes.size
  classes : s.classes.cells.Extends grown.classes.cells
  hosts : s.hosts.Extends grown.hosts
  registries : s.registries.Extends grown.registries

section

variable {s a b grown : Store} {r : ScopeRef}

theorem Extends.extendsBut (h : s.Extends grown) (r : ScopeRef) : s.ExtendsBut r grown where
  vectors := h.vectors
  scopes q names _ hread := h.scopes q names hread
  scopes_size_le := h.scopes.size_le
  classes := h.classes
  hosts := h.hosts
  registries := h.registries

theorem ExtendsBut.trans (h : s.ExtendsBut r a) (h' : a.ExtendsBut r b) : s.ExtendsBut r b where
  vectors := h.vectors.trans h'.vectors
  scopes q names hq hread := h'.scopes q names hq (h.scopes q names hq hread)
  scopes_size_le := Nat.le_trans h.scopes_size_le h'.scopes_size_le
  classes := h.classes.trans h'.classes
  hosts := h.hosts.trans h'.hosts
  registries := h.registries.trans h'.registries

theorem extendsBut_setScope (s : Store) (r : ScopeRef) (names : Namespace) :
    s.ExtendsBut r (s.setScope r names) where
  vectors := .refl _
  scopes q contents hq hread := by
    show (s.scopes.write r names).read? q = some contents
    rw [Cells.read?_write_of_ne _ hq, hread]
  scopes_size_le := Nat.le_of_eq (Cells.size_write _ _ _).symm
  classes := .refl _
  hosts := .refl _
  registries := .refl _

theorem ExtendsBut.scope_eq (h : s.ExtendsBut r grown) {q : ScopeRef} (hq : q ≠ r)
    (hlt : q.index < s.scopes.size) : grown.scope q = s.scope q := by
  obtain ⟨names, hread⟩ := Cells.exists_read? hlt
  rw [scope, scope, h.scopes q names hq hread, hread]

theorem ExtendsBut.scope_index_lt (h : s.ExtendsBut r grown) {q : ScopeRef}
    (hlt : q.index < s.scopes.size) : q.index < grown.scopes.size :=
  Nat.lt_of_lt_of_le hlt h.scopes_size_le

/-- A change of a scope that was not there before does not count. -/
theorem Extends.of_extendsBut (h : s.Extends a) (hr : s.scopes.size ≤ r.index)
    (hlater : a.ExtendsBut r b) : s.Extends b where
  vectors := h.vectors.trans hlater.vectors
  scopes q names hread := by
    refine hlater.scopes q names ?_ (h.scopes q names hread)
    rintro rfl
    exact absurd (Cells.index_lt_of_read? hread) (Nat.not_lt.2 hr)
  classes := h.classes.trans hlater.classes
  hosts := h.hosts.trans hlater.hosts
  registries := h.registries.trans hlater.registries

/-- Nor does a change of a registry that was not there before. -/
theorem Extends.setModules (h : s.Extends a) {registry : RegistryRef}
    (hr : s.registries.size ≤ registry.index) (modules : Bindings Module) :
    s.Extends (a.setModules registry modules) where
  vectors := h.vectors
  scopes := h.scopes
  classes := h.classes
  hosts := h.hosts
  registries q registered hread := by
    have hne : q ≠ registry := by
      rintro rfl
      exact absurd (Cells.index_lt_of_read? hread) (Nat.not_lt.2 hr)
    show (a.registries.write registry modules).read? q = some registered
    rw [Cells.read?_write_of_ne _ hne, h.registries q registered hread]

end

/-! ## What was made is kept -/

/-- What was made between `old` and `made` has not changed since: each of these cells is in `now`,
with the same contents. -/
structure Keeps (old made now : Store) : Prop where
  vectors : old.vectors.Keeps made.vectors now.vectors
  scopes : old.scopes.Keeps made.scopes now.scopes
  classes : old.classes.cells.Keeps made.classes.cells now.classes.cells

variable {old made now later a b : Store}

theorem Keeps.of_extends (h : made.Extends now) : old.Keeps made now where
  vectors := .of_extends h.vectors
  scopes := .of_extends h.scopes
  classes := .of_extends h.classes

/-- If nothing was made, there is nothing to keep. -/
theorem keeps_self (old now : Store) : old.Keeps old now where
  vectors := Cells.keeps_self _ _
  scopes := Cells.keeps_self _ _
  classes := Cells.keeps_self _ _

/-- What is kept of all cells is kept of those that were made in between. -/
theorem Keeps.inside (h : old.Keeps made now) (ha : old.Extends a) (hb : b.Extends made) :
    a.Keeps b now where
  vectors := h.vectors.inside ha.vectors hb.vectors
  scopes := h.scopes.inside ha.scopes hb.scopes
  classes := h.classes.inside ha.classes hb.classes

/-- New cells do not touch what was made. -/
theorem Keeps.extends (h : old.Keeps made now) (hlater : now.Extends later) :
    old.Keeps made later where
  vectors q items hq hread := hlater.vectors q items (h.vectors q items hq hread)
  scopes q names hq hread := hlater.scopes q names (h.scopes q names hq hread)
  classes q info hq hread := hlater.classes q info (h.classes q info hq hread)

/-- A change of a scope that was there before does not touch what was made. -/
theorem Keeps.of_extendsBut {r : ScopeRef} (h : old.Keeps made now)
    (hr : r.index < old.scopes.size) (hlater : now.ExtendsBut r later) :
    old.Keeps made later where
  vectors q items hq hread := hlater.vectors q items (h.vectors q items hq hread)
  scopes q names hq hread := by
    refine hlater.scopes q names ?_ (h.scopes q names hq hread)
    rintro rfl
    exact absurd hr (Nat.not_lt.2 hq)
  classes q info hq hread := hlater.classes q info (h.classes q info hq hread)

/-- A vector that was just made is kept. -/
theorem Keeps.vector_fresh (h : old.Keeps made now) (ha : old.Extends a) {items : List Value}
    (hmade : (a.newVector items).2.Extends made) : now.vector a.vectors.fresh = items := by
  have hread : now.vectors.read? a.vectors.fresh = some items :=
    h.vectors.read?_fresh ha.vectors hmade.vectors
  show (now.vectors.read? a.vectors.fresh).getD [] = items
  rw [hread, Option.getD_some]

/-- A scope that was just made is kept. -/
theorem Keeps.scope_fresh (h : old.Keeps made now) (ha : old.Extends a) {names : Namespace}
    (hmade : (a.newScope names).2.Extends made) : now.scope a.scopes.fresh = names := by
  have hread : now.scopes.read? a.scopes.fresh = some names :=
    h.scopes.read?_fresh ha.scopes hmade.scopes
  show (now.scopes.read? a.scopes.fresh).getD ∅ = names
  rw [hread, Option.getD_some]

/-- A class that was just made is kept, with all its bases if they were there. -/
theorem Keeps.class_fresh (h : old.Keeps made now) (ha : old.Extends a) {info : ClassInfo}
    (hbases : ∀ b ∈ info.bases, b.index < a.classes.cells.size)
    (hmade : (a.newClass info).2.Extends made) :
    now.classes.cells.read? a.classes.cells.fresh = some info := by
  have hread := h.classes.read?_fresh ha.classes hmade.classes
  have hall : info.bases.filter (fun b => decide (b.index < a.classes.cells.size)) = info.bases :=
    List.filter_eq_self.2 fun b hb => decide_eq_true (hbases b hb)
  rw [hall] at hread
  exact hread

end Store

end NameCompletion
