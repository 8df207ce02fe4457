import NameCompletion.Snapshot.Loading

/-!
# Stores that grow

Building values only adds cells.  A store extends another one if every cell that the other one holds
is still there with the same contents.

* `extends_build`: so it is after a value was built from a description.
* `extends_loadValue`, `extends_loadText`: and after a JSON value or a namespace was loaded.
-/

namespace NameCompletion

/-! ## Cells -/

/-- Every cell of `cells` is still there, with the same contents. -/
def Cells.Extends {kind : CellKind} {α : Type} (cells grown : Cells kind α) : Prop :=
  ∀ r x, cells.read? r = some x → grown.read? r = some x

namespace Cells

variable {kind : CellKind} {α : Type}

theorem Extends.refl (cells : Cells kind α) : cells.Extends cells :=
  fun _ _ h => h

theorem Extends.trans {a b c : Cells kind α} (h : a.Extends b) (h' : b.Extends c) : a.Extends c :=
  fun r x hread => h' r x (h r x hread)

theorem extends_alloc (cells : Cells kind α) (x : α) : cells.Extends (cells.alloc x) := by
  intro r y hread
  have hne : r ≠ cells.fresh := by
    rintro rfl
    exact Nat.lt_irrefl _ (index_lt_of_read? hread)
  rw [read?_alloc, if_neg hne, hread]

theorem exists_read? {cells : Cells kind α} {r : Ref kind} (hr : r.index < cells.size) :
    ∃ x, cells.read? r = some x :=
  ⟨_, Array.getElem?_eq_getElem hr⟩

theorem Extends.index_lt {cells grown : Cells kind α} (h : cells.Extends grown) {r : Ref kind}
    (hr : r.index < cells.size) : r.index < grown.size := by
  obtain ⟨x, hread⟩ := exists_read? hr
  exact index_lt_of_read? (h r x hread)

/-- A cell that was written holds what was written, or nothing was written. -/
theorem read?_write_cases (cells : Cells kind α) (r other : Ref kind) (x : α) :
    (cells.write r x).read? other = some x ∨ (cells.write r x).read? other = cells.read? other := by
  by_cases hother : other = r
  · subst hother
    by_cases hin : other.index < cells.size
    · exact .inl (read?_write_self hin x)
    · refine .inr ?_
      rw [write, Array.setIfInBounds_eq_of_size_le (Nat.le_of_not_lt hin)]
  · exact .inr (read?_write_of_ne cells hother x)

theorem fresh_lt_alloc (cells : Cells kind α) (x : α) :
    cells.fresh.index < (cells.alloc x).size := by
  simp [fresh, alloc, size]

end Cells

/-! ## Stores -/

namespace Store

/-- Every cell of `s` is still there, with the same contents. -/
structure Extends (s grown : Store) : Prop where
  vectors : s.vectors.Extends grown.vectors
  scopes : s.scopes.Extends grown.scopes
  classes : s.classes.cells.Extends grown.classes.cells
  hosts : s.hosts.Extends grown.hosts
  registries : s.registries.Extends grown.registries

theorem Extends.refl (s : Store) : s.Extends s where
  vectors := .refl _
  scopes := .refl _
  classes := .refl _
  hosts := .refl _
  registries := .refl _

theorem Extends.trans {a b c : Store} (h : a.Extends b) (h' : b.Extends c) : a.Extends c where
  vectors := h.vectors.trans h'.vectors
  scopes := h.scopes.trans h'.scopes
  classes := h.classes.trans h'.classes
  hosts := h.hosts.trans h'.hosts
  registries := h.registries.trans h'.registries

variable {s grown : Store}

theorem extends_newVector (s : Store) (items : List Value) : s.Extends (s.newVector items).2 :=
  { Extends.refl s with vectors := Cells.extends_alloc _ _ }

theorem extends_newScope (s : Store) (names : Namespace) : s.Extends (s.newScope names).2 :=
  { Extends.refl s with scopes := Cells.extends_alloc _ _ }

theorem extends_newRegistry (s : Store) : s.Extends s.newRegistry.2 :=
  { Extends.refl s with registries := Cells.extends_alloc _ _ }

theorem extends_newHost (s : Store) (object : HostObject) : s.Extends (s.newHost object).2 :=
  { Extends.refl s with hosts := Cells.extends_alloc _ _ }

theorem extends_newClass (s : Store) (info : ClassInfo) : s.Extends (s.newClass info).2 :=
  { Extends.refl s with classes := Cells.extends_alloc _ _ }

theorem Extends.scope_index_lt (h : s.Extends grown) {r : ScopeRef}
    (hr : r.index < s.scopes.size) : r.index < grown.scopes.size :=
  h.scopes.index_lt hr

theorem Extends.scope_eq (h : s.Extends grown) {r : ScopeRef} (hr : r.index < s.scopes.size) :
    grown.scope r = s.scope r := by
  obtain ⟨names, hread⟩ := Cells.exists_read? hr
  rw [scope, scope, h.scopes r names hread, hread]

theorem Extends.vector_eq (h : s.Extends grown) {r : VectorRef} (hr : r.index < s.vectors.size) :
    grown.vector r = s.vector r := by
  obtain ⟨items, hread⟩ := Cells.exists_read? hr
  rw [vector, vector, h.vectors r items hread, hread]

theorem Extends.members_eq (h : s.Extends grown) {c : ClassRef}
    (hc : c.index < s.classes.cells.size) : grown.classes.members c = s.classes.members c := by
  obtain ⟨info, hread⟩ := Cells.exists_read? hc
  rw [ClassTable.members_of_read? hread, ClassTable.members_of_read? (h.classes c info hread)]

theorem Extends.bases_eq (h : s.Extends grown) {c : ClassRef}
    (hc : c.index < s.classes.cells.size) : grown.classes.bases c = s.classes.bases c := by
  obtain ⟨info, hread⟩ := Cells.exists_read? hc
  rw [ClassTable.bases_of_read? hread, ClassTable.bases_of_read? (h.classes c info hread)]

theorem Extends.registry_index_lt (h : s.Extends grown) {r : RegistryRef}
    (hr : r.index < s.registries.size) : r.index < grown.registries.size :=
  h.registries.index_lt hr

theorem Extends.modules_eq (h : s.Extends grown) {r : RegistryRef}
    (hr : r.index < s.registries.size) : grown.modules r = s.modules r := by
  obtain ⟨registered, hread⟩ := Cells.exists_read? hr
  rw [modules, modules, h.registries r registered hread, hread]

/-- A module that was registered is registered still, as long as the registries are. -/
theorem get?_modules_of_extends (h : s.registries.Extends grown.registries) {r : RegistryRef}
    {name : String} {m : Module} (hfound : (s.modules r).get? name = some m) :
    (grown.modules r).get? name = some m := by
  cases hread : s.registries.read? r with
  | none =>
    rw [modules, hread] at hfound
    cases hfound
  | some registered =>
    rw [modules, hread, Option.getD_some] at hfound
    rw [modules, h r registered hread, Option.getD_some, hfound]

/-- A module that was registered is registered still. -/
theorem Extends.module? (h : s.Extends grown) {r : RegistryRef} {name : String} {m : Module}
    (hfound : (s.modules r).get? name = some m) : (grown.modules r).get? name = some m :=
  get?_modules_of_extends h.registries hfound

end Store

/-! ## Building -/

namespace Description

mutual

/-- Building a value only adds cells. -/
theorem extends_build (s : Store) : ∀ d : Description, s.Extends (build s d).2
  | null | boolean _ | number _ | text _ | function _ => .refl s
  | vector items => (extends_buildList s items).trans (Store.extends_newVector _ _)
  | record fields => (extends_buildPairs s fields).trans (Store.extends_newScope _ _)
  | module _ members => (extends_buildPairs s members).trans (Store.extends_newScope _ _)
  | classObject c => extends_buildClass s c
  | instanceObject c fields =>
    ((extends_buildClass s c).trans (extends_buildPairs _ fields)).trans
      (Store.extends_newScope _ _)

theorem extends_buildList (s : Store) : ∀ items : List Description,
    s.Extends (buildList s items).2
  | [] => .refl s
  | d :: rest => (extends_build s d).trans (extends_buildList _ rest)

theorem extends_buildPairs (s : Store) : ∀ members : List (String × Description),
    s.Extends (buildPairs s members).2
  | [] => .refl s
  | (_, d) :: rest => (extends_build s d).trans (extends_buildPairs _ rest)

theorem extends_buildClass (s : Store) : ∀ c : ClassDescription, s.Extends (buildClass s c).2
  | .mk _ members bases =>
    ((extends_buildPairs s members).trans (extends_buildClasses _ bases)).trans
      (Store.extends_newClass _ _)

theorem extends_buildClasses (s : Store) : ∀ classes : List ClassDescription,
    s.Extends (buildClasses s classes).2
  | [] => .refl s
  | c :: rest => (extends_buildClass s c).trans (extends_buildClasses _ rest)

end

end Description

/-- Loading a JSON value only adds cells. -/
theorem Snapshot.extends_loadValue {s s' : Store} {j : Json} {value : Value}
    (h : loadValue s j = .ok (value, s')) : s.Extends s' := by
  unfold loadValue at h
  cases hread : readValue j with
  | error e => rw [hread] at h; cases h
  | ok d =>
    rw [hread] at h
    have hbuilt : Description.build s d = (value, s') := Except.ok.inj h
    have hgrown := Description.extends_build s d
    rwa [hbuilt] at hgrown

/-- Loading a namespace only adds cells. -/
theorem Snapshot.extends_loadText {s s' : Store} {text : String} {names : Namespace}
    (h : loadText s text = .ok (names, s')) : s.Extends s' := by
  unfold loadText loadNamespace at h
  split at h
  · next j _ =>
    cases hread : readNamespace j with
    | error e => rw [hread] at h; cases h
    | ok members =>
      rw [hread] at h
      cases h
      exact Description.extends_buildPairs s members
  · cases h

end NameCompletion
