import Mathlib.Logic.Relation
import NameCompletion.Proofs.Bindings
import NameCompletion.Proofs.Store.Growth
import NameCompletion.Proofs.Store.Writing

/-!
# Stores that a program can come to

A program makes new cells out of values that exist, and it writes existing values into vectors and
scopes that are there (`Store.Step`).  A vector or a scope may come to hold itself that way, but
nothing can be written into a class.

* `Reachable.closed`: no cell holds a value that refers to a cell that is not there.
* `Reachable.classesInOrder`: a class that is a member of a class is older than that class.
* `Description.reachable_build`, `Snapshot.reachable_loadNamespace`: building the values of a
  snapshot is a number of such steps.
-/

namespace NameCompletion

/-- All cells that the value refers to are there. -/
def Value.Exists (s : Store) (v : Value) : Prop :=
  (∀ cell ∈ v.cell?, cell.In s) ∧
    ∀ i, v = .instanceObject i → i.classRef.index < s.classes.cells.size

section

variable {s grown : Store} {v : Value} {cell : Cell}

theorem Cell.In.of_extends (h : cell.In s) (hgrown : s.Extends grown) : cell.In grown := by
  cases cell with
  | vector r => exact hgrown.vectors.index_lt h
  | scope r => exact hgrown.scopes.index_lt h
  | classObject c => exact hgrown.classes.index_lt h
  | host object => exact hgrown.hosts.index_lt h

theorem Value.Exists.mono (h : v.Exists s) (hin : ∀ cell : Cell, cell.In s → cell.In grown) :
    v.Exists grown := by
  refine ⟨fun cell hcell => hin cell (h.1 cell hcell), fun i hi => ?_⟩
  exact hin (.classObject i.classRef) (h.2 i hi)

theorem Value.Exists.of_extends (h : v.Exists s) (hgrown : s.Extends grown) : v.Exists grown :=
  h.mono fun _ hcell => hcell.of_extends hgrown

/-- A value in one cell is there if the cell is. -/
theorem Value.exists_of_cell (hcell : v.cell? = some cell) (hin : cell.In s)
    (hclass : ∀ i, v = .instanceObject i → i.classRef.index < s.classes.cells.size) :
    v.Exists s := by
  refine ⟨fun other hother => ?_, hclass⟩
  cases hcell.symm.trans hother
  exact hin

theorem Value.exists_plain (h : v.cell? = none) : v.Exists s := by
  refine ⟨fun cell hcell => ?_, fun i hi => ?_⟩
  · cases h.symm.trans hcell
  · subst hi
    cases h

end

namespace Store

/-- One thing that a program can do to the store. -/
inductive Step (s : Store) : Store → Prop where
  | newVector (items : List Value) (h : ∀ v ∈ items, v.Exists s) : Step s (s.newVector items).2
  /-- A record, a module or the fields of an instance. -/
  | newScope (names : Namespace) (h : ∀ v ∈ names.values, v.Exists s) :
      Step s (s.newScope names).2
  | newClass (info : ClassInfo) (hmembers : ∀ v ∈ info.members.values, v.Exists s)
      (hbases : ∀ b ∈ info.bases, b.index < s.classes.cells.size) : Step s (s.newClass info).2
  /-- Bindings are replaced as a whole. -/
  | setScope (r : ScopeRef) (names : Namespace) (h : ∀ v ∈ names.values, v.Exists s) :
      Step s (s.setScope r names)
  | newHost (object : HostObject) : Step s (s.newHost object).2
  | newRegistry : Step s s.newRegistry.2
  | setModules (r : RegistryRef) (modules : Bindings Module) : Step s (s.setModules r modules)
  | write (w : Write) (hcell : w.cell.In s) (hvalue : ∀ v ∈ w.value?, v.Exists s) :
      Step s (w.apply s)

/-- The store is one that a program can come to. -/
def Reachable : Store → Prop :=
  Relation.ReflTransGen Step empty

/-- Some cell holds the value. -/
inductive Holds (s : Store) (v : Value) : Prop where
  | vector (r : VectorRef) (h : v ∈ s.vector r)
  | scope (r : ScopeRef) (h : v ∈ (s.scope r).values)
  | classObject (c : ClassRef) (h : v ∈ (s.classes.members c).values)

/-- What the cells hold is there. -/
def Closed (s : Store) : Prop :=
  ∀ v, s.Holds v → v.Exists s

/-- A class that is a member of a class is older. -/
def ClassesInOrder (s : Store) : Prop :=
  ∀ c d, Value.classObject d ∈ (s.classes.members c).values → d.index < c.index

variable {s s' : Store} {v : Value}

/-! ## What a step does to the contents -/

theorem classes_write (s : Store) (w : Write) : (w.apply s).classes = s.classes :=
  (w.agreeBut_apply s).classes

theorem vector_newVector (s : Store) (items : List Value) (r : VectorRef) :
    (s.newVector items).2.vector r = if r = s.vectors.fresh then items else s.vector r := by
  simp only [vector, newVector, Cells.read?_alloc]
  split <;> rfl

/-- A new class has the members that it was made with; the others keep theirs. -/
theorem members_newClass (s : Store) (info : ClassInfo) (c : ClassRef) :
    (s.newClass info).2.classes.members c =
      if c = s.classes.cells.fresh then info.members else s.classes.members c := by
  simp only [newClass, ClassTable.alloc, ClassTable.members, Cells.read?_alloc]
  split <;> rfl

theorem holds_newVector {items : List Value} (h : (s.newVector items).2.Holds v) :
    v ∈ items ∨ s.Holds v := by
  cases h with
  | vector r h =>
    rw [vector_newVector] at h
    split at h
    · exact .inl h
    · exact .inr (.vector r h)
  | scope r h => exact .inr (.scope r h)
  | classObject c h => exact .inr (.classObject c h)

theorem holds_newScope {names : Namespace} (h : (s.newScope names).2.Holds v) :
    v ∈ names.values ∨ s.Holds v := by
  cases h with
  | vector r h => exact .inr (.vector r h)
  | scope r h =>
    rw [scope_newScope] at h
    split at h
    · exact .inl h
    · exact .inr (.scope r h)
  | classObject c h => exact .inr (.classObject c h)

theorem holds_newClass {info : ClassInfo} (h : (s.newClass info).2.Holds v) :
    v ∈ info.members.values ∨ s.Holds v := by
  cases h with
  | vector r h => exact .inr (.vector r h)
  | scope r h => exact .inr (.scope r h)
  | classObject c h =>
    rw [members_newClass] at h
    split at h
    · exact .inl h
    · exact .inr (.classObject c h)

theorem holds_setVector {r : VectorRef} {items : List Value} (h : (s.setVector r items).Holds v) :
    v ∈ items ∨ s.Holds v := by
  cases h with
  | vector q h =>
    unfold Store.vector setVector at h
    rcases Cells.read?_write_cases s.vectors r q items with hread | hread <;> rw [hread] at h
    · exact .inl h
    · exact .inr (.vector q h)
  | scope q h => exact .inr (.scope q h)
  | classObject c h => exact .inr (.classObject c h)

theorem holds_setScope {r : ScopeRef} {names : Namespace} (h : (s.setScope r names).Holds v) :
    v ∈ names.values ∨ s.Holds v := by
  cases h with
  | vector q h => exact .inr (.vector q h)
  | scope q h =>
    unfold Store.scope setScope at h
    rcases Cells.read?_write_cases s.scopes r q names with hread | hread <;> rw [hread] at h
    · exact .inl h
    · exact .inr (.scope q h)
  | classObject c h => exact .inr (.classObject c h)

/-- After a change the cells hold what they held before, and the value that was written. -/
theorem holds_apply {w : Write} (h : (w.apply s).Holds v) : w.value? = some v ∨ s.Holds v := by
  cases w with
  | push r value =>
    rcases holds_setVector h with h | h
    · rcases List.mem_append.1 h with h | h
      · exact .inr (.vector r h)
      · exact .inl (congrArg some (List.mem_singleton.1 h).symm)
    · exact .inr h
  | pop r =>
    rcases holds_setVector h with h | h
    · exact .inr (.vector r (List.dropLast_subset _ h))
    · exact .inr h
  | put r name value =>
    rcases holds_setScope h with h | h
    · obtain ⟨e, he, rfl⟩ := List.mem_map.1 h
      rcases Bindings.mem_toList_insert he with rfl | he
      · exact .inl rfl
      · exact .inr (.scope r (Bindings.mem_values_of_mem he))
    · exact .inr h
  | drop r name =>
    rcases holds_setScope h with h | h
    · obtain ⟨e, he, rfl⟩ := List.mem_map.1 h
      exact .inr (.scope r (Bindings.mem_values_of_mem (List.mem_filter.1 he).1))
    · exact .inr h

/-- After a step the cells hold what they held before, and values that existed before. -/
theorem Step.holds_or_exists (hstep : s.Step s') (h : s'.Holds v) : s.Holds v ∨ v.Exists s := by
  cases hstep with
  | newVector items hitems => exact (holds_newVector h).symm.imp_right (hitems v)
  | newScope names hnames => exact (holds_newScope h).symm.imp_right (hnames v)
  | newClass info hmembers _ => exact (holds_newClass h).symm.imp_right (hmembers v)
  | setScope r names hnames => exact (holds_setScope h).symm.imp_right (hnames v)
  | write w _ hvalue => exact (holds_apply h).symm.imp_right (hvalue v)
  | newHost | newRegistry | setModules =>
    cases h with
    | vector r h => exact .inl (.vector r h)
    | scope r h => exact .inl (.scope r h)
    | classObject c h => exact .inl (.classObject c h)

/-- What is there stays there. -/
theorem Step.exists_of_exists (hstep : s.Step s') (h : v.Exists s) : v.Exists s' := by
  refine h.mono fun cell hcell => ?_
  cases hstep with
  | newVector items _ => exact hcell.of_extends (extends_newVector s items)
  | newScope names _ => exact hcell.of_extends (extends_newScope s names)
  | newClass info _ _ => exact hcell.of_extends (extends_newClass s info)
  | newHost object => exact hcell.of_extends (extends_newHost s object)
  | newRegistry => exact hcell.of_extends (extends_newRegistry s)
  | setScope r names _ => exact Cell.in_setScope.2 hcell
  | setModules r modules => cases cell <;> exact hcell
  | write w _ _ => exact Write.in_apply.2 hcell

/-! ## What holds of all stores that a program can come to -/

theorem Closed.step (h : s.Closed) (hstep : s.Step s') : s'.Closed := fun v hv =>
  hstep.exists_of_exists ((hstep.holds_or_exists hv).elim (h v) id)

theorem closed_empty : empty.Closed := by
  intro v hv
  cases hv with
  | vector r h => cases h
  | scope r h => cases h
  | classObject c h => cases h

theorem Reachable.closed (h : s.Reachable) : s.Closed := by
  induction h with
  | refl => exact closed_empty
  | tail _ hstep ih => exact ih.step hstep

theorem ClassesInOrder.newClass (h : s.ClassesInOrder) {info : ClassInfo}
    (hmembers : ∀ v ∈ info.members.values, v.Exists s) :
    (s.newClass info).2.ClassesInOrder := by
  intro c d hd
  rw [members_newClass] at hd
  split at hd
  · next hc =>
    subst hc
    exact (hmembers _ hd).1 (.classObject d) rfl
  · exact h c d hd

/-- No step puts a class into a class that is older. -/
theorem ClassesInOrder.step (h : s.ClassesInOrder) (hstep : s.Step s') : s'.ClassesInOrder := by
  cases hstep with
  | newClass info hmembers hbases => exact h.newClass hmembers
  | write w hcell hvalue =>
    intro c d hd
    rw [classes_write] at hd
    exact h c d hd
  | newVector | newScope | setScope | newHost | newRegistry | setModules => exact h

theorem classesInOrder_empty : empty.ClassesInOrder := nofun

theorem Reachable.classesInOrder (h : s.Reachable) : s.ClassesInOrder := by
  induction h with
  | refl => exact classesInOrder_empty
  | tail _ hstep ih => exact ih.step hstep

end Store

/-! ## Building -/

/-- The values of bindings exist if those that the bindings are made of do. -/
theorem Value.exists_of_mem_ofList {s : Store} {pairs : List (String × Value)}
    (h : ∀ e ∈ pairs, e.2.Exists s) : ∀ v ∈ (Bindings.ofList pairs).values, v.Exists s := by
  intro v hv
  obtain ⟨e, he, rfl⟩ := List.mem_map.1 hv
  exact h e (Bindings.mem_of_mem_ofList he)

namespace Description

mutual

/-- Building a value comes to a store in which the value exists. -/
theorem reachable_build {s : Store} (hs : s.Reachable) : ∀ d : Description,
    (build s d).2.Reachable ∧ (build s d).1.Exists (build s d).2
  | null | boolean _ | number _ | text _ | function _ => ⟨hs, Value.exists_plain rfl⟩
  | vector items => by
    obtain ⟨hreach, hitems⟩ := reachable_buildList hs items
    exact ⟨hreach.tail (.newVector _ hitems),
      Value.exists_of_cell rfl (Cells.fresh_lt_alloc _ _) nofun⟩
  | record fields => by
    obtain ⟨hreach, hfields⟩ := reachable_buildPairs hs fields
    exact ⟨hreach.tail (.newScope _ (Value.exists_of_mem_ofList hfields)),
      Value.exists_of_cell rfl (Cells.fresh_lt_alloc _ _) nofun⟩
  | module _ members => by
    obtain ⟨hreach, hmembers⟩ := reachable_buildPairs hs members
    exact ⟨hreach.tail (.newScope _ (Value.exists_of_mem_ofList hmembers)),
      Value.exists_of_cell rfl (Cells.fresh_lt_alloc _ _) nofun⟩
  | classObject c => by
    obtain ⟨hreach, hclass⟩ := reachable_buildClass hs c
    exact ⟨hreach, Value.exists_of_cell rfl hclass nofun⟩
  | instanceObject c fields => by
    obtain ⟨hreach, hclass⟩ := reachable_buildClass hs c
    obtain ⟨hreach', hfields⟩ := reachable_buildPairs hreach fields
    refine ⟨hreach'.tail (.newScope _ (Value.exists_of_mem_ofList hfields)),
      Value.exists_of_cell rfl (Cells.fresh_lt_alloc _ _) fun i hi => ?_⟩
    cases hi
    exact (extends_buildPairs _ fields).classes.index_lt hclass

theorem reachable_buildList {s : Store} (hs : s.Reachable) : ∀ items : List Description,
    (buildList s items).2.Reachable ∧ ∀ v ∈ (buildList s items).1, v.Exists (buildList s items).2
  | [] => ⟨hs, nofun⟩
  | d :: rest => by
    obtain ⟨hreach, hfirst⟩ := reachable_build hs d
    obtain ⟨hreach', hrest⟩ := reachable_buildList hreach rest
    exact ⟨hreach', List.forall_mem_cons.2
      ⟨hfirst.of_extends (extends_buildList _ rest), hrest⟩⟩

theorem reachable_buildPairs {s : Store} (hs : s.Reachable) :
    ∀ members : List (String × Description), (buildPairs s members).2.Reachable ∧
      ∀ e ∈ (buildPairs s members).1, e.2.Exists (buildPairs s members).2
  | [] => ⟨hs, nofun⟩
  | (_, d) :: rest => by
    obtain ⟨hreach, hfirst⟩ := reachable_build hs d
    obtain ⟨hreach', hrest⟩ := reachable_buildPairs hreach rest
    exact ⟨hreach', List.forall_mem_cons.2
      ⟨hfirst.of_extends (extends_buildPairs _ rest), hrest⟩⟩

theorem reachable_buildClass {s : Store} (hs : s.Reachable) : ∀ c : ClassDescription,
    (buildClass s c).2.Reachable ∧
      (buildClass s c).1.index < (buildClass s c).2.classes.cells.size
  | .mk _ members bases => by
    obtain ⟨hreach, hmembers⟩ := reachable_buildPairs hs members
    obtain ⟨hreach', hbases⟩ := reachable_buildClasses hreach bases
    refine ⟨hreach'.tail (.newClass _ (Value.exists_of_mem_ofList fun e he => ?_) hbases),
      Cells.fresh_lt_alloc _ _⟩
    exact (hmembers e he).of_extends (extends_buildClasses _ bases)

theorem reachable_buildClasses {s : Store} (hs : s.Reachable) :
    ∀ classes : List ClassDescription, (buildClasses s classes).2.Reachable ∧
      ∀ r ∈ (buildClasses s classes).1, r.index < (buildClasses s classes).2.classes.cells.size
  | [] => ⟨hs, nofun⟩
  | c :: rest => by
    obtain ⟨hreach, hfirst⟩ := reachable_buildClass hs c
    obtain ⟨hreach', hrest⟩ := reachable_buildClasses hreach rest
    exact ⟨hreach', List.forall_mem_cons.2
      ⟨(extends_buildClasses _ rest).classes.index_lt hfirst, hrest⟩⟩

end

end Description

/-- Loading a snapshot comes to a store in which all that was loaded exists. -/
theorem Snapshot.reachable_loadNamespace {s t : Store} {j : Json} {names : Namespace}
    (hs : s.Reachable) (h : loadNamespace s j = .ok (names, t)) :
    t.Reachable ∧ ∀ v ∈ names.values, v.Exists t := by
  unfold loadNamespace at h
  cases hread : readNamespace j with
  | error e => rw [hread] at h; cases h
  | ok members =>
    rw [hread] at h
    cases h
    obtain ⟨hreach, hmembers⟩ := Description.reachable_buildPairs hs members
    exact ⟨hreach, Value.exists_of_mem_ofList hmembers⟩

end NameCompletion
