import Mathlib.Data.List.Basic
import NameCompletion.Proofs.Store.Preorder
import NameCompletion.Value.Members

/-!
# Listing and reading members

A value lists its members and reads one of them by separate functions.  For every value but a host
object neither can fail (`exists_memberNames`, `exists_member`), and they agree: the names that are
listed are those that can be read (`mem_memberNames_iff`).  For classes that is because both follow
the same order of classes (`mem_ancestryNames_iff`).  The main result is `listed_iff_read`.
-/

namespace NameCompletion

/-- A class lists a name exactly if looking it up finds a value. -/
theorem ClassTable.mem_ancestryNames_iff (table : ClassTable) (c : ClassRef) (name : String) :
    name ∈ table.ancestryNames c ↔ (table.lookup c name).isSome = true := by
  rw [ancestryNames_eq_flatMap, lookup_eq_findSome?, List.mem_flatMap, List.findSome?_isSome_iff]
  simp only [Bindings.mem_names_iff]

namespace Value

variable {s : Store} {v : Value}

/-- Only a host object can fail to list its members. -/
theorem exists_memberNames (hhost : ∀ h, v ≠ .hostObject h) :
    ∃ listed, v.memberNames s = .ok listed := by
  cases v with
  | hostObject h => exact absurd rfl (hhost h)
  | _ => exact ⟨_, rfl⟩

/-- Only a host object can fail to read a member. -/
theorem exists_member (hhost : ∀ h, v ≠ .hostObject h) (name : String) :
    ∃ found, v.member s name = .ok found := by
  cases v with
  | hostObject h => exact absurd rfl (hhost h)
  | _ => exact ⟨_, rfl⟩

theorem isSome_special (name asked : String) (value : Value) :
    (special name asked value).isSome = true ↔ asked = name := by
  unfold special
  split <;> simp_all

/-- A value lists a name exactly if reading it finds a member. -/
theorem mem_memberNames_iff (hhost : ∀ h, v ≠ .hostObject h) {listed : List String}
    {name : String} {found : Option Value} (hlisted : v.memberNames s = .ok listed)
    (hread : v.member s name = .ok found) : name ∈ listed ↔ found.isSome = true := by
  cases v with
  | hostObject h => exact absurd rfl (hhost h)
  | null | boolean =>
    cases hlisted
    cases hread
    simp
  | number | text | vector | record =>
    cases hlisted
    cases hread
    exact Bindings.mem_names_iff
  | function f =>
    cases hlisted
    cases hread
    rw [isSome_special, List.mem_singleton]
  | module m =>
    cases hlisted
    cases hread
    rw [List.mem_append, Option.isSome_or, Bool.or_eq_true, isSome_special,
      Bindings.mem_names_iff, List.mem_singleton]
  | classObject c =>
    cases hlisted
    cases hread
    rw [List.mem_append, Option.isSome_or, Bool.or_eq_true, isSome_special,
      ClassTable.mem_ancestryNames_iff, List.mem_singleton]
  | instanceObject i =>
    cases hlisted
    cases hread
    rw [List.mem_append, List.mem_append, Option.isSome_or, Option.isSome_or, Bool.or_eq_true,
      Bool.or_eq_true, isSome_special, Bindings.mem_names_iff, ClassTable.mem_ancestryNames_iff,
      List.mem_singleton]

/-! ## The main result -/

/-- Every value but a host object lists its members and reads each of them, and the names that it
lists are those under which something is read. -/
theorem listed_iff_read (s : Store) {v : Value} (hhost : ∀ h, v ≠ .hostObject h) :
    ∃ listed, v.memberNames s = .ok listed ∧
      ∀ name, ∃ found, v.member s name = .ok found ∧
        (name ∈ listed ↔ ∃ value, found = some value) := by
  obtain ⟨listed, hlisted⟩ := exists_memberNames (s := s) hhost
  refine ⟨listed, hlisted, fun name => ?_⟩
  obtain ⟨found, hread⟩ := exists_member (s := s) hhost name
  refine ⟨found, hread, ?_⟩
  rw [mem_memberNames_iff hhost hlisted hread, Option.isSome_iff_exists]

/-- Some classes, and the fields of an instance. -/
def shapeStore : Store :=
  ({ Store.empty with classes := .shapes }.newScope (.ofList [("radius", .null)])).2

/-- The member of the shared base is listed each time that it is reached, and can be read. -/
theorem shared_base_listed_iff_read :
    (∀ h, instanceObject ⟨⟨3⟩, ⟨0⟩⟩ ≠ .hostObject h) ∧
      (instanceObject ⟨⟨3⟩, ⟨0⟩⟩).memberNames shapeStore =
        .ok ["radius", "area", "area", "area", "__class__"] ∧
      ∃ value, (instanceObject ⟨⟨3⟩, ⟨0⟩⟩).member shapeStore "area" = .ok (some value) := by
  have hhost : ∀ h, instanceObject ⟨⟨3⟩, ⟨0⟩⟩ ≠ .hostObject h := nofun
  have hnames : (instanceObject ⟨⟨3⟩, ⟨0⟩⟩).memberNames shapeStore =
      .ok ["radius", "area", "area", "area", "__class__"] := by decide +kernel
  obtain ⟨listed, hlisted, hread⟩ := listed_iff_read shapeStore hhost
  obtain rfl := Except.ok.inj (hnames.symm.trans hlisted)
  obtain ⟨found, hfound, hiff⟩ := hread "area"
  obtain ⟨value, rfl⟩ := hiff.1 (by simp)
  exact ⟨hhost, hnames, value, hfound⟩

end Value

end NameCompletion
