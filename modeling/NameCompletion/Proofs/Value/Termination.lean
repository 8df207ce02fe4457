import NameCompletion.Proofs.Store.Reachable
import NameCompletion.Proofs.Value.Course
import NameCompletion.Proofs.Value.Parts

/-!
# Comparisons that do not end

A comparison goes into vectors, records and classes (`Value.openParts`), but not into a cell that it
compares with itself.  That is not enough to end it: two vectors that each hold nothing but
themselves are compared for ever, since neither is ever compared with itself.

* `comparison_ends_iff`: a comparison ends exactly if it does not come back to a comparison that it
  has not finished; and if it does not end, both values lead to a vector or a record that contains
  itself.
* `not_comparisonEnds_twoRings`: these two vectors are an example.
* `exists_equal_of_loopFree`: where no vector and no record contains itself, all comparisons end.
-/

namespace NameCompletion

open Comparison (Visits)

namespace Value

/-! ## Going into a value as a comparison does -/

/-- The parts of a value that a comparison may go into.  Modules, instances and objects of the host
are compared by their cells only. -/
def openParts (s : Store) : Value → List Value
  | vector r => s.vector r
  | record r => (s.scope r).values
  | classObject c => (s.classes.members c).values ++ (s.classes.bases c).map classObject
  | _ => []

/-- The second value is directly inside the first one. -/
def Opens (s : Store) (v w : Value) : Prop :=
  w ∈ v.openParts s

/-- Going into the value comes back to it. -/
def ContainsItself (s : Store) (v : Value) : Prop :=
  Relation.TransGen (Opens s) v v

/-- The value is a vector or a record. -/
def IsCollection : Value → Prop
  | vector _ | record _ => True
  | _ => False

/-- Going into the value leads to a vector or a record that contains itself. -/
def LeadsToLoop (s : Store) (v : Value) : Prop :=
  ∃ w, Relation.ReflTransGen (Opens s) v w ∧ w.IsCollection ∧ w.ContainsItself s

end Value

/-- No vector and no record contains itself. -/
def Store.LoopFree (s : Store) : Prop :=
  ∀ v : Value, v.IsCollection → ¬ v.ContainsItself s

namespace Value

variable {s : Store} {v w : Value} {x : ClassRef}

/-- A class holds collections, older classes and values that a comparison does not go into. -/
theorem cases_of_opens_class (hs : s.ClassesInOrder) (h : Opens s (classObject x) v) :
    v.IsCollection ∨ (∃ y, v = classObject y ∧ y.index < x.index) ∨ v.openParts s = [] := by
  cases v with
  | vector | record => exact .inl trivial
  | classObject y =>
    refine .inr (.inl ⟨y, rfl, ?_⟩)
    rcases List.mem_append.1 h with hmember | hbase
    · exact hs x y hmember
    · obtain ⟨b, hb, heq⟩ := List.mem_map.1 hbase
      cases heq
      exact ClassTable.index_lt_of_mem_bases hb
  | null | boolean | number | text | function | module | instanceObject | hostObject =>
    exact .inr (.inr rfl)

/-- A way from class to class leads to older classes, unless there is a collection on it. -/
theorem cases_of_transGen_class (hs : s.ClassesInOrder)
    (h : Relation.TransGen (Opens s) (classObject x) v) :
    (∃ w, w.IsCollection ∧ Relation.ReflTransGen (Opens s) (classObject x) w ∧
      Relation.ReflTransGen (Opens s) w v) ∨
    (∃ y, v = classObject y ∧ y.index < x.index) ∨ v.openParts s = [] := by
  induction h with
  | @single v hv =>
    rcases cases_of_opens_class hs hv with hcollection | hrest
    · exact .inl ⟨v, hcollection, .single hv, .refl⟩
    · exact .inr hrest
  | @tail u v hu hv ih =>
    rcases ih with ⟨w, hw, hxw, hwu⟩ | ⟨y, rfl, hlt⟩ | hclosed
    · exact .inl ⟨w, hw, hxw, hwu.tail hv⟩
    · rcases cases_of_opens_class hs hv with hcollection | ⟨z, rfl, hlt'⟩ | hclosed
      · exact .inl ⟨v, hcollection, (hu.tail hv).to_reflTransGen, .refl⟩
      · exact .inr (.inl ⟨z, rfl, hlt'.trans hlt⟩)
      · exact .inr (.inr hclosed)
    · rw [Opens, hclosed] at hv
      cases hv

/-- A loop goes through a vector or a record. -/
theorem leadsToLoop_of_containsItself (hs : s.ClassesInOrder) (h : v.ContainsItself s) :
    v.LeadsToLoop s := by
  have hopen : v.openParts s ≠ [] := by
    intro hclosed
    obtain ⟨u, hu, _⟩ := Relation.TransGen.head'_iff.1 h
    rw [Opens, hclosed] at hu
    cases hu
  cases v with
  | vector r => exact ⟨.vector r, .refl, trivial, h⟩
  | record r => exact ⟨.record r, .refl, trivial, h⟩
  | classObject x =>
    rcases cases_of_transGen_class hs h with ⟨w, hw, hxw, hwx⟩ | ⟨y, heq, hlt⟩ | hclosed
    · exact ⟨w, hxw, hw, (Relation.TransGen.trans_right hwx h).trans_left hxw⟩
    · cases heq
      exact absurd hlt (Nat.lt_irrefl _)
    · exact absurd hclosed hopen
  | null | boolean | number | text | function | module | instanceObject | hostObject =>
    exact absurd rfl hopen

end Value

/-! ## Both sides of a comparison -/

namespace Comparison

/-- The value on the left; a class stands for itself. -/
def left : Comparison → Value
  | values a _ => a
  | classes x _ => .classObject x

/-- The value on the right. -/
def right : Comparison → Value
  | values _ b => b
  | classes _ y => .classObject y

/-- Along the visits of a comparison, a side of it goes into its value, except that the contents of
a class are compared apart from the class. -/
def FollowsVisits (s : Store) (side : Comparison → Value) : Prop :=
  ∀ c part, Visits s c part → Value.Opens s (side c) (side part) ∨
    side part = side c ∧ (∃ a b, c = values a b) ∧ ∃ x y, part = classes x y

theorem followsVisits_left (s : Store) : FollowsVisits s left := by
  intro c part h
  cases h with
  | element _ h => exact .inl (List.of_mem_zip h.mem_zip).1
  | field _ h _ => exact .inl (Bindings.mem_values_of_mem (List.of_mem_zip h.mem_zip).1)
  | contents => exact .inr ⟨rfl, ⟨_, _, rfl⟩, _, _, rfl⟩
  | member _ h _ => exact .inl (Value.mem_parts_of_mem_members (List.of_mem_zip h.mem_zip).1)
  | base _ _ h => exact .inl (Value.mem_parts_of_mem_bases (List.of_mem_zip h.mem_zip).1)

theorem followsVisits_right (s : Store) : FollowsVisits s right := by
  intro c part h
  cases h with
  | element _ h => exact .inl (List.of_mem_zip h.mem_zip).2
  | field _ h _ => exact .inl (Bindings.mem_values_of_mem (List.of_mem_zip h.mem_zip).2)
  | contents => exact .inr ⟨rfl, ⟨_, _, rfl⟩, _, _, rfl⟩
  | member _ h _ => exact .inl (Value.mem_parts_of_mem_members (List.of_mem_zip h.mem_zip).2)
  | base _ _ h => exact .inl (Value.mem_parts_of_mem_bases (List.of_mem_zip h.mem_zip).2)

variable {s : Store} {side : Comparison → Value} {c later : Comparison}

theorem FollowsVisits.transGen (hside : FollowsVisits s side)
    (h : Relation.TransGen (Visits s) c later) :
    Relation.TransGen (Value.Opens s) (side c) (side later) ∨
      side later = side c ∧ (∃ a b, c = values a b) ∧ ∃ x y, later = classes x y := by
  induction h with
  | single hpart => exact (hside _ _ hpart).imp_left .single
  | @tail mid later _ hpart ih =>
    rcases hside _ _ hpart with hopens | ⟨hsame, ⟨a, b, rfl⟩, hclasses⟩
    · rcases ih with ih | ⟨heq, _⟩
      · exact .inl (ih.tail hopens)
      · rw [heq] at hopens
        exact .inl (.single hopens)
    · rcases ih with ih | ⟨_, _, x, y, heq⟩
      · rw [hsame]
        exact .inl ih
      · cases heq

theorem FollowsVisits.reflTransGen (hside : FollowsVisits s side)
    (h : Relation.ReflTransGen (Visits s) c later) :
    Relation.ReflTransGen (Value.Opens s) (side c) (side later) := by
  rcases Relation.reflTransGen_iff_eq_or_transGen.1 h with rfl | h
  · exact .refl
  · rcases hside.transGen h with h | ⟨heq, _⟩
    · exact h.to_reflTransGen
    · rw [heq]

/-- On both sides of a comparison that does not end there is a loop. -/
theorem FollowsVisits.leadsToLoop (hside : FollowsVisits s side) (hs : s.ClassesInOrder)
    (h : ¬ Ends s c) : (side c).LeadsToLoop s := by
  obtain ⟨again, hreach, hloop⟩ := not_ends_iff.1 h
  have hitself : (side again).ContainsItself s := by
    rcases hside.transGen hloop with h | ⟨_, ⟨a, b, rfl⟩, x, y, heq⟩
    · exact h
    · cases heq
  obtain ⟨w, hagain, hw, hwitself⟩ := Value.leadsToLoop_of_containsItself hs hitself
  exact ⟨w, (hside.reflTransGen hreach).trans hagain, hw, hwitself⟩

end Comparison

namespace Value

/-! ## The main results -/

/-- Comparing the values comes to an answer. -/
def ComparisonEnds (s : Store) (a b : Value) : Prop :=
  ∃ depth r, equalWithin s depth a b = some r

/-- Where no vector and no record contains itself, every comparison has an answer. -/
theorem exists_equal_of_loopFree {s : Store} (hs : s.ClassesInOrder) (hfree : s.LoopFree)
    (a b : Value) : ∃ r, equal s a b = some r := by
  by_contra hnone
  have hendless : ¬ Comparison.Ends s (.values a b) := fun h => hnone (Comparison.ends_iff.1 h)
  obtain ⟨w, _, hw, hitself⟩ := (Comparison.followsVisits_left s).leadsToLoop hs hendless
  exact hfree w hw hitself

/-- A comparison ends exactly if it does not come back to a comparison that it has not finished.  If
it does not end, both values lead to a vector or a record that contains itself. -/
theorem comparison_ends_iff {s : Store} (hs : s.Reachable) (a b : Value) :
    (ComparisonEnds s a b ↔
      ¬ ∃ again, Relation.ReflTransGen (Visits s) (.values a b) again ∧
        Relation.TransGen (Visits s) again again) ∧
    (¬ ComparisonEnds s a b → a.LeadsToLoop s ∧ b.LeadsToLoop s) := by
  have hends : ComparisonEnds s a b ↔ Comparison.Ends s (.values a b) := Iff.rfl
  rw [hends]
  refine ⟨(not_iff_comm.1 Comparison.not_ends_iff).symm, fun hendless => ?_⟩
  exact ⟨(Comparison.followsVisits_left s).leadsToLoop hs.classesInOrder hendless,
    (Comparison.followsVisits_right s).leadsToLoop hs.classesInOrder hendless⟩

/-- Two vectors, each of which holds nothing but itself. -/
def twoRings : Store :=
  let ring := (Write.push ⟨0⟩ (.vector ⟨0⟩)).apply (Store.empty.newVector []).2
  (Write.push ⟨1⟩ (.vector ⟨1⟩)).apply (ring.newVector []).2

theorem reachable_twoRings : twoRings.Reachable := by
  have hpush : ∀ (s : Store) (r : VectorRef), r.index < s.vectors.size →
      s.Step ((Write.push r (.vector r)).apply s) := by
    intro s r hr
    refine .write _ hr fun v hv => ?_
    cases hv
    exact exists_of_cell rfl hr nofun
  have hvector : ∀ s : Store, s.Step (s.newVector []).2 := fun s => .newVector [] nofun
  exact (((Relation.ReflTransGen.single (hvector _)).tail (hpush _ ⟨0⟩ (by decide))).tail
    (hvector _)).tail (hpush _ ⟨1⟩ (by decide))

/-- Comparing the two vectors means comparing them again. -/
theorem equalWithin_twoRings (depth : Nat) :
    equalWithin twoRings depth (.vector ⟨0⟩) (.vector ⟨1⟩) = none := by
  induction depth with
  | zero => rfl
  | succ depth ih =>
    have hfirst : twoRings.vector ⟨0⟩ = [.vector ⟨0⟩] := rfl
    have hsecond : twoRings.vector ⟨1⟩ = [.vector ⟨1⟩] := rfl
    rw [equalWithin, if_neg (by decide), hfirst, hsecond, listsEqual, List.length_singleton,
      List.length_singleton, if_pos rfl, elementsEqual, ih]

theorem endless_twoRings : ¬ ComparisonEnds twoRings (.vector ⟨0⟩) (.vector ⟨1⟩) := by
  rintro ⟨depth, r, hr⟩
  rw [equalWithin_twoRings] at hr
  cases hr

/-- Two values that a program can make, and whose comparison does not end. -/
theorem not_comparisonEnds_twoRings :
    twoRings.Reachable ∧ (vector ⟨0⟩).Exists twoRings ∧ (vector ⟨1⟩).Exists twoRings ∧
      ¬ ComparisonEnds twoRings (.vector ⟨0⟩) (.vector ⟨1⟩) :=
  ⟨reachable_twoRings, exists_of_cell rfl (by decide) nofun, exists_of_cell rfl (by decide) nofun,
    endless_twoRings⟩

/-- Each of the two vectors leads to a loop, and so does their comparison. -/
theorem twoRings_comparison_comes_back :
    (∃ again, Relation.ReflTransGen (Visits twoRings) (.values (.vector ⟨0⟩) (.vector ⟨1⟩)) again ∧
      Relation.TransGen (Visits twoRings) again again) ∧
    (vector ⟨0⟩).LeadsToLoop twoRings ∧ (vector ⟨1⟩).LeadsToLoop twoRings := by
  obtain ⟨hends, hloops⟩ := comparison_ends_iff reachable_twoRings (.vector ⟨0⟩) (.vector ⟨1⟩)
  exact ⟨not_not.1 fun hnone => endless_twoRings (hends.2 hnone), hloops endless_twoRings⟩

end Value

end NameCompletion
