import Mathlib.Data.List.Basic
import NameCompletion.Proofs.Related
import NameCompletion.Proofs.Text.ByteOrder
import NameCompletion.Store.Ancestry

/-!
# Inheritance, depth first

`preorder` lists a class and then, base by base, all that its bases inherit from.  A class that is
reached along several ways is listed each time.  Listing the members of a class and looking one of
them up both recurse along the bases; both come to this one list:

* `ancestryNames_eq_flatMap`: what is listed are the names of these classes, one class after the
  other.
* `lookup_eq_findSome?`: what is found is the first hit in these classes.
* `lookup_eq_some_iff` and `lookup_eq_none_iff`: the same said with the class that hits.

`inheritsDepthFirst` puts together what this means for one class.
-/

namespace NameCompletion.ClassTable

/-- The class, and then all that its bases inherit from, base by base. -/
def preorder (table : ClassTable) (c : ClassRef) : List ClassRef :=
  c :: (table.bases c).attach.flatMap fun b => preorder table b.1
termination_by c.index
decreasing_by exact index_lt_of_mem_bases b.2

/-- The first of the classes that defines the name binds it to the value. -/
def FirstBinds (table : ClassTable) (classes : List ClassRef) (name : String) (value : Value) :
    Prop :=
  ∃ nearer c further, classes = nearer ++ c :: further ∧
    (table.members c).get? name = some value ∧ ∀ d ∈ nearer, name ∉ (table.members d).names

/-- What a class inherits, and in which order. -/
structure InheritsDepthFirst (table : ClassTable) (c : ClassRef) : Prop where
  order : table.preorder c = c :: (table.bases c).flatMap table.preorder
  /-- Listed are the names that each class defines itself. -/
  lists : table.ancestryNames c = (table.preorder c).flatMap fun d => (table.members d).names
  ascending : ∀ d ∈ table.preorder c, Text.ByteAscending (table.members d).names
  finds : ∀ name value, table.lookup c name = some value ↔
    table.FirstBinds (table.preorder c) name value
  misses : ∀ name, table.lookup c name = none ↔
    ∀ d ∈ table.preorder c, name ∉ (table.members d).names
  /-- What an earlier base inherits comes before all that a later base has. -/
  earlierBase : ∀ name front b back, table.bases c = front ++ b :: back →
    name ∉ (table.members c).names →
    (∀ a ∈ front, ∀ d ∈ table.preorder a, name ∉ (table.members d).names) →
    (∃ d ∈ table.preorder b, name ∈ (table.members d).names) →
    table.lookup c name = table.lookup b name

variable (table : ClassTable) (c : ClassRef) (name : String)

theorem preorder_eq : table.preorder c = c :: (table.bases c).flatMap table.preorder := by
  rw [preorder, List.flatMap_subtype (fun _ _ => rfl), List.unattach_attach]

/-- The names that the classes define themselves, one class after the other. -/
theorem ancestryNames_eq_flatMap :
    table.ancestryNames c = (table.preorder c).flatMap fun d => (table.members d).names := by
  induction c using preorder.induct table with
  | case1 c ih =>
    rw [ancestryNames_eq, preorder_eq, List.flatMap_cons, List.flatMap_assoc]
    congr 1
    exact List.flatMap_congr fun b hb => ih ⟨b, hb⟩

/-- The first hit in the classes. -/
theorem lookup_eq_findSome? :
    table.lookup c name = (table.preorder c).findSome? fun d => (table.members d).get? name := by
  induction c using preorder.induct table with
  | case1 c ih =>
    have hbases : ∀ b ∈ table.bases c, table.lookup b name =
        (table.preorder b).findSome? fun d => (table.members d).get? name :=
      fun b hb => ih ⟨b, hb⟩
    rw [lookup_eq, preorder_eq, List.findSome?_cons, findSome?_flatMap hbases]
    cases (table.members c).get? name <;> rfl

variable {table c name}

/-- A value that is found is bound by the first of the classes that defines the name. -/
theorem lookup_eq_some_iff {value : Value} :
    table.lookup c name = some value ↔ table.FirstBinds (table.preorder c) name value := by
  simp only [lookup_eq_findSome?, List.findSome?_eq_some_iff, Bindings.get?_eq_none_iff, FirstBinds]

/-- Nothing is found if none of the classes defines the name. -/
theorem lookup_eq_none_iff :
    table.lookup c name = none ↔ ∀ d ∈ table.preorder c, name ∉ (table.members d).names := by
  simp only [lookup_eq_findSome?, List.findSome?_eq_none_iff, Bindings.get?_eq_none_iff]

/-- The first base that has a member hides those of the bases behind it. -/
theorem lookup_eq_of_bases {front back : List ClassRef} {b : ClassRef}
    (hbases : table.bases c = front ++ b :: back) (hown : name ∉ (table.members c).names)
    (hfront : ∀ a ∈ front, table.lookup a name = none) (hb : table.lookup b name ≠ none) :
    table.lookup c name = table.lookup b name := by
  obtain ⟨value, hvalue⟩ := Option.ne_none_iff_exists'.1 hb
  have hskip : (front.findSome? fun a => table.lookup a name) = none :=
    List.findSome?_eq_none_iff.2 hfront
  rw [lookup_eq, Bindings.get?_eq_none_iff.2 hown, Option.none_or, hbases, List.findSome?_append,
    hskip, Option.none_or, List.findSome?_cons, hvalue]

/-- Listing and looking up follow the same order. -/
theorem inheritsDepthFirst (table : ClassTable) (c : ClassRef) : table.InheritsDepthFirst c where
  order := table.preorder_eq c
  lists := table.ancestryNames_eq_flatMap c
  ascending d _ := Text.byteAscending_iff.2 (table.members d).pairwise_names
  finds _ _ := lookup_eq_some_iff
  misses _ := lookup_eq_none_iff
  earlierBase name front b back hbases hown hfront hb := by
    refine lookup_eq_of_bases hbases hown (fun a ha => lookup_eq_none_iff.2 (hfront a ha)) ?_
    obtain ⟨d, hd, hname⟩ := hb
    exact fun hnone => lookup_eq_none_iff.1 hnone d hd hname

/-- Shapes, round and flat ones, and a class that is both; a flat shape has an area of its own. -/
def shapes : ClassTable :=
  let area : Namespace := .ofList [("area", .null)]
  let shape := Store.empty.classes.alloc { name := "Shape", members := area, bases := [] }
  let round := shape.alloc { name := "Round", members := ∅, bases := [⟨0⟩] }
  let flat := round.alloc { name := "Flat", members := area, bases := [⟨0⟩] }
  flat.alloc { name := "Disc", members := ∅, bases := [⟨1⟩, ⟨2⟩] }

/-- The shared base comes before the second base, and once more behind it. -/
example : shapes.preorder ⟨3⟩ = [⟨3⟩, ⟨1⟩, ⟨0⟩, ⟨2⟩, ⟨0⟩] := by decide +kernel

end NameCompletion.ClassTable
