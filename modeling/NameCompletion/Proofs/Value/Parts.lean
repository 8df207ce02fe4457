import Mathlib.Logic.Relation
import NameCompletion.Proofs.Store.Reachable
import NameCompletion.Proofs.Value.Comparison

/-!
# What values are made of

A value is made of other values: the elements of a vector, the fields of a record, the contents of a
module, the own members of a class and its bases, the class of an instance and its fields
(`Value.parts`).  Going from values to their parts leads to all that a value contains
(`Value.Contains`).

* `exists_of_reaches`, `Founded.of_related`: what is known of the parts of one thing is known of the
  parts of another one, if they are related one by one.
* `exists_of_contains`, `contains_of_extends`: what is inside of a value that is there is there as
  well, and what is made later does not get inside.
* `exists_equal_of_founded`: if going from a value to its parts comes to an end everywhere, so does
  comparing it.
-/

namespace NameCompletion

/-! ## Things and their parts -/

section

variable {α β : Type} {parts : α → List α} {parts' : β → List β} {x y z : α}

/-- Going from the first thing to its parts, to theirs and so on leads to the second one. -/
def Reaches (parts : α → List α) : α → α → Prop :=
  Relation.ReflTransGen fun x y => y ∈ parts x

/-- Going from the thing to its parts, to theirs and so on comes to an end. -/
def Founded (parts : α → List α) : α → Prop :=
  Acc fun y x => y ∈ parts x

theorem Reaches.refl (parts : α → List α) (x : α) : Reaches parts x x :=
  Relation.ReflTransGen.refl

theorem Reaches.of_part (hy : y ∈ parts x) (h : Reaches parts y z) : Reaches parts x z :=
  Relation.ReflTransGen.head hy h

/-- A thing leads to itself and to where its parts lead. -/
theorem reaches_iff : Reaches parts x z ↔ z = x ∨ ∃ y ∈ parts x, Reaches parts y z :=
  Relation.ReflTransGen.cases_head_iff.trans (or_congr_left eq_comm)

/-- What holds of a thing and of all that its parts lead to holds of all that it leads to. -/
theorem forall_reaches_iff {P : α → Prop} :
    (∀ z, Reaches parts x z → P z) ↔ P x ∧ ∀ y ∈ parts x, ∀ z, Reaches parts y z → P z := by
  constructor
  · intro h
    exact ⟨h x (.refl parts x), fun y hy z hz => h z (.of_part hy hz)⟩
  · intro h z hz
    rcases reaches_iff.1 hz with rfl | ⟨y, hy, hz⟩
    · exact h.1
    · exact h.2 y hy z hz

variable {R : α → β → Prop}

/-- Things whose parts are related one by one lead to related things. -/
theorem exists_of_reaches (hR : ∀ x x', R x x' → List.Forall₂ R (parts x) (parts' x')) {x' : β}
    (h : R x x') (hz : Reaches parts x z) : ∃ z', Reaches parts' x' z' ∧ R z z' := by
  induction hz with
  | refl => exact ⟨x', .refl parts' x', h⟩
  | tail _ hz ih =>
    obtain ⟨y', hy', hyy'⟩ := ih
    obtain ⟨z', hz', hzz'⟩ := exists_of_forall₂_left (hR _ _ hyy') hz
    exact ⟨z', hy'.tail hz', hzz'⟩

theorem Founded.of_related (hR : ∀ x x', R x x' → List.Forall₂ R (parts x) (parts' x')) {x' : β}
    (hfounded : Founded parts' x') : ∀ {x}, R x x' → Founded parts x := by
  induction hfounded with
  | intro x' _ ih =>
    intro x h
    refine .intro x fun y hy => ?_
    obtain ⟨y', hy', hyy'⟩ := exists_of_forall₂_left (hR x x' h) hy
    exact ih y' hy' hyy'

end

/-! ## Values -/

namespace Value

/-- The values that a value is made of, those under names in the order of the names. -/
def parts (s : Store) : Value → List Value
  | vector r => s.vector r
  | record r => (s.scope r).values
  | module m => (s.scope m.scope).values
  | classObject c => (s.classes.members c).values ++ (s.classes.bases c).map classObject
  | instanceObject i => classObject i.classRef :: (s.scope i.fields).values
  | _ => []

/-- The second value is the first one or is found inside it, at any depth. -/
def Contains (s : Store) (v w : Value) : Prop :=
  Reaches (parts s) v w

variable {s : Store}

theorem mem_parts_of_mem_members {x : ClassRef} {e : String × Value}
    (h : e ∈ (s.classes.members x).toList) : e.2 ∈ (classObject x).parts s :=
  List.mem_append_left _ (Bindings.mem_values_of_mem h)

theorem mem_parts_of_mem_bases {x b : ClassRef} (h : b ∈ s.classes.bases x) :
    classObject b ∈ (classObject x).parts s :=
  List.mem_append_right _ (List.mem_map_of_mem h)

/-- The parts of a value that is there stay the same. -/
theorem parts_eq_of_exists {old : Store} {v : Value} (h : v.Exists old)
    (hgrown : old.Extends s) : v.parts s = v.parts old := by
  cases v with
  | vector r => exact hgrown.vector_eq (h.1 _ rfl)
  | record r => exact congrArg Bindings.values (hgrown.scope_eq (h.1 _ rfl))
  | module m => exact congrArg Bindings.values (hgrown.scope_eq (h.1 _ rfl))
  | classObject c => rw [parts, parts, hgrown.members_eq (h.1 _ rfl), hgrown.bases_eq (h.1 _ rfl)]
  | instanceObject i => rw [parts, parts, hgrown.scope_eq (h.1 _ rfl)]
  | _ => rfl

/-- In a store where nothing refers to a missing cell, all that is inside a value is there. -/
theorem exists_of_contains (hs : s.Closed) {v x : Value} (h : v.Exists s) (hx : v.Contains s x) :
    x.Exists s := by
  induction hx with
  | refl => exact h
  | @tail y x _ hpart ih =>
    cases y with
    | vector r => exact hs x (.vector r hpart)
    | record r => exact hs x (.scope r hpart)
    | module m => exact hs x (.scope m.scope hpart)
    | classObject c =>
      rcases List.mem_append.1 hpart with hmember | hbase
      · exact hs x (.classObject c hmember)
      · obtain ⟨b, hb, rfl⟩ := List.mem_map.1 hbase
        exact exists_of_cell rfl ((ClassTable.index_lt_of_mem_bases hb).trans (ih.1 _ rfl)) nofun
    | instanceObject i =>
      rcases List.mem_cons.1 hpart with rfl | hfield
      · exact exists_of_cell rfl (ih.2 i rfl) nofun
      · exact hs x (.scope i.fields hfield)
    | null | boolean | number | text | function | hostObject => cases hpart

/-- If all that is inside a value is there, nothing new gets inside as the store grows. -/
theorem contains_of_extends {old : Store} {v x : Value} (hgrown : old.Extends s)
    (hexists : ∀ y, v.Contains old y → y.Exists old) (h : v.Contains s x) : v.Contains old x := by
  induction h with
  | refl => exact .refl _ v
  | tail _ hpart ih =>
    rw [parts_eq_of_exists (hexists _ ih) hgrown] at hpart
    exact ih.tail hpart

/-- A comparison goes from the value on its left to parts of it. -/
theorem acc_comparison {a : Value} (h : Founded (parts s) a) :
    ∀ b, Acc (fun part whole => Comparison.Part s whole part) (.values a b) := by
  induction h with
  | intro a _ ih =>
    -- The contents of a class are compared apart from the class itself.
    have hclasses : ∀ x y, a = classObject x →
        Acc (fun part whole => Comparison.Part s whole part) (.classes x y) := by
      rintro x y rfl
      refine .intro _ fun part hpart => ?_
      cases hpart with
      | member h => exact ih _ (mem_parts_of_mem_members (List.of_mem_zip h).1) _
      | @base x y p h =>
        have hbase := ih _ (mem_parts_of_mem_bases (List.of_mem_zip h).1) (classObject p.2)
        exact hbase.inv (.contents p.1 p.2)
    intro b
    refine .intro _ fun part hpart => ?_
    cases hpart with
    | element h => exact ih _ (List.of_mem_zip h).1 _
    | field h => exact ih _ (Bindings.mem_values_of_mem (List.of_mem_zip h).1) _
    | contents x y => exact hclasses x y rfl

/-- A value that one cannot go into for ever can be compared with every other one. -/
theorem exists_equal_of_founded {a : Value} (h : Founded (parts s) a) (b : Value) :
    ∃ r, equal s a b = some r :=
  Option.isSome_iff_exists.1 (Comparison.isSome_answer_of_acc (acc_comparison h b))

end Value

end NameCompletion
