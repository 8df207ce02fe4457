import NameCompletion.Proofs.Bindings
import NameCompletion.Proofs.Store.Preorder
import NameCompletion.Proofs.Value.Equality

/-!
# Values that cannot be told apart

Completion looks at a value by listing its members, reading one of them and asking whether the value
can be called.  A relation between values is a bisimulation if related values answer these questions
alike and what is read of them is related again.

* `isBisimulation_eq`: to be the same is one.
* `isBisimulation_equal`: to be the same or equal is one.  Equality alone is not: a number that
  differs from itself is related to nothing, yet may be read of a module that equals itself.
-/

namespace NameCompletion

/-! ## Bisimulations -/

/-- Two readings of a member end alike: both fail for the same reason, or what they find is
related. -/
inductive ReadAlike (R : Value → Value → Prop) :
    Except IntrospectError (Option Value) → Except IntrospectError (Option Value) → Prop where
  | found {x y : Option Value} (h : Option.Rel R x y) : ReadAlike R (.ok x) (.ok y)
  | failed (e : IntrospectError) : ReadAlike R (.error e) (.error e)

/-- Related values cannot be told apart by looking at them and at what is read of them. -/
structure IsBisimulation (s : Store) (R : Value → Value → Prop) : Prop where
  memberNames : ∀ {a b}, R a b → a.memberNames s = b.memberNames s
  member : ∀ {a b}, R a b → ∀ name, ReadAlike R (a.member s name) (b.member s name)
  isCallable : ∀ {a b}, R a b → a.isCallable s = b.isCallable s

theorem ReadAlike.isOk_eq {R : Value → Value → Prop}
    {reading other : Except IntrospectError (Option Value)} (h : ReadAlike R reading other) :
    reading.isOk = other.isOk := by
  cases h <;> rfl

/-- Of two readings that end alike, both or neither find something that can be called. -/
theorem ReadAlike.callable_iff {s : Store} {R : Value → Value → Prop}
    {reading other : Except IntrospectError (Option Value)} (h : ReadAlike R reading other)
    (hR : IsBisimulation s R) :
    (∃ found, reading = .ok (some found) ∧ found.isCallable s = true) ↔
      ∃ found, other = .ok (some found) ∧ found.isCallable s = true := by
  cases h with
  | failed e => rfl
  | found h =>
    cases h with
    | none => rfl
    | some h => simp [hR.isCallable h]

theorem rel_eq {α : Type} : ∀ x : Option α, Option.Rel Eq x x
  | none => .none
  | some _ => .some rfl

theorem readAlike_refl {R : Value → Value → Prop} (hrefl : ∀ a, R a a)
    (reading : Except IntrospectError (Option Value)) : ReadAlike R reading reading := by
  cases reading with
  | error e => exact .failed e
  | ok x =>
    refine .found ?_
    cases x with
    | none => exact .none
    | some a => exact .some (hrefl a)

theorem isBisimulation_eq (s : Store) : IsBisimulation s Eq where
  memberNames h := h ▸ rfl
  member h _ := h ▸ readAlike_refl (fun _ => rfl) _
  isCallable h := h ▸ rfl

/-! ## Equal values -/

/-- The values are the same or equal. -/
def Value.SameOrEqual (s : Store) (a b : Value) : Prop :=
  a = b ∨ equal s a b = some true

namespace Namespace

variable {s : Store} {a b : Namespace}

theorem forall₂_of_equal (h : Namespace.equal s a b = some true) :
    List.Forall₂ (fun x y => x.1 = y.1 ∧ Value.SameOrEqual s x.2 y.2) a.toList b.toList :=
  (bindingsEqual_eq_some_true_iff.1 h).imp fun _ _ hxy => ⟨hxy.1, .inr hxy.2⟩

theorem names_eq_of_equal (h : Namespace.equal s a b = some true) : a.names = b.names :=
  Bindings.names_eq_of_forall₂ (forall₂_of_equal h)

theorem rel_get?_of_equal (h : Namespace.equal s a b = some true) (name : String) :
    Option.Rel (Value.SameOrEqual s) (a.get? name) (b.get? name) :=
  Bindings.rel_get? (forall₂_of_equal h) name

end Namespace

namespace Value

variable {s : Store}

/-- The bases of classes that agree, with the fact that they are bases. -/
theorem forall₂_bases_of_classesEqual {x y : ClassRef} (h : classesEqual s x y = some true) :
    List.Forall₂ (fun b c => b ∈ s.classes.bases x ∧ classesEqual s b c = some true)
      (s.classes.bases x) (s.classes.bases y) :=
  (List.forall₂_and_left _ _).2 ⟨fun _ hb => hb, (classesEqual_eq_some_true_iff.1 h).bases⟩

/-- Classes that agree inherit, depth first, from classes that agree. -/
theorem forall₂_preorder_of_classesEqual {x y : ClassRef} (h : classesEqual s x y = some true) :
    List.Forall₂ (fun b c => classesEqual s b c = some true) (s.classes.preorder x)
      (s.classes.preorder y) := by
  rw [ClassTable.preorder_eq, ClassTable.preorder_eq]
  refine .cons h (List.rel_flatMap (forall₂_bases_of_classesEqual h) fun b c hbc => ?_)
  obtain ⟨hb, hbc⟩ := hbc
  exact forall₂_preorder_of_classesEqual hbc
termination_by x.index
decreasing_by exact ClassTable.index_lt_of_mem_bases hb

/-- Classes that agree list the same members. -/
theorem ancestryNames_eq_of_classesEqual {x y : ClassRef} (h : classesEqual s x y = some true) :
    s.classes.ancestryNames x = s.classes.ancestryNames y := by
  have hnames : ((s.classes.preorder x).map fun c => (s.classes.members c).names) =
      (s.classes.preorder y).map fun c => (s.classes.members c).names := by
    rw [← List.forall₂_eq_eq_eq, List.forall₂_map_left_iff, List.forall₂_map_right_iff]
    refine (forall₂_preorder_of_classesEqual h).imp fun b c hbc => ?_
    exact Namespace.names_eq_of_equal (classesEqual_eq_some_true_iff.1 hbc).members
  rw [ClassTable.ancestryNames_eq_flatMap, ClassTable.ancestryNames_eq_flatMap, List.flatMap_def,
    List.flatMap_def, hnames]

/-- Classes that agree have equal members. -/
theorem rel_lookup_of_classesEqual {x y : ClassRef} (h : classesEqual s x y = some true)
    (name : String) :
    Option.Rel (SameOrEqual s) (s.classes.lookup x name) (s.classes.lookup y name) := by
  rw [ClassTable.lookup_eq_findSome?, ClassTable.lookup_eq_findSome?]
  refine rel_findSome? ((forall₂_preorder_of_classesEqual h).imp fun b c hbc => ?_)
  exact Namespace.rel_get?_of_equal (classesEqual_eq_some_true_iff.1 hbc).members name

/-- Values that are the same or equal cannot be told apart. -/
theorem isBisimulation_equal (s : Store) : IsBisimulation s (SameOrEqual s) where
  memberNames {a b} h := by
    rcases h with rfl | h
    · rfl
    cases equal_eq_some_true_iff.1 h with
    | record hfields => exact congrArg Except.ok (Namespace.names_eq_of_equal hfields)
    | classObject hclasses =>
      rw [memberNames, memberNames, ancestryNames_eq_of_classesEqual hclasses]
    | _ => rfl
  member {a b} h name := by
    have hrefl : ∀ v, SameOrEqual s v v := fun v => .inl rfl
    rcases h with rfl | h
    · exact readAlike_refl hrefl _
    cases equal_eq_some_true_iff.1 h with
    | record hfields => exact .found (Namespace.rel_get?_of_equal hfields name)
    | classObject hclasses =>
      rw [member, member, (classesEqual_eq_some_true_iff.1 hclasses).name]
      refine .found (rel_or (rel_lookup_of_classesEqual hclasses name) ?_)
      unfold special
      split
      · exact .some (hrefl _)
      · exact .none
    | _ => exact readAlike_refl hrefl _
  isCallable {a b} h := by
    rcases h with rfl | h
    · rfl
    cases equal_eq_some_true_iff.1 h <;> rfl

end Value

end NameCompletion
