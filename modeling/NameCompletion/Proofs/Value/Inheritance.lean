import NameCompletion.Proofs.Store.Preorder
import NameCompletion.Value.Members

/-!
# Members of instances

An instance answers from its fields, then from its class, and last with its class itself.  Together
with the order in which a class looks its members up (`ClassTable.inheritsDepthFirst`) this fixes
every member of every instance: a field hides all that is inherited, a nearer class hides one
further away, and what an earlier base inherits hides a later base.

`InstanceMember` says which member it is, and `inherits_depth_first` shows that reading finds it.
-/

namespace NameCompletion.Value

/-- The member of an instance, if it has one of that name. -/
inductive InstanceMember (s : Store) (i : Instance) (name : String) : Option Value → Prop where
  | field {value : Value} (set : (s.scope i.fields).get? name = some value) :
      InstanceMember s i name (some value)
  | inherited {value : Value} (unset : name ∉ (s.scope i.fields).names)
      (first : s.classes.FirstBinds (s.classes.preorder i.classRef) name value) :
      InstanceMember s i name (some value)
  /-- The class itself, under a name that nothing hides. -/
  | ownClass (unset : name ∉ (s.scope i.fields).names)
      (undefined : ∀ d ∈ s.classes.preorder i.classRef, name ∉ (s.classes.members d).names)
      (special : name = "__class__") : InstanceMember s i name (some (classObject i.classRef))
  | missing (unset : name ∉ (s.scope i.fields).names)
      (undefined : ∀ d ∈ s.classes.preorder i.classRef, name ∉ (s.classes.members d).names)
      (ordinary : name ≠ "__class__") : InstanceMember s i name none

variable {s : Store} {i : Instance} {name : String}

/-- Fields come first, then the class, and last the name of the class. -/
theorem instanceMember_iff {found : Option Value} :
    InstanceMember s i name found ↔
      (((s.scope i.fields).get? name).or (s.classes.lookup i.classRef name)).or
        (special "__class__" name (classObject i.classRef)) = found := by
  constructor
  · intro h
    cases h with
    | field set => rw [set, Option.some_or, Option.some_or]
    | inherited unset first =>
      rw [Bindings.get?_eq_none_iff.2 unset, Option.none_or,
        ClassTable.lookup_eq_some_iff.2 first, Option.some_or]
    | ownClass unset undefined hspecial =>
      rw [Bindings.get?_eq_none_iff.2 unset, Option.none_or,
        ClassTable.lookup_eq_none_iff.2 undefined, Option.none_or, special, if_pos hspecial]
    | missing unset undefined ordinary =>
      rw [Bindings.get?_eq_none_iff.2 unset, Option.none_or,
        ClassTable.lookup_eq_none_iff.2 undefined, Option.none_or, special, if_neg ordinary]
  · rintro rfl
    cases hfield : (s.scope i.fields).get? name with
    | some value => exact .field hfield
    | none =>
      have unset := Bindings.get?_eq_none_iff.1 hfield
      cases hclass : s.classes.lookup i.classRef name with
      | some value => exact .inherited unset (ClassTable.lookup_eq_some_iff.1 hclass)
      | none =>
        have undefined := ClassTable.lookup_eq_none_iff.1 hclass
        rw [Option.none_or, Option.none_or, special]
        split
        · next hspecial => exact .ownClass unset undefined hspecial
        · next hordinary => exact .missing unset undefined hordinary

/-- Every class lists and looks up its members depth first, and every instance has its fields, then
the members of its class in that order, then its class. -/
theorem inherits_depth_first (s : Store) :
    (∀ c, s.classes.InheritsDepthFirst c) ∧
      ∀ i name, ∃ found, (instanceObject i).member s name = .ok found ∧
        ∀ other, InstanceMember s i name other ↔ found = other :=
  ⟨s.classes.inheritsDepthFirst, fun _ _ => ⟨_, rfl, fun _ => instanceMember_iff⟩⟩

end NameCompletion.Value
