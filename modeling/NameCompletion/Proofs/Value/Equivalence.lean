import NameCompletion.Proofs.Json.Number
import NameCompletion.Proofs.Value.Structure
import NameCompletion.Proofs.Value.Termination

/-!
# Equality is an equivalence

Whether two values are compared by their cells or by their contents depends on both of them.  Still
equality is symmetric and transitive, and since a value is in the same cell as itself, NaN is the
only value that does not equal itself.

* `shows_of_equal`: what holds of equal values if it holds of equal parts.
* `equal_symm`, `equal_trans`: these hold of whatever is found equal, in any store.
* `equal_self_iff`: what equals itself.
* `equalityLaws_of_loopFree`: where no vector and no record contains itself, every comparison has an
  answer, and the answers are an equivalence, but for NaN.
-/

namespace NameCompletion

/-- Elements that are related one way and then another way. -/
theorem forall₂_comp {α : Type} {R S T : α → α → Prop} {xs ys zs : List α}
    (h : List.Forall₂ R xs ys) (h' : List.Forall₂ S ys zs)
    (hRS : ∀ a b c, R a b → S b c → T a c) : List.Forall₂ T xs zs :=
  forall₂_join h h'.flip fun a c b _ hab hbc => hRS a b c hab hbc

namespace Value

open Comparison (values classes Visits)

variable {s : Store} {a b c : Value} {x y z : ClassRef}

/-! ## Induction along equal parts -/

/-- What holds of the entries that a comparison of equal bindings comes to holds of all of them. -/
theorem forall₂_values_of_comesTo {M : Value → Value → Prop} {m n : Namespace}
    (h : Namespace.equal s m n = some true)
    (hM : ∀ e e' : String × Value,
      ComesTo (fun e e' => e.1 = e'.1 ∧ equal s e.2 e'.2 = some true) m.toList n.toList e e' →
      e.1 = e'.1 → equal s e.2 e'.2 = some true → M e.2 e'.2) :
    m.names = n.names ∧ List.Forall₂ M m.values n.values := by
  refine Bindings.forall₂_toList_iff.1 ?_
  refine forall₂_of_comesTo (bindingsEqual_eq_some_true_iff.1 h) fun e e' hcomes he => ?_
  exact ⟨he.1, hM e e' hcomes he.1 he.2⟩

/-- The cases of an induction on equal values: the same value, equal numbers, and containers whose
parts are equal one by one.  The last case is that of classes that agree part by part. -/
structure EqualCases (s : Store) (M : Value → Value → Prop) (C : ClassRef → ClassRef → Prop) :
    Prop where
  same : ∀ a, equal s a a = some true → M a a
  number : ∀ x y, (x == y) = true → M (number x) (number y)
  vector : ∀ x y, equal s (vector x) (vector y) = some true →
    List.Forall₂ M (s.vector x) (s.vector y) → M (vector x) (vector y)
  record : ∀ x y, equal s (record x) (record y) = some true →
    (s.scope x).names = (s.scope y).names →
    List.Forall₂ M (s.scope x).values (s.scope y).values → M (record x) (record y)
  classObject : ∀ x y, equal s (classObject x) (classObject y) = some true → C x y →
    M (classObject x) (classObject y)
  classes : ∀ x y, s.classes.name x = s.classes.name y →
    (s.classes.members x).names = (s.classes.members y).names →
    List.Forall₂ M (s.classes.members x).values (s.classes.members y).values →
    List.Forall₂ C (s.classes.bases x) (s.classes.bases y) → C x y

/-- What the cases of an induction show of a comparison. -/
def Shows (M : Value → Value → Prop) (C : ClassRef → ClassRef → Prop) : Comparison → Prop
  | values a b => M a b
  | classes x y => C x y

theorem shows_of_equal {M : Value → Value → Prop} {C : ClassRef → ClassRef → Prop}
    (hcases : EqualCases s M C) {c : Comparison} (h : c.answer s (depthBound s) = some true) :
    Shows M C c := by
  refine Comparison.induction_of_equal (fun c hc ih => ?_) h
  cases c with
  | values a b =>
    -- Different cells have visits; the same cell is recognised without any.
    by_cases hsame : a = b
    · subst hsame
      exact hcases.same a hc
    · cases equalByKind_of_equal hc with
      | number hxy => exact hcases.number _ _ hxy
      | @vector x y hitems =>
        have hne : x ≠ y := fun heq => hsame (congrArg vector heq)
        refine hcases.vector x y hc (forall₂_of_comesTo hitems fun v w hcomes hvw => ?_)
        exact ih (values v w) (.element hne hcomes) hvw
      | @record x y hfields =>
        have hne : x ≠ y := fun heq => hsame (congrArg record heq)
        obtain ⟨hnames, hvalues⟩ := forall₂_values_of_comesTo hfields
          fun e e' hcomes hname he => ih (values e.2 e'.2) (.field hne hcomes hname) he
        exact hcases.record x y hc hnames hvalues
      | @classObject x y hclasses =>
        have hne : x ≠ y := fun heq => hsame (congrArg classObject heq)
        exact hcases.classObject x y hc (ih (classes x y) (.contents hne) hclasses)
      | null | boolean | text | sameVector | sameRecord | function | module | sameClass
      | instanceObject | hostObject => exact absurd rfl hsame
  | classes x y =>
    have hagree := classesEqual_eq_some_true_iff.1 hc
    obtain ⟨hnames, hvalues⟩ := forall₂_values_of_comesTo hagree.members
      fun e e' hcomes hname he => ih (values e.2 e'.2) (.member hagree.name hcomes hname) he
    refine hcases.classes x y hagree.name hnames hvalues ?_
    refine forall₂_of_comesTo hagree.bases fun b c hcomes hbc => ?_
    exact ih (classes b c) (.base hagree.name hagree.members hcomes) hbc

/-! ## Symmetry and transitivity -/

theorem equalCases_symm (s : Store) :
    EqualCases s (fun a b => equal s b a = some true) (fun x y => classesEqual s y x = some true)
    where
  same _ h := h
  number _ _ h := equal_eq_some_true_iff.2 (.number (BEq.symm h))
  vector _ _ _ h := equal_eq_some_true_iff.2 (.vector h.flip)
  record _ _ _ hnames hvalues :=
    equal_eq_some_true_iff.2 (.record (namespaceEqual_iff.2 ⟨hnames.symm, hvalues.flip⟩))
  classObject _ _ _ h := equal_eq_some_true_iff.2 (.classObject h)
  classes _ _ hname hnames hvalues hbases := classesEqual_eq_some_true_iff.2
    ⟨hname.symm, namespaceEqual_iff.2 ⟨hnames.symm, hvalues.flip⟩, hbases.flip⟩

/-- What is found equal is found equal the other way round. -/
theorem equal_symm (h : equal s a b = some true) : equal s b a = some true :=
  shows_of_equal (equalCases_symm s) (c := .values a b) h

theorem equalCases_trans (s : Store) :
    EqualCases s (fun a b => ∀ c, equal s b c = some true → equal s a c = some true)
      (fun x y => ∀ z, classesEqual s y z = some true → classesEqual s x z = some true) where
  same _ _ _ h := h
  number x y h c hc := by
    cases equalByKind_of_equal hc with
    | number h' => exact equal_eq_some_true_iff.2 (.number (BEq.trans h h'))
  vector x y h ih c hc := by
    cases equalByKind_of_equal hc with
    | sameVector => exact h
    | vector h' =>
      exact equal_eq_some_true_iff.2 (.vector (forall₂_comp ih h' fun _ _ c h h' => h c h'))
  record x y h hnames ih c hc := by
    cases equalByKind_of_equal hc with
    | sameRecord => exact h
    | record h' =>
      obtain ⟨hnames', hvalues⟩ := namespaceEqual_iff.1 h'
      exact equal_eq_some_true_iff.2 (.record (namespaceEqual_iff.2
        ⟨hnames.trans hnames', forall₂_comp ih hvalues fun _ _ c h h' => h c h'⟩))
  classObject x y h ih c hc := by
    cases equalByKind_of_equal hc with
    | sameClass => exact h
    | classObject h' => exact equal_eq_some_true_iff.2 (.classObject (ih _ h'))
  classes x y hname hnames ihvalues ihbases z hz := by
    have hagree := classesEqual_eq_some_true_iff.1 hz
    obtain ⟨hnames', hvalues⟩ := namespaceEqual_iff.1 hagree.members
    exact classesEqual_eq_some_true_iff.2
      ⟨hname.trans hagree.name,
        namespaceEqual_iff.2
          ⟨hnames.trans hnames', forall₂_comp ihvalues hvalues fun _ _ c h h' => h c h'⟩,
        forall₂_comp ihbases hagree.bases fun _ _ c h h' => h c h'⟩

theorem equal_trans (h : equal s a b = some true) (h' : equal s b c = some true) :
    equal s a c = some true :=
  shows_of_equal (equalCases_trans s) (c := .values a b) h c h'

/-- Only NaN does not equal itself. -/
theorem equal_self_iff : equal s a a = some true ↔ ∀ x, a = number x → x.isNaN = false := by
  rw [equal_eq_some_true_iff]
  constructor
  · rintro h x rfl
    cases h with
    | number h => exact beq_self_iff_isNaN.1 h
  · intro h
    cases a with
    | null => exact .null
    | boolean x => exact .boolean x
    | number x => exact .number (beq_self_iff_isNaN.2 (h x rfl))
    | text x => exact .text x
    | vector r => exact .sameVector r
    | record r => exact .sameRecord r
    | function f => exact .function f
    | module m => exact .module m
    | classObject c => exact .sameClass c
    | instanceObject i => exact .instanceObject i
    | hostObject object => exact .hostObject object

/-! ## The main result -/

/-- Every comparison has an answer, and equality is an equivalence but for NaN.  A clone of a value
refers to the same cells as the value, so the two are the same here. -/
structure EqualityLaws (s : Store) : Prop where
  answers : ∀ a b, ∃ r, equal s a b = some r
  symm : ∀ a b, equal s a b = equal s b a
  trans : ∀ a b c, equal s a b = some true → equal s b c = some true → equal s a c = some true
  clone : ∀ a, equal s a a = some true ↔ ∀ x, a = number x → x.isNaN = false

theorem equalityLaws_of_loopFree {s : Store} (hs : s.Reachable) (hfree : s.LoopFree) :
    EqualityLaws s where
  answers := exists_equal_of_loopFree hs.classesInOrder hfree
  symm a b := by
    obtain ⟨r, hr⟩ := exists_equal_of_loopFree hs.classesInOrder hfree a b
    obtain ⟨r', hr'⟩ := exists_equal_of_loopFree hs.classesInOrder hfree b a
    have hsame : r = true ↔ r' = true := by
      constructor
      · rintro rfl
        exact Option.some.inj (hr'.symm.trans (equal_symm hr))
      · rintro rfl
        exact Option.some.inj (hr.symm.trans (equal_symm hr'))
    rw [hr, hr', Bool.eq_iff_iff.2 hsame]
  trans _ _ _ h h' := equal_trans h h'
  clone _ := equal_self_iff

/-- A store with NaN in a vector, and with the vector in a class. -/
def nanInside : Store :=
  let items := Store.empty.newVector [.number (0.0 / 0.0)]
  (items.2.newClass
    { name := "Holder", members := .ofList [("items", .vector items.1)], bases := [] }).2

theorem reachable_nanInside : nanInside.Reachable := by
  have hitems : Store.empty.Step (Store.empty.newVector [.number (0.0 / 0.0)]).2 :=
    .newVector _ (List.forall_mem_singleton.2 ⟨nofun, nofun⟩)
  refine .tail (.single hitems) (.newClass _ ?_ nofun)
  exact List.forall_mem_singleton.2 (exists_of_cell rfl (by decide) nofun)

theorem loopFree_nanInside : nanInside.LoopFree := by
  have hvector : ∀ r, nanInside.vector r =
      if r = ⟨0⟩ then [.number (0.0 / 0.0)] else [] := fun r => Store.vector_newVector _ _ r
  intro v hv hitself
  obtain ⟨w, hw, hback⟩ := Relation.TransGen.head'_iff.1 hitself
  cases v with
  | vector r =>
    have hmem : w ∈ nanInside.vector r := hw
    rw [hvector] at hmem
    split at hmem
    · obtain rfl := List.mem_singleton.1 hmem
      -- One cannot go on from a number.
      rcases Relation.ReflTransGen.cases_head hback with heq | ⟨u, hu, _⟩
      · cases heq
      · cases hu
    · cases hmem
  | record r =>
    obtain ⟨e, he, _⟩ := List.mem_map.1 hw
    exact absurd (Comparison.scope_lt_of_mem he) (Nat.not_lt_zero _)
  | _ => exact hv

/-- A class that holds NaN equals itself, although NaN does not. -/
theorem nanInside_class_equals_itself :
    nanInside.Reachable ∧ nanInside.LoopFree ∧
      equal nanInside (.classObject ⟨0⟩) (.classObject ⟨0⟩) = some true ∧
      equal nanInside (.number (0.0 / 0.0)) (.number (0.0 / 0.0)) ≠ some true := by
  have hlaws := equalityLaws_of_loopFree reachable_nanInside loopFree_nanInside
  refine ⟨reachable_nanInside, loopFree_nanInside, (hlaws.clone _).2 nofun, fun h => ?_⟩
  have hnan : ((0.0 : Float) / 0.0).isNaN = true := by decide +kernel
  rw [(hlaws.clone _).1 h _ rfl] at hnan
  cases hnan

end Value

end NameCompletion
