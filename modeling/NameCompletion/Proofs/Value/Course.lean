import Mathlib.Logic.Relation
import Mathlib.Order.Preorder.Finite
import Mathlib.Order.WellFounded
import NameCompletion.Proofs.Value.Equality

/-!
# The course of a comparison

A comparison looks at the elements of two lists from the left and stops at the first difference, so
it comes to two elements only if all elements in front of them are equal (`ComesTo`).  That decides
which further comparisons a comparison visits (`Comparison.Visits`).

* `ends_iff_acc`: a comparison ends exactly if one cannot go from visit to visit for ever.
* `not_ends_iff`: there are only finitely many pairs of cells, so a comparison that does not end
  comes back to a comparison that it has not finished yet.
* `induction_of_equal`: what holds of a comparison whenever it holds of all its visits holds of all
  that find their two sides equal.
-/

namespace NameCompletion

/-! ## Comparing lists -/

/-- Looking at lists of the same length from the left comes to these two elements, if it stops
at the first ones that are not related. -/
inductive ComesTo {α β : Type} (R : α → β → Prop) : List α → List β → α → β → Prop where
  | head {x : α} {y : β} {xs : List α} {ys : List β} (hlength : xs.length = ys.length) :
      ComesTo R (x :: xs) (y :: ys) x y
  | tail {x a : α} {y b : β} {xs : List α} {ys : List β} (hxy : R x y) (h : ComesTo R xs ys a b) :
      ComesTo R (x :: xs) (y :: ys) a b

section

variable {α : Type} {R T : α → α → Prop} {f : α → α → Option Bool} {xs ys : List α} {a b : α}

theorem ComesTo.length_eq (h : ComesTo R xs ys a b) : xs.length = ys.length := by
  induction h with
  | head hlength => exact congrArg Nat.succ hlength
  | tail _ _ ih => exact congrArg Nat.succ ih

theorem ComesTo.mem_zip (h : ComesTo R xs ys a b) : (a, b) ∈ xs.zip ys := by
  induction h with
  | head => exact List.mem_cons_self
  | tail _ _ ih => exact List.mem_cons_of_mem _ ih

/-- Looking at lists whose elements are related comes to all of them. -/
theorem forall₂_of_comesTo (h : List.Forall₂ R xs ys)
    (hT : ∀ x y, ComesTo R xs ys x y → R x y → T x y) : List.Forall₂ T xs ys := by
  induction h with
  | nil => exact .nil
  | cons hxy hrest ih =>
    refine .cons (hT _ _ (.head hrest.length_eq) hxy) (ih fun x y hxy' hR => ?_)
    exact hT x y (.tail hxy hxy') hR

/-- A comparison of lists that ends has an answer for all elements that it comes to. -/
theorem exists_of_listsEqual {r : Bool} (hlists : listsEqual f xs ys = some r)
    (h : ComesTo R xs ys a b) (hR : ∀ x y, R x y → f x y ≠ some false) :
    ∃ r', f a b = some r' := by
  rw [listsEqual, if_pos h.length_eq] at hlists
  induction h with
  | @head x y xs ys _ =>
    rw [elementsEqual] at hlists
    cases hxy : f x y with
    | none => rw [hxy] at hlists; cases hlists
    | some found => exact ⟨found, rfl⟩
  | @tail x _ y _ xs ys hxy _ ih =>
    rw [elementsEqual] at hlists
    cases hfound : f x y with
    | none => rw [hfound] at hlists; cases hlists
    | some found =>
      cases found with
      | false => exact absurd hfound (hR x y hxy)
      | true =>
        rw [hfound] at hlists
        exact ih hlists

/-- A comparison of lists that does not end comes to elements for which there is no answer. -/
theorem exists_of_listsEqual_eq_none (h : listsEqual f xs ys = none) :
    ∃ x y, ComesTo (fun x y => f x y = some true) xs ys x y ∧ f x y = none := by
  rw [listsEqual] at h
  split at h
  case isFalse => cases h
  case isTrue hlength =>
    induction xs generalizing ys with
    | nil => simp [elementsEqual] at h
    | cons x xs ih =>
      cases ys with
      | nil => cases hlength
      | cons y ys =>
        have hlength' : xs.length = ys.length := Nat.succ.inj hlength
        rw [elementsEqual] at h
        split at h
        · next hxy =>
          obtain ⟨a, b, hab, hnone⟩ := ih hlength' h
          exact ⟨a, b, .tail hxy hab, hnone⟩
        · exact ⟨x, y, .head hlength', h⟩

/-- The same for bindings: only entries of the same name are compared. -/
theorem exists_of_bindingsEqual_eq_none {a b : Bindings α} (h : bindingsEqual f a b = none) :
    ∃ e e', ComesTo (fun e e' => e.1 = e'.1 ∧ f e.2 e'.2 = some true) a.toList b.toList e e' ∧
      e.1 = e'.1 ∧ f e.2 e'.2 = none := by
  obtain ⟨e, e', hcomes, hnone⟩ := exists_of_listsEqual_eq_none h
  have hentries : (fun x y : String × α =>
      (if x.1 = y.1 then f x.2 y.2 else some false) = some true) =
      fun e e' => e.1 = e'.1 ∧ f e.2 e'.2 = some true := by
    funext x y
    split <;> simp_all
  rw [hentries] at hcomes
  split at hnone
  · next hname => exact ⟨e, e', hcomes, hname, hnone⟩
  · cases hnone

theorem exists_of_bindingsEqual {S : α → α → Prop} {a b : Bindings α} {e e' : String × α} {r : Bool}
    (hbindings : bindingsEqual f a b = some r)
    (h : ComesTo (fun e e' => e.1 = e'.1 ∧ S e.2 e'.2) a.toList b.toList e e')
    (hname : e.1 = e'.1) (hS : ∀ x y, S x y → f x y ≠ some false) :
    ∃ r', f e.2 e'.2 = some r' := by
  obtain ⟨r', hr'⟩ := exists_of_listsEqual hbindings h fun x y hxy => by
    rw [if_pos hxy.1]
    exact hS x.2 y.2 hxy.2
  rw [if_pos hname] at hr'
  exact ⟨r', hr'⟩

end

/-! ## The visits of a comparison -/

namespace Comparison

open Value (equal classesEqual depthBound)

/-- The comparison asks for the answer of another one: the two are different cells that look alike
so far, and everything in front of the two parts is equal. -/
inductive Visits (s : Store) : Comparison → Comparison → Prop where
  | element {x y : VectorRef} {v w : Value} (hne : x ≠ y)
      (h : ComesTo (fun v w => equal s v w = some true) (s.vector x) (s.vector y) v w) :
      Visits s (values (.vector x) (.vector y)) (values v w)
  | field {x y : ScopeRef} {e e' : String × Value} (hne : x ≠ y)
      (h : ComesTo (fun e e' => e.1 = e'.1 ∧ equal s e.2 e'.2 = some true) (s.scope x).toList
        (s.scope y).toList e e')
      (hname : e.1 = e'.1) : Visits s (values (.record x) (.record y)) (values e.2 e'.2)
  | contents {x y : ClassRef} (hne : x ≠ y) :
      Visits s (values (.classObject x) (.classObject y)) (classes x y)
  | member {x y : ClassRef} {e e' : String × Value}
      (hclass : s.classes.name x = s.classes.name y)
      (h : ComesTo (fun e e' => e.1 = e'.1 ∧ equal s e.2 e'.2 = some true)
        (s.classes.members x).toList (s.classes.members y).toList e e')
      (hname : e.1 = e'.1) : Visits s (classes x y) (values e.2 e'.2)
  | base {x y b c : ClassRef} (hclass : s.classes.name x = s.classes.name y)
      (hmembers : Namespace.equal s (s.classes.members x) (s.classes.members y) = some true)
      (h : ComesTo (fun b c => classesEqual s b c = some true) (s.classes.bases x)
        (s.classes.bases y) b c) : Visits s (classes x y) (classes b c)

/-- The comparison ends. -/
def Ends (s : Store) (c : Comparison) : Prop :=
  ∃ depth r, c.answer s depth = some r

variable {s : Store} {c part : Comparison} {depth : Nat} {r : Bool}

theorem Visits.isPart (h : Visits s c part) : Part s c part := by
  cases h with
  | element _ h => exact .element h.mem_zip
  | field _ h _ => exact .field h.mem_zip
  | contents => exact .contents _ _
  | member _ h _ => exact .member h.mem_zip
  | base _ _ h => exact .base h.mem_zip

theorem ends_iff : Ends s c ↔ ∃ r, c.answer s (depthBound s) = some r :=
  ⟨fun ⟨_, r, h⟩ => ⟨r, answer_depthBound h⟩, fun ⟨r, h⟩ => ⟨_, r, h⟩⟩

/-- What is equal is not found different within a smaller depth. -/
theorem answer_ne_false (h : c.answer s (depthBound s) = some true) (depth : Nat) :
    c.answer s depth ≠ some false := fun hfalse => by
  cases answer_unique h hfalse

/-- A comparison that ends within some depth has visited comparisons that end within one level
less. -/
theorem Visits.exists_answer (h : Visits s c part) (hr : c.answer s (depth + 1) = some r) :
    ∃ r', part.answer s depth = some r' := by
  cases h with
  | element hne h =>
    rw [answer, Value.equalWithin, if_neg hne] at hr
    exact exists_of_listsEqual hr h fun v w hvw => answer_ne_false (c := values v w) hvw depth
  | field hne h hname =>
    rw [answer, Value.equalWithin, if_neg hne] at hr
    exact exists_of_bindingsEqual hr h hname fun v w hvw =>
      answer_ne_false (c := values v w) hvw depth
  | contents hne =>
    rw [answer, Value.equalWithin, if_neg hne] at hr
    exact ⟨r, hr⟩
  | @member x y _ _ hclass h hname =>
    rw [answer, Value.classesEqualWithin, if_pos hclass] at hr
    cases hmembers : bindingsEqual (Value.equalWithin s depth) (s.classes.members x)
        (s.classes.members y) with
    | none => rw [hmembers] at hr; cases hr
    | some found =>
      exact exists_of_bindingsEqual hmembers h hname fun v w hvw =>
        answer_ne_false (c := values v w) hvw depth
  | @base x y _ _ hclass hequal h =>
    rw [answer, Value.classesEqualWithin, if_pos hclass] at hr
    cases hmembers : bindingsEqual (Value.equalWithin s depth) (s.classes.members x)
        (s.classes.members y) with
    | none => rw [hmembers] at hr; cases hr
    | some found =>
      have hfound : Namespace.equal s (s.classes.members x) (s.classes.members y) = some found :=
        bindingsEqual_mono (fun _ _ _ hv => Value.equal_eq_some_iff.2 ⟨depth, hv⟩) hmembers
      obtain rfl : true = found := Option.some.inj (hequal.symm.trans hfound)
      rw [hmembers] at hr
      exact exists_of_listsEqual hr h fun b c hbc =>
        answer_ne_false (c := classes b c) hbc depth

/-- A comparison that does not end visits one that does not end. -/
theorem exists_visits_of_not_ends (h : ¬ Ends s c) : ∃ part, Visits s c part ∧ ¬ Ends s part := by
  have hnone : c.answer s (depthBound s + 1) = none := by
    cases hr : c.answer s (depthBound s + 1) with
    | none => rfl
    | some r => exact absurd ⟨_, r, hr⟩ h
  have hendless : ∀ part : Comparison, part.answer s (depthBound s) = none → ¬ Ends s part := by
    intro part hpart hends
    obtain ⟨r, hr⟩ := ends_iff.1 hends
    rw [hpart] at hr
    cases hr
  cases c with
  | values a b =>
    rw [answer] at hnone
    unfold Value.equalWithin at hnone
    split at hnone
    case h_5 x y =>
      split at hnone
      · cases hnone
      · next hne =>
        obtain ⟨v, w, hcomes, hvw⟩ := exists_of_listsEqual_eq_none hnone
        exact ⟨values v w, .element hne hcomes, hendless _ hvw⟩
    case h_6 x y =>
      split at hnone
      · cases hnone
      · next hne =>
        obtain ⟨e, e', hcomes, hname, he⟩ := exists_of_bindingsEqual_eq_none hnone
        exact ⟨values e.2 e'.2, .field hne hcomes hname, hendless _ he⟩
    case h_9 x y =>
      split at hnone
      · cases hnone
      · next hne => exact ⟨classes x y, .contents hne, hendless _ hnone⟩
    all_goals cases hnone
  | classes x y =>
    rw [answer, Value.classesEqualWithin] at hnone
    split at hnone
    case isFalse => cases hnone
    case isTrue hclass =>
      split at hnone
      · next hmembers =>
        obtain ⟨b, c, hcomes, hbc⟩ := exists_of_listsEqual_eq_none hnone
        exact ⟨classes b c, .base hclass hmembers hcomes, hendless _ hbc⟩
      · obtain ⟨e, e', hcomes, hname, he⟩ := exists_of_bindingsEqual_eq_none hnone
        exact ⟨values e.2 e'.2, .member hclass hcomes hname, hendless _ he⟩

/-! ## Comparisons that end -/

/-- A comparison ends exactly if one cannot go from visit to visit for ever. -/
theorem ends_iff_acc : Ends s c ↔ Acc (fun part whole => Visits s whole part) c := by
  constructor
  · rintro ⟨depth, r, hr⟩
    induction depth generalizing c r with
    | zero => simp [answer_zero] at hr
    | succ depth ih =>
      refine .intro c fun part hpart => ?_
      obtain ⟨r', hr'⟩ := hpart.exists_answer hr
      exact ih r' hr'
  · intro h
    induction h with
    | intro c _ ih =>
      by_contra hendless
      obtain ⟨part, hpart, hnot⟩ := exists_visits_of_not_ends hendless
      exact hnot (ih part hpart)

/-- A comparison that ends never comes back to itself. -/
theorem Ends.not_again (h : Ends s c) : ¬ Relation.TransGen (Visits s) c c := by
  rw [ends_iff_acc] at h
  induction h with
  | intro c _ ih =>
    intro hloop
    obtain ⟨part, hpart, hback⟩ := Relation.TransGen.head'_iff.1 hloop
    exact ih part hpart (.tail' hback hpart)

/-- A comparison that ends visits only comparisons that end. -/
theorem Ends.of_reaches {later : Comparison} (h : Ends s c)
    (hreach : Relation.ReflTransGen (Visits s) c later) : Ends s later := by
  induction hreach with
  | refl => exact h
  | tail _ hpart ih => exact ends_iff_acc.2 ((ends_iff_acc.1 ih).inv hpart)

/-- A comparison that does not end comes back to one that it has not finished yet. -/
theorem not_ends_iff :
    ¬ Ends s c ↔ ∃ again, Relation.ReflTransGen (Visits s) c again ∧
      Relation.TransGen (Visits s) again again := by
  constructor
  · intro h
    rw [ends_iff_acc, not_acc_iff_exists_descending_chain] at h
    obtain ⟨visit, rfl, hvisit⟩ := h
    -- Each of them visits one that has visits again, and there are only finitely many such.
    obtain ⟨pairs, _, hpairs⟩ := exists_cellPairs s
    have hmem : ∀ n, visit n ∈ (pairs : Set Comparison) := fun n =>
      hpairs _ _ _ (hvisit n).isPart (hvisit (n + 1)).isPart
    obtain ⟨m, n, hlt, heq⟩ := pairs.finite_toSet.exists_lt_map_eq_of_forall_mem hmem
    have hloop : Relation.TransGen (Visits s) (visit m) (visit n) :=
      Nat.rel_of_forall_rel_succ_of_lt _ (fun k => .single (hvisit k)) hlt
    have hreach : Relation.ReflTransGen (Visits s) (visit 0) (visit m) :=
      Nat.rel_of_forall_rel_succ_of_le _ (fun k => .single (hvisit k)) (Nat.zero_le m)
    exact ⟨visit m, hreach, heq ▸ hloop⟩
  · rintro ⟨again, hreach, hloop⟩ hends
    exact (hends.of_reaches hreach).not_again hloop

/-- What holds of a comparison whenever it holds of all visits holds of every comparison that finds
its two sides equal. -/
theorem induction_of_equal {motive : Comparison → Prop}
    (step : ∀ c, c.answer s (depthBound s) = some true →
      (∀ part, Visits s c part → part.answer s (depthBound s) = some true → motive part) →
      motive c)
    (h : c.answer s (depthBound s) = some true) : motive c := by
  have hacc : Acc (fun part whole => Visits s whole part) c := ends_iff_acc.1 ⟨_, _, h⟩
  induction hacc with
  | intro c _ ih => exact step c h fun part hpart hequal => ih part hpart hequal

end Comparison

end NameCompletion
