import Mathlib.Data.List.Forall2
import NameCompletion.Proofs.Value.Comparison
import NameCompletion.Value.Members

/-!
# Which values are equal

The answer of a comparison, said without the depth within which it is found.

* `EqualByKind`: what it takes for two values to be equal.  Vectors, records and classes are equal
  if their contents are; modules, instances and host objects only if they are the same.
* `AgreeByParts`: what it takes for two classes to have equal contents.
* `equal_eq_some_true_iff` and `classesEqual_eq_some_true_iff`: comparing finds exactly that.
-/

namespace NameCompletion

/-! ## Equal lists and bindings -/

section

variable {α : Type} {equal : α → α → Option Bool}

theorem listsEqual_eq_some_true_iff {xs ys : List α} :
    listsEqual equal xs ys = some true ↔
      List.Forall₂ (fun x y => equal x y = some true) xs ys := by
  induction xs generalizing ys with
  | nil => cases ys <;> simp [listsEqual, elementsEqual]
  | cons x xs ih =>
    cases ys with
    | nil => simp [listsEqual]
    | cons y ys =>
      rw [List.forall₂_cons, ← ih, listsEqual, listsEqual, List.length_cons, List.length_cons,
        elementsEqual]
      cases equal x y with
      | none => simp
      | some found => cases found <;> simp

theorem bindingsEqual_eq_some_true_iff {a b : Bindings α} :
    bindingsEqual equal a b = some true ↔
      List.Forall₂ (fun x y => x.1 = y.1 ∧ equal x.2 y.2 = some true) a.toList b.toList := by
  rw [bindingsEqual, listsEqual_eq_some_true_iff]
  refine iff_of_eq (congrArg (List.Forall₂ · _ _) ?_)
  funext x y
  split <;> simp_all

end

/-! ## Equal values -/

namespace Value

/-- What it takes for two values to be equal, kind by kind. -/
inductive EqualByKind (s : Store) : Value → Value → Prop where
  | null : EqualByKind s .null .null
  | boolean (x : Bool) : EqualByKind s (.boolean x) (.boolean x)
  | number {x y : Float} (h : (x == y) = true) : EqualByKind s (.number x) (.number y)
  | text (x : String) : EqualByKind s (.text x) (.text x)
  | sameVector (x : VectorRef) : EqualByKind s (.vector x) (.vector x)
  | vector {x y : VectorRef}
      (h : List.Forall₂ (fun a b => equal s a b = some true) (s.vector x) (s.vector y)) :
      EqualByKind s (.vector x) (.vector y)
  | sameRecord (x : ScopeRef) : EqualByKind s (.record x) (.record x)
  | record {x y : ScopeRef} (h : Namespace.equal s (s.scope x) (s.scope y) = some true) :
      EqualByKind s (.record x) (.record y)
  | function (f : Function) : EqualByKind s (.function f) (.function f)
  | module (m : Module) : EqualByKind s (.module m) (.module m)
  | sameClass (x : ClassRef) : EqualByKind s (.classObject x) (.classObject x)
  | classObject {x y : ClassRef} (h : classesEqual s x y = some true) :
      EqualByKind s (.classObject x) (.classObject y)
  | instanceObject (i : Instance) : EqualByKind s (.instanceObject i) (.instanceObject i)
  | hostObject (h : HostRef) : EqualByKind s (.hostObject h) (.hostObject h)

/-- What it takes for two classes to agree, part by part. -/
structure AgreeByParts (s : Store) (x y : ClassRef) : Prop where
  name : s.classes.name x = s.classes.name y
  members : Namespace.equal s (s.classes.members x) (s.classes.members y) = some true
  bases : List.Forall₂ (fun b c => classesEqual s b c = some true) (s.classes.bases x)
    (s.classes.bases y)

variable {s : Store} {a b : Value} {x y : ClassRef}

theorem equalByKind_of_equal (h : equal s a b = some true) : EqualByKind s a b := by
  rw [equal_eq_succ] at h
  unfold equalWithin at h
  split at h
  case h_1 => exact .null
  case h_2 => exact eq_of_beq (Option.some.inj h) ▸ .boolean _
  case h_3 => exact .number (Option.some.inj h)
  case h_4 => exact eq_of_beq (Option.some.inj h) ▸ .text _
  case h_5 x y =>
    split at h
    · next heq => exact heq ▸ .sameVector x
    · exact .vector (listsEqual_eq_some_true_iff.1 h)
  case h_6 x y =>
    split at h
    · next heq => exact heq ▸ .sameRecord x
    · exact .record h
  case h_7 => exact eq_of_beq (Option.some.inj h) ▸ .function _
  case h_8 => exact eq_of_beq (Option.some.inj h) ▸ .module _
  case h_9 x y =>
    split at h
    · next heq => exact heq ▸ .sameClass x
    · exact .classObject h
  case h_10 => exact eq_of_beq (Option.some.inj h) ▸ .instanceObject _
  case h_11 => exact eq_of_beq (Option.some.inj h) ▸ .hostObject _
  case h_12 => cases h

/-- Comparing finds two values equal exactly if they are, kind by kind. -/
theorem equal_eq_some_true_iff : equal s a b = some true ↔ EqualByKind s a b := by
  refine ⟨equalByKind_of_equal, fun h => ?_⟩
  -- The same cell is recognised before its contents are looked at.
  have hcell : ∀ {same : Prop} [Decidable same] {found : Option Bool}, found = some true →
      (if same then some true else found) = some true := by
    intro same _ found hfound
    split
    · rfl
    · exact hfound
  rw [equal_eq_succ]
  unfold equalWithin
  cases h with
  | null => rfl
  | boolean | text | function | module | instanceObject | hostObject => simp
  | number h => exact congrArg some h
  | sameVector | sameRecord | sameClass => exact if_pos rfl
  | vector h => exact hcell (listsEqual_eq_some_true_iff.2 h)
  | record h => exact hcell h
  | classObject h => exact hcell h

/-- Comparing finds that two classes agree exactly if they do, part by part. -/
theorem classesEqual_eq_some_true_iff : classesEqual s x y = some true ↔ AgreeByParts s x y := by
  rw [classesEqual_eq_succ, classesEqualWithin]
  constructor
  · intro h
    split at h
    · next hname =>
      split at h
      · next hmembers => exact ⟨hname, hmembers, listsEqual_eq_some_true_iff.1 h⟩
      · next hmembers => exact absurd h hmembers
    · cases h
  · intro h
    have hmembers : bindingsEqual (equalWithin s (depthBound s)) (s.classes.members x)
        (s.classes.members y) = some true := h.members
    rw [if_pos h.name, hmembers]
    exact listsEqual_eq_some_true_iff.2 h.bases

end Value

end NameCompletion
