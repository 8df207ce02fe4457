import NameCompletion.Proofs.Completer.Resolution
import NameCompletion.Proofs.Value.Position

/-!
# Completion after a change elsewhere

Completion reads the values that a path leads to, and of the members that it finds there only
whether they can be called.  So a change of a cell leaves all completions as they are, but for those
behind a path that leads to that cell or through it (`complete_withStore`).
-/

namespace NameCompletion.Completer

/-- The values that the path leads to, from the first name to the last one, are not in the cell. -/
def Avoids (c : Completer) (cell : Cell) (path : List String) : Prop :=
  ∀ front, front <+: path → ∀ v, c.LeadsTo front v → v.cell? ≠ some cell

/-- The same completer with another store. -/
def withStore (c : Completer) (store : Store) : Completer :=
  { c with store }

variable {c : Completer} {cell : Cell} {now : Store} {path : List String} {v : Value}

theorem callMark_withStore (h : c.store.AgreeBut cell now) (v : Value) :
    (c.withStore now).callMark v = c.callMark v := by
  have hcallable : v.isCallable now = v.isCallable c.store := Value.isCallable_of_agreeBut h v
  show (if c.options.decorate && v.isCallable now then "(" else "") = c.callMark v
  rw [hcallable]
  rfl

theorem globalMatches_withStore (h : c.store.AgreeBut cell now) (typed : String) :
    (c.withStore now).globalMatches typed = c.globalMatches typed := by
  have hbound : ∀ names, (c.withStore now).boundOffers names = c.boundOffers names := by
    intro names
    unfold boundOffers
    simp only [callMark_withStore h]
  have hoffers : (c.withStore now).globalOffers = c.globalOffers := by
    unfold globalOffers
    rw [hbound]
    show _ ++ ((c.builtins.map (c.withStore now).boundOffers).getD []) = _
    rw [funext hbound]
    rfl
  unfold globalMatches
  rw [hoffers]

theorem member?_withStore (h : c.store.AgreeBut cell now) (hv : v.cell? ≠ some cell)
    (name : String) : (c.withStore now).member? v name = c.member? v name := by
  have hmember : v.member (c.withStore now).store name = v.member c.store name :=
    (Value.readsAlike_of_agreeBut h hv).member name
  rw [member?, member?, hmember]

/-- A path that avoids the cell leads where it led before. -/
theorem resolve_withStore (h : c.store.AgreeBut cell now) (haway : c.Avoids cell path) :
    (c.withStore now).resolve path = c.resolve path := by
  induction path using List.reverseRecOn with
  | nil => rfl
  | append_singleton path name ih =>
    by_cases hne : path = []
    · subst hne
      rw [List.nil_append, resolve_singleton, resolve_singleton]
      rfl
    · have hfront : path <+: path ++ [name] := List.prefix_append path [name]
      rw [resolve_append_singleton _ hne, resolve_append_singleton _ hne,
        ih fun front hstart => haway front (hstart.trans hfront)]
      cases hbase : c.resolve path with
      | none => rfl
      | some base =>
        exact member?_withStore h (haway path hfront base (resolve_eq_some_iff.1 hbase)) name

theorem memberCandidate?_withStore (h : c.store.AgreeBut cell now) (hv : v.cell? ≠ some cell)
    (name : String) :
    (c.withStore now).memberCandidate? path v name = c.memberCandidate? path v name := by
  have hmember : v.member (c.withStore now).store name = v.member c.store name :=
    (Value.readsAlike_of_agreeBut h hv).member name
  unfold memberCandidate?
  rw [hmember]
  simp only [callMark_withStore h]

theorem memberMatches_withStore (h : c.store.AgreeBut cell now) (haway : c.Avoids cell path)
    (typed : String) : (c.withStore now).memberMatches path typed = c.memberMatches path typed := by
  unfold memberMatches
  rw [resolve_withStore h haway]
  cases hbase : c.resolve path with
  | none => rfl
  | some v =>
    have hv : v.cell? ≠ some cell :=
      haway path (List.prefix_refl path) v (resolve_eq_some_iff.1 hbase)
    have hlisted : v.memberNames (c.withStore now).store = v.memberNames c.store :=
      (Value.readsAlike_of_agreeBut h hv).memberNames
    have hcandidate : (c.withStore now).memberCandidate? path v = c.memberCandidate? path v :=
      funext (memberCandidate?_withStore h hv)
    simp only [hlisted, hcandidate]
    rfl

/-- A change of a cell leaves the completions of a text as they are, unless the text asks for
members behind a path that goes through the cell. -/
theorem complete_withStore (h : c.store.AgreeBut cell now) {text : String}
    (haway : ∀ path typed, Fragment.parse text = .member path typed → c.Avoids cell path) :
    (c.withStore now).complete text = c.complete text := by
  unfold complete
  cases hparse : Fragment.parse text with
  | global typed => exact globalMatches_withStore h typed
  | member path typed => exact memberMatches_withStore h (haway path typed hparse) typed
  | invalid => rfl

end NameCompletion.Completer
