import NameCompletion.Proofs.Completer.Offered
import NameCompletion.Proofs.Completer.Typeable

/-!
# Decoration

Candidates are sorted with their marks, and private members are hidden by looking at candidates that
bear their marks already.  Neither makes a difference: with and without decoration the same names
are offered in the same order (`offeredNames_decorated`), so decoration appends a mark to every
candidate and does nothing else (`complete_decorated`).
-/

namespace NameCompletion.Completer

open Fragment

/-- The completer with decoration on or off. -/
def decorated (c : Completer) (on : Bool) : Completer :=
  { c with options := c.options.decorated on }

/-! ## The same names -/

theorem resolve_decorated (c : Completer) (on : Bool) (path : List String) :
    (c.decorated on).resolve path = c.resolve path := by
  cases path <;> rfl

/-- Which names are offered does not depend on decoration. -/
theorem offeredNames_decorated (c : Completer) (on : Bool) (fragment : Fragment) :
    (c.decorated on).offeredNames fragment = c.offeredNames fragment := by
  refine offeredNames_ext fun n => ?_
  cases fragment with
  | global typed =>
    show n ∈ (c.decorated on).shownGlobals typed ↔ n ∈ c.shownGlobals typed
    rw [mem_shownGlobals, mem_shownGlobals]
    rfl
  | member path typed =>
    rw [mem_offeredNames_member, mem_offeredNames_member, resolve_decorated]
    rfl
  | invalid => rfl

/-- Without decoration nothing stands behind a name. -/
theorem offeredMark_of_plain {c : Completer} (hplain : c.options.decorate = false)
    (fragment : Fragment) (n : String) : c.offeredMark fragment n = "" := by
  cases fragment with
  | global typed => exact globalMark_of_plain hplain n
  | member path typed =>
    rw [offeredMark]
    cases c.resolve path with
    | none => rfl
    | some base => exact memberMark_of_plain hplain base n
  | invalid => rfl

/-! ## The main result -/

/-- Decoration changes neither the number nor the order of the candidates: each of them is the plain
candidate at its place, followed by nothing, a parenthesis or a blank. -/
theorem complete_decorated (c : Completer) (text : String) :
    ((c.decorated true).complete text).length = ((c.decorated false).complete text).length ∧
      ∀ i : Nat, ∃ mark ∈ ["", "(", " "],
        ((c.decorated true).complete text)[i]? =
          ((c.decorated false).complete text)[i]?.map fun plain => plain ++ mark := by
  have hon := (c.decorated true).complete_eq text
  have hoff := (c.decorated false).complete_eq text
  rw [offeredNames_decorated] at hon hoff
  simp only [offeredMark_of_plain (c := c.decorated false) rfl, String.append_empty] at hoff
  constructor
  · rw [hon, hoff, List.length_map, List.length_map]
  · intro i
    rw [hon, hoff, List.getElem?_map, List.getElem?_map]
    cases (c.offeredNames (parse text))[i]? with
    | none => exact ⟨"", by simp, rfl⟩
    | some n => exact ⟨_, (c.decorated true).offeredMark_mem (parse text) n, rfl⟩

end NameCompletion.Completer
