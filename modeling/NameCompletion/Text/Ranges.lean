/-!
# Sets of characters as ranges of code points

A property of characters is stored as the ascending list of its maximal ranges.  A look-up walks the
list and stops at the first range that starts above the code point, so a character of a low block is
found or refused within a few steps.
-/

namespace NameCompletion.Text

/-- Ranges of code points in ascending order, first and last code point included. -/
structure Ranges where
  pairs : List (Nat × Nat)

namespace Ranges

/-- Whether some range of the ascending list holds the code point. -/
def covers : List (Nat × Nat) → Nat → Bool
  | [], _ => false
  | (first, last) :: rest, code =>
    if code < first then false else decide (code ≤ last) || covers rest code

/-- Whether the character is in one of the ranges. -/
def contains (ranges : Ranges) (c : Char) : Bool :=
  covers ranges.pairs c.toNat

/-- A code point that the list covers lies in one of its ranges. -/
theorem exists_mem_of_covers {pairs : List (Nat × Nat)} {code : Nat}
    (h : covers pairs code = true) : ∃ r ∈ pairs, r.1 ≤ code ∧ code ≤ r.2 := by
  induction pairs with
  | nil => simp [covers] at h
  | cons r rest ih =>
    obtain ⟨first, last⟩ := r
    rw [covers] at h
    split at h
    · simp at h
    · next hfirst =>
      rw [Bool.or_eq_true, decide_eq_true_iff] at h
      rcases h with hlast | hrest
      · exact ⟨(first, last), by simp, by simpa using hfirst, hlast⟩
      · obtain ⟨r, hr, hin⟩ := ih hrest
        exact ⟨r, List.mem_cons_of_mem _ hr, hin⟩

end Ranges

end NameCompletion.Text
