import Mathlib.Data.List.Basic
import NameCompletion.Word

/-!
# Facts about words

What later files have to know about the characters of a word, without the tables of letters and
digits: all of them come after the dot, the blank and the parenthesis (`lt_of_isWordChar`).

* A word holds no dot (`dot_not_mem_of_isWord`), so words can be joined by dots and told apart
  again.
* A mark of smaller characters, such as `(` or a blank, can be appended to words without changing
  their order (`append_mark_lt`).
-/

namespace NameCompletion

/-! ## Characters of a word -/

/-- The smallest character of a word is the digit zero. -/
theorem zero_le_of_isWordChar {c : Char} (h : isWordChar c = true) : 0x30 ≤ c.toNat := by
  rw [isWordChar, Bool.or_eq_true, Bool.or_eq_true, decide_eq_true_iff] at h
  rcases h with (rfl | halpha) | hnum
  · decide
  · obtain ⟨r, hr, hle, _⟩ := Text.Ranges.exists_mem_of_covers halpha
    have hall : ∀ r ∈ Text.alphabetic.pairs, 0x30 ≤ r.1 := by decide +kernel
    exact Nat.le_trans (hall r hr) hle
  · obtain ⟨r, hr, hle, _⟩ := Text.Ranges.exists_mem_of_covers hnum
    have hall : ∀ r ∈ Text.numeric.pairs, 0x30 ≤ r.1 := by decide +kernel
    exact Nat.le_trans (hall r hr) hle

/-- A character below the digits comes before every character of a word. -/
theorem lt_of_isWordChar {x c : Char} (hx : x.toNat < 0x30) (hc : isWordChar c = true) : x < c :=
  Nat.lt_of_lt_of_le hx (zero_le_of_isWordChar hc)

theorem ne_dot_of_isWordChar {c : Char} (h : isWordChar c = true) : c ≠ '.' :=
  (Char.ne_of_lt (lt_of_isWordChar (by decide) h)).symm

theorem dot_not_mem_of_all_isWordChar {cs : List Char} (h : cs.all isWordChar = true) :
    '.' ∉ cs := fun hdot =>
  ne_dot_of_isWordChar (List.all_eq_true.1 h '.' hdot) rfl

/-! ## Words and identifiers -/

theorem isWord_iff {cs : List Char} :
    isWord cs = true ↔ cs ≠ [] ∧ cs.all isWordChar = true := by
  simp [isWord]

theorem dot_not_mem_of_isWord {cs : List Char} (h : isWord cs = true) : '.' ∉ cs :=
  dot_not_mem_of_all_isWordChar (isWord_iff.1 h).2

theorem isWord_of_isIdentifier {name : String} (h : isIdentifier name = true) :
    isWord name.toList = true := by
  rw [isIdentifier, Bool.and_eq_true] at h
  exact h.1

theorem dot_not_mem_of_isIdentifier {name : String} (h : isIdentifier name = true) :
    '.' ∉ name.toList :=
  dot_not_mem_of_isWord (isWord_of_isIdentifier h)

theorem ne_empty_of_isIdentifier {name : String} (h : isIdentifier name = true) : name ≠ "" := by
  rintro rfl
  exact (isWord_iff.1 (isWord_of_isIdentifier h)).1 rfl

/-- A name continues the typed text exactly if the text is its beginning. -/
theorem continuesText_iff {typed name : String} :
    continuesText typed name = true ↔ typed.toList <+: name.toList :=
  List.isPrefixOf_iff_prefix

/-! ## Marks behind words -/

/-- What follows a smaller text of larger characters does not matter, provided that the first thing
appended to it is smaller than they are. -/
theorem append_lt_append_of_lt :
    ∀ {a b m n : List Char}, a < b → (∀ x ∈ m, ∀ y ∈ b, x < y) → a ++ m < b ++ n
  | _, [], _, _, h, _ => absurd h (List.not_lt_nil _)
  | [], y :: b, [], n, _, _ => List.nil_lt_cons y (b ++ n)
  | [], y :: b, x :: m, n, _, hm =>
    List.cons_lt_cons_iff.2 (.inl (hm x List.mem_cons_self y List.mem_cons_self))
  | x :: a, y :: b, m, n, h, hm => by
    rw [List.cons_append, List.cons_append, List.cons_lt_cons_iff]
    rcases List.cons_lt_cons_iff.1 h with hlt | ⟨heq, hrest⟩
    · exact .inl hlt
    · refine .inr ⟨heq, append_lt_append_of_lt hrest fun x hx y hy => ?_⟩
      exact hm x hx y (List.mem_cons_of_mem _ hy)

/-- Marks that come before all characters of a word do not change the order of words. -/
theorem append_mark_lt {a b m n : String} (h : a < b) (hb : isWord b.toList = true)
    (hm : ∀ x ∈ m.toList, x.toNat < 0x30) : a ++ m < b ++ n := by
  have hword : b.toList.all isWordChar = true := (isWord_iff.1 hb).2
  show (a ++ m).toList < (b ++ n).toList
  rw [String.toList_append, String.toList_append]
  refine append_lt_append_of_lt h fun x hx y hy => ?_
  exact lt_of_isWordChar (hm x hx) (List.all_eq_true.1 hword y hy)

end NameCompletion
