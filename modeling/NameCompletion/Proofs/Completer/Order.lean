import NameCompletion.Completer
import NameCompletion.Proofs.Text.ByteOrder
import NameCompletion.Proofs.Word

/-!
# The order of candidates

Candidates are sorted after their marks were appended.  This file shows that sorting them is the
same as sorting the names that they are made of.

* `pairwise_inOrder`: sorting texts that differ makes them ascend strictly.
* `inOrder_map`: sorting can be moved past a function that keeps the order.
* `inOrder_marked`: what stands in front of a name, and the mark behind it, keep the order of names.
* `prefix_append_mark_iff`: a mark behind a name does not change what the name continues.
* `nodup_eraseDups`: what is listed once is listed once.
-/

namespace NameCompletion.Completer

/-! ## Sorting -/

@[simp] theorem mem_inOrder {text : String} {texts : List String} :
    text ∈ inOrder texts ↔ text ∈ texts :=
  List.mem_mergeSort

/-- Sorting texts that differ makes them ascend strictly. -/
theorem pairwise_inOrder {texts : List String} (h : texts.Nodup) :
    (inOrder texts).Pairwise (· < ·) := by
  have hle : (inOrder texts).Pairwise fun a b => decide (a ≤ b) = true := by
    refine List.pairwise_mergeSort (fun a b c hab hbc => ?_) (fun a b => ?_) texts
    · exact decide_eq_true (String.le_trans (of_decide_eq_true hab) (of_decide_eq_true hbc))
    · rcases String.le_total a b with hab | hba
      · simp [hab]
      · simp [hba]
  have hne : (inOrder texts).Nodup := (List.mergeSort_perm texts _).nodup_iff.2 h
  refine (hle.and hne).imp ?_
  rintro a b ⟨hab, hab'⟩
  by_contra hlt
  exact hab' (String.le_antisymm (of_decide_eq_true hab) hlt)

/-- A function that keeps the order of some names can be applied before or after sorting them. -/
theorem inOrder_map {f : String → String} {names : List String}
    (hmono : ∀ a ∈ names, ∀ b ∈ names, a < b → f a < f b) :
    inOrder (names.map f) = (inOrder names).map f := by
  refine (List.map_mergeSort fun a ha b hb => ?_).symm
  refine decide_eq_decide.2 ⟨fun hab => ?_, fun hab => ?_⟩
  · rintro hlt
    by_cases heq : a = b
    · subst heq
      exact String.lt_irrefl _ hlt
    · have hlt' : a < b := Bindings.lt_of_not_lt_of_ne hab (Ne.symm heq)
      exact String.lt_asymm hlt (hmono a ha b hb hlt')
  · intro hlt
    exact hab (hmono b hb a ha hlt)

/-! ## Listing once -/

theorem nodup_eraseDups (names : List String) : names.eraseDups.Nodup := by
  match names with
  | [] => exact List.nodup_nil
  | name :: rest =>
    rw [List.eraseDups_cons, List.nodup_cons]
    refine ⟨fun hmem => ?_, nodup_eraseDups _⟩
    rw [List.mem_eraseDups, List.mem_filter] at hmem
    simp at hmem
termination_by names.length
decreasing_by exact Nat.lt_succ_of_le (List.length_filter_le _ _)

/-! ## Marks -/

/-- What can be appended to a name: characters that come before all characters of a word. -/
def IsMark (mark : String) : Prop :=
  ∀ x ∈ mark.toList, x.toNat < 0x30

theorem isMark_empty : IsMark "" := by
  simp [IsMark]

theorem isMark_blank : IsMark " " := by
  simp [IsMark]

theorem isMark_parenthesis : IsMark "(" := by
  simp [IsMark]

/-- Candidates with the same text in front are in the order of their names. -/
theorem marked_lt {front a b m n : String} (h : a < b) (hb : isWord b.toList = true)
    (hm : IsMark m) : front ++ a ++ m < front ++ b ++ n := by
  have hname : (a ++ m).toList < (b ++ n).toList := append_mark_lt h hb hm
  show (front ++ a ++ m).toList < (front ++ b ++ n).toList
  simp only [String.toList_append, List.append_assoc] at hname ⊢
  exact List.append_left_lt hname

/-- A mark does not change which words a text continues. -/
theorem prefix_append_mark_iff {typed name mark : String}
    (htyped : typed.toList.all isWordChar = true) (hmark : IsMark mark) :
    typed.toList <+: (name ++ mark).toList ↔ typed.toList <+: name.toList := by
  rw [String.toList_append]
  constructor
  · intro h
    rcases List.prefix_or_prefix_of_prefix h (List.prefix_append name.toList mark.toList) with
      hname | ⟨rest, hrest⟩
    · exact hname
    · -- What goes beyond the name would be in the mark, where no character of a word is.
      rw [← hrest, List.prefix_append_right_inj] at h
      cases rest with
      | nil => exact ⟨[], by rw [← hrest, List.append_nil, List.append_nil]⟩
      | cons x rest =>
        have hlow : x.toNat < 0x30 := hmark x (h.subset List.mem_cons_self)
        have hword : isWordChar x = true := by
          refine List.all_eq_true.1 htyped x ?_
          rw [← hrest]
          simp
        exact absurd (zero_le_of_isWordChar hword) (Nat.not_le_of_lt hlow)
  · intro h
    exact h.trans (List.prefix_append ..)

/-- Words with marks behind them are the same only if the words are. -/
theorem eq_of_append_mark_eq {a b m n : String} (ha : isWord a.toList = true)
    (hb : isWord b.toList = true) (hm : IsMark m) (hn : IsMark n) (h : a ++ m = b ++ n) :
    a = b := by
  have hab : a.toList <+: (b ++ n).toList := by
    rw [← h, String.toList_append]
    exact List.prefix_append ..
  have hba : b.toList <+: (a ++ m).toList := by
    rw [h, String.toList_append]
    exact List.prefix_append ..
  rw [prefix_append_mark_iff (isWord_iff.1 ha).2 hn] at hab
  rw [prefix_append_mark_iff (isWord_iff.1 hb).2 hm] at hba
  exact String.toList_injective (hab.eq_of_length_le hba.length_le)

/-- The same text in front does not change what is the beginning of what. -/
theorem append_prefix_append_iff {front a b : String} :
    (front ++ a).toList <+: (front ++ b).toList ↔ a.toList <+: b.toList := by
  rw [String.toList_append, String.toList_append, List.prefix_append_right_inj]

variable {front : String} {mark : String → String} {names : List String}

/-- Sorting candidates is sorting their names. -/
theorem inOrder_marked (hword : ∀ n ∈ names, isWord n.toList = true)
    (hmark : ∀ n ∈ names, IsMark (mark n)) :
    inOrder (names.map fun n => front ++ n ++ mark n) =
      (inOrder names).map fun n => front ++ n ++ mark n :=
  inOrder_map fun a ha b hb h => marked_lt h (hword b hb) (hmark a ha)

/-- Candidates of ascending names ascend. -/
theorem pairwise_marked (hnames : names.Pairwise (· < ·))
    (hword : ∀ n ∈ names, isWord n.toList = true) (hmark : ∀ n ∈ names, IsMark (mark n)) :
    (names.map fun n => front ++ n ++ mark n).Pairwise (· < ·) := by
  rw [List.pairwise_map]
  refine hnames.imp_of_mem fun ha hb h => ?_
  exact marked_lt h (hword _ hb) (hmark _ ha)

end NameCompletion.Completer
