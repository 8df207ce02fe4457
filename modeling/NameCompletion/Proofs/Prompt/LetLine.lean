import NameCompletion.Proofs.Json.Reading
import NameCompletion.Proofs.Prompt.Binding
import NameCompletion.Proofs.Text.Blank
import NameCompletion.Proofs.Word

/-!
# Lines that bind a name

A line binds a name if it looks like `let NAME = JSON`, with any blanks around the name and the
value (`IsLetLine`).  Nothing is ambiguous about it: a word holds neither a blank nor an equals
sign, so the name ends before the first equals sign of the line, and JSON holds its own.

* `readCommand_of_isLetLine`: such a line is read as the binding that is written there.
* `exists_isLetLine_of_readCommand`: a line that is read as a binding looks like that.
* `readCommand_eq_assign_iff`: both.
-/

namespace NameCompletion

/-! ## Blanks, words and equals signs -/

/-- Sets of characters are disjoint if their ranges are. -/
theorem Text.Ranges.contains_eq_false_of_apart {these those : Text.Ranges}
    (hapart : ∀ r ∈ these.pairs, ∀ q ∈ those.pairs, r.2 < q.1 ∨ q.2 < r.1) {c : Char}
    (h : these.contains c = true) : those.contains c = false := by
  refine Bool.eq_false_iff.2 fun hthose => ?_
  obtain ⟨r, hr, hle, hge⟩ := exists_mem_of_covers h
  obtain ⟨q, hq, hle', hge'⟩ := exists_mem_of_covers hthose
  have hcase := hapart r hr q hq
  omega

theorem Text.isBlank_eq_false_of_isWordChar {c : Char} (h : isWordChar c = true) :
    Text.isBlank c = false := by
  rw [isWordChar, Bool.or_eq_true, Bool.or_eq_true, decide_eq_true_iff] at h
  rcases h with (rfl | halpha) | hnum
  · decide
  · exact Text.Ranges.contains_eq_false_of_apart (by decide +kernel) halpha
  · exact Text.Ranges.contains_eq_false_of_apart (by decide +kernel) hnum

theorem bare_of_isWord {cs : List Char} (h : isWord cs = true) : Text.Bare cs := by
  obtain ⟨hne, hall⟩ := isWord_iff.1 h
  have hblank : ∀ c ∈ cs, Text.isBlank c = false := fun c hc =>
    Text.isBlank_eq_false_of_isWordChar (List.all_eq_true.1 hall c hc)
  exact ⟨⟨_, List.head?_eq_some_head hne, hblank _ (List.head_mem hne)⟩,
    ⟨_, List.getLast?_eq_some_getLast hne, hblank _ (List.getLast_mem hne)⟩⟩

theorem ne_equals_of_isWordChar {c : Char} (h : isWordChar c = true) : (c != '=') = true := by
  rw [bne_iff_ne]
  rintro rfl
  exact absurd h (by decide +kernel)

theorem ne_equals_of_isBlank {c : Char} (h : Text.isBlank c = true) : (c != '=') = true := by
  rw [bne_iff_ne]
  rintro rfl
  exact absurd h (by decide)

namespace Prompt

/-! ## What is written in a line -/

/-- The line, without blanks at its ends, is `let`, a name, an equals sign and a text, with any
blanks between them. -/
structure IsLetLine (line name written : String) : Prop where
  word : isWord name.toList = true
  noDigit : (name.toList.take 1).any Char.isDigit = false
  layout : ∃ before after gap : List Char,
    Text.trimChars line.toList =
      "let ".toList ++ (before ++ name.toList ++ after ++ '=' :: (gap ++ written.toList)) ∧
    ∀ c ∈ before ++ after ++ gap, Text.isBlank c = true

/-! ## Reading such a line -/

section

variable {s s' : Store} {line name written : String} {j : Json} {value : Value}

/-- Blanks around a name do not matter. -/
theorem readName_append {before after : List Char} (hword : isWord name.toList = true)
    (hdigit : (name.toList.take 1).any Char.isDigit = false)
    (hbefore : ∀ c ∈ before, Text.isBlank c = true) (hafter : ∀ c ∈ after, Text.isBlank c = true) :
    readName (before ++ name.toList ++ after) = .ok name := by
  refine readName_eq_ok_iff.2 ⟨?_, hword, hdigit⟩
  rw [Text.trimChars_append hbefore (bare_of_isWord hword) hafter]

/-- The line is read as the binding that is written there. -/
theorem readCommand_of_isLetLine (h : IsLetLine line name written)
    (hparse : Json.parse? written = some j) (hload : Snapshot.loadValue s j = .ok (value, s')) :
    readCommand s line = .ok (.assign name value, s') := by
  obtain ⟨before, after, gap, hline, hblank⟩ := h.layout
  simp only [List.forall_mem_append] at hblank
  obtain ⟨⟨hbefore, hafter⟩, hgap⟩ := hblank
  obtain ⟨front, bare, rest, hwritten, hfront, hbare, hrest, hparse'⟩ :=
    Json.exists_of_parse? hparse
  -- The first equals sign of the line is the one behind the name.
  have hfree : ∀ c ∈ before ++ name.toList ++ after, (c != '=') = true := by
    intro c hc
    rcases List.mem_append.1 hc with hc | hc
    · rcases List.mem_append.1 hc with hc | hc
      · exact ne_equals_of_isBlank (hbefore c hc)
      · exact ne_equals_of_isWordChar (List.all_eq_true.1 (isWord_iff.1 h.word).2 c hc)
    · exact ne_equals_of_isBlank (hafter c hc)
  have htrim : Text.trimChars (gap ++ written.toList) = bare := by
    have hall : ∀ c ∈ gap ++ front, Text.isBlank c = true :=
      List.forall_mem_append.2 ⟨hgap, hfront⟩
    have happend := Text.trimChars_append hall hbare hrest
    simp only [List.append_assoc] at happend hwritten
    rw [hwritten, happend]
  rw [readCommand, hline, readTrimmed, after?_eq_some_iff.2 rfl]
  refine readBinding_eq_ok_iff.2 ⟨'=', gap ++ written.toList, j, ?_, ?_, ?_, hload⟩
  · rw [List.dropWhile_append_of_pos hfree]
    rfl
  · rw [List.takeWhile_append_of_pos hfree]
    show readName (before ++ name.toList ++ after ++ []) = .ok name
    rw [List.append_nil]
    exact readName_append h.word h.noDigit hbefore hafter
  · rw [htrim, hparse']

/-- Blanks at the end of a line are not part of what is written in it. -/
theorem eq_nil_of_isBlank_of_trimChars {cs front back : List Char}
    (h : Text.trimChars cs = front ++ back) (hback : ∀ c ∈ back, Text.isBlank c = true) :
    back = [] := by
  by_contra hne
  have htrimmed : Text.trimChars cs ≠ [] := by
    rw [h]
    exact List.append_ne_nil_of_right_ne_nil front hne
  obtain ⟨c, hlast, hc⟩ := (Text.bare_trimChars htrimmed).last
  rw [h, List.getLast?_append_of_ne_nil _ hne] at hlast
  rw [hback c (List.mem_of_getLast? hlast)] at hc
  cases hc

/-- A line that is read as a binding is written as one. -/
theorem exists_isLetLine_of_readCommand (h : readCommand s line = .ok (.assign name value, s')) :
    ∃ written j, IsLetLine line name written ∧ Json.parse? written = some j ∧
      Snapshot.loadValue s j = .ok (value, s') := by
  obtain ⟨rest, hline, hread⟩ := readBinding_of_readCommand h
  obtain ⟨sign, behind, j, hcut, hname, hparse, hload⟩ := readBinding_eq_ok_iff.1 hread
  obtain ⟨hchars, hword, hdigit⟩ := readName_eq_ok_iff.1 hname
  obtain rfl : sign = '=' := by
    have hhead := List.head?_dropWhile_not (· != '=') rest
    rw [hcut] at hhead
    simpa using hhead
  obtain ⟨before, after, hinfront, hbefore, hafter⟩ :=
    Text.exists_append_trimChars (rest.takeWhile (· != '='))
  obtain ⟨gap, back, hbehind, hgap, hback⟩ := Text.exists_append_trimChars behind
  rw [← hchars] at hinfront
  have hrest : rest =
      before ++ name.toList ++ after ++ '=' :: (gap ++ Text.trimChars behind ++ back) := by
    rw [← hinfront, ← hbehind, ← hcut, List.takeWhile_append_dropWhile]
  -- The line was trimmed, so nothing follows the value.
  have hends : Text.trimChars line.toList = "let ".toList ++
      (before ++ name.toList ++ after ++ '=' :: (gap ++ Text.trimChars behind)) ++ back := by
    rw [hline, hrest]
    simp only [List.append_assoc, List.cons_append]
  have hnone : back = [] := eq_nil_of_isBlank_of_trimChars hends hback
  refine ⟨String.ofList (Text.trimChars behind), j, ⟨hword, hdigit, before, after, gap, ?_, ?_⟩,
    hparse, hload⟩
  · rw [hline, hrest, hnone, List.append_nil, String.toList_ofList (l := Text.trimChars behind)]
  · exact List.forall_mem_append.2 ⟨List.forall_mem_append.2 ⟨hbefore, hafter⟩, hgap⟩

end

/-! ## The main result -/

/-- A line is read as a binding of the name exactly if that is what is written in it: `let`, the
name, an equals sign and JSON for the value, with any blanks between them and around the line. -/
theorem readCommand_eq_assign_iff (s s' : Store) (line name : String) (value : Value) :
    readCommand s line = .ok (.assign name value, s') ↔
      ∃ written j, IsLetLine line name written ∧ Json.parse? written = some j ∧
        Snapshot.loadValue s j = .ok (value, s') := by
  constructor
  · exact exists_isLetLine_of_readCommand
  · rintro ⟨written, j, hline, hparse, hload⟩
    exact readCommand_of_isLetLine hline hparse hload

/-- An equals sign in the value is part of the value. -/
example : IsLetLine " let a= \"b=c\" " "a" "\"b=c\"" :=
  ⟨by decide +kernel, rfl, [], [], [' '], by decide, List.forall_mem_singleton.2 rfl⟩

end Prompt

end NameCompletion
