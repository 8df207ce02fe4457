import NameCompletion.Proofs.Completer.Offered

/-!
# Chains

A chain is what a dotted text has to be so that it asks for something: words joined by dots, and
behind the last dot word characters, if there are any.

* `CutAtLastDot` and `IsChain`: where a text is cut, and what the parts have to be.
* `reads`: every text is read by these two alone, and nothing of it is lost.
* `wellFormed_of_mem_complete`: a text that has candidates is well formed.  Behind a dot that is
  seen to when the text is read; a text without a dot is read as it is, and there it is the names
  that rule out everything else.

`texts_read_as_chains` puts these together.
-/

namespace NameCompletion

namespace Fragment

/-! ## Cutting a text at its last dot -/

/-- The last dot of the text stands between the two parts. -/
def CutAtLastDot (text front last : String) : Prop :=
  text = front ++ "." ++ last ∧ '.' ∉ last.toList

/-- Words in front of the last dot, and word characters behind it. -/
def IsChain (front last : String) : Prop :=
  (∀ s ∈ segments front, isWord s.toList = true) ∧ last.toList.all isWordChar = true

instance (front last : String) : Decidable (IsChain front last) :=
  inferInstanceAs (Decidable (_ ∧ _))

variable {text front last : String}

theorem CutAtLastDot.segments_eq (h : CutAtLastDot text front last) :
    segments text = segments front ++ [last] := by
  rw [h.1, segments_append_dot, segments_of_dot_not_mem h.2]

/-- A text has one last dot at most. -/
theorem CutAtLastDot.unique {front' last' : String} (h : CutAtLastDot text front last)
    (h' : CutAtLastDot text front' last') : front = front' ∧ last = last' := by
  have hsegments := h.segments_eq.symm.trans h'.segments_eq
  obtain ⟨hfront, hlast⟩ := List.append_inj' hsegments rfl
  refine ⟨?_, List.singleton_inj.1 hlast⟩
  rw [← joinPath_segments front, hfront, joinPath_segments]

theorem exists_cut_iff : (∃ front last, CutAtLastDot text front last) ↔ '.' ∈ text.toList := by
  constructor
  · rintro ⟨front, last, rfl, _⟩
    simp
  · intro h
    obtain ⟨front, last, hlast, htext⟩ := exists_last_dot h
    exact ⟨front, last, htext, hlast⟩

/-- A path of words is cut off by the dot behind it. -/
theorem cutAtLastDot_joinPath {path : List String} {typed : String}
    (htyped : typed.toList.all isWordChar = true) :
    CutAtLastDot (joinPath path ++ "." ++ typed) (joinPath path) typed :=
  ⟨rfl, dot_not_mem_of_all_isWordChar htyped⟩

theorem segments_joinPath_words {path : List String} (hne : path ≠ [])
    (hpath : ∀ s ∈ path, isWord s.toList = true) : segments (joinPath path) = path :=
  segments_joinPath hne fun s hs => dot_not_mem_of_isWord (hpath s hs)

/-! ## Reading a text that is cut -/

/-- How every text is read. -/
structure Reads (text : String) : Prop where
  global_iff : ∀ typed, parse text = .global typed ↔ typed = text ∧ '.' ∉ text.toList
  member_iff : ∀ path typed, parse text = .member path typed ↔
    ∃ front, CutAtLastDot text front typed ∧ IsChain front typed ∧ segments front = path
  /-- The path is what stands in front of the last dot, and what is typed is all that stands behind
  it. -/
  lossless : ∀ path typed front last, parse text = .member path typed →
    CutAtLastDot text front last →
      joinPath path = front ∧ typed = last ∧ front ++ "." ++ typed = text
  invalid_iff : parse text = .invalid ↔
    ∃ front last, CutAtLastDot text front last ∧ ¬ IsChain front last

theorem parse_of_cut (h : CutAtLastDot text front last) :
    parse text = if IsChain front last then .member (segments front) last else .invalid := by
  rw [parse_of_segments (segments_ne_nil front) h.segments_eq]
  refine if_congr ?_ rfl rfl
  rw [Bool.and_eq_true, List.all_eq_true, IsChain]

theorem parse_eq_member_iff_cut {path : List String} {typed : String} :
    parse text = .member path typed ↔
      ∃ front, CutAtLastDot text front typed ∧ IsChain front typed ∧ segments front = path := by
  constructor
  · intro h
    obtain ⟨hne, hpath, htyped, rfl⟩ := parse_eq_member_iff.1 h
    have hsegments := segments_joinPath_words hne hpath
    refine ⟨joinPath path, cutAtLastDot_joinPath htyped, ⟨?_, htyped⟩, hsegments⟩
    rwa [hsegments]
  · rintro ⟨front, hcut, hchain, rfl⟩
    rw [parse_of_cut hcut, if_pos hchain]

theorem parse_eq_invalid_iff :
    parse text = .invalid ↔ ∃ front last, CutAtLastDot text front last ∧ ¬ IsChain front last := by
  constructor
  · intro h
    by_cases hdot : '.' ∈ text.toList
    · obtain ⟨front, last, hcut⟩ := exists_cut_iff.2 hdot
      refine ⟨front, last, hcut, fun hchain => ?_⟩
      rw [parse_of_cut hcut, if_pos hchain] at h
      cases h
    · rw [parse_of_dot_not_mem hdot] at h
      cases h
  · rintro ⟨front, last, hcut, hchain⟩
    rw [parse_of_cut hcut, if_neg hchain]

/-- Every text is read by its last dot and by what stands on both sides of it. -/
theorem reads (text : String) : Reads text where
  global_iff _ := parse_eq_global_iff
  member_iff _ _ := parse_eq_member_iff_cut
  lossless path typed front last hparse hcut := by
    obtain ⟨_, hcut', _, rfl⟩ := parse_eq_member_iff_cut.1 hparse
    obtain ⟨rfl, rfl⟩ := hcut.unique hcut'
    exact ⟨joinPath_segments front, rfl, hcut.1.symm⟩
  invalid_iff := parse_eq_invalid_iff

/-! ## Texts that have candidates -/

/-- Word characters and dots, and no empty segment in front of the last dot. -/
structure WellFormed (text : String) : Prop where
  chars : ∀ x ∈ text.toList, isWordChar x = true ∨ x = '.'
  segments : ∀ front last, CutAtLastDot text front last → "" ∉ segments front

theorem wellFormed_of_global {typed : String} (hparse : parse text = .global typed)
    (htyped : typed.toList.all isWordChar = true) : WellFormed text := by
  obtain ⟨rfl, hdot⟩ := parse_eq_global_iff.1 hparse
  constructor
  · exact fun x hx => .inl (List.all_eq_true.1 htyped x hx)
  · exact fun front last hcut => absurd (exists_cut_iff.1 ⟨front, last, hcut⟩) hdot

theorem wellFormed_of_member {path : List String} {typed : String}
    (hparse : parse text = .member path typed) : WellFormed text := by
  obtain ⟨front, hcut, ⟨hwords, htyped⟩, rfl⟩ := parse_eq_member_iff_cut.1 hparse
  constructor
  · intro x hx
    by_cases hdot : x = '.'
    · exact .inr hdot
    · obtain ⟨s, hs, hxs⟩ := exists_segment_of_mem hx hdot
      rw [hcut.segments_eq, List.mem_append, List.mem_singleton] at hs
      rcases hs with hs | rfl
      · exact .inl (List.all_eq_true.1 (isWord_iff.1 (hwords s hs)).2 x hxs)
      · exact .inl (List.all_eq_true.1 htyped x hxs)
  · intro front' last' hcut' hempty
    obtain ⟨rfl, _⟩ := hcut.unique hcut'
    exact (isWord_iff.1 (hwords "" hempty)).1 rfl

end Fragment

namespace Completer

open Fragment

/-- A text that has a candidate is well formed. -/
theorem wellFormed_of_mem_complete {c : Completer} {text candidate : String}
    (h : candidate ∈ c.complete text) : WellFormed text := by
  rw [complete_eq] at h
  obtain ⟨n, hn, rfl⟩ := List.mem_map.1 h
  cases hparse : parse text with
  | global typed =>
    rw [hparse] at hn
    exact wellFormed_of_global hparse (all_isWordChar_typed hn)
  | member path typed => exact wellFormed_of_member hparse
  | invalid =>
    rw [hparse] at hn
    exact absurd hn List.not_mem_nil

/-! ## The main result -/

/-- A text is read as a global name if it has no dot, as a request for members if it is a chain, and
as nothing otherwise; every chain is read as the path and the typed text that it is made of; and a
text with a foreign character or an empty segment in front of its last dot has no candidates. -/
theorem texts_read_as_chains :
    (∀ text, Reads text) ∧
      (∀ path typed, path ≠ [] → (∀ s ∈ path, isWord s.toList = true) →
        typed.toList.all isWordChar = true →
          parse (joinPath path ++ "." ++ typed) = .member path typed) ∧
      ∀ (c : Completer) (text : String),
        ((∃ x ∈ text.toList, isWordChar x = false ∧ x ≠ '.') ∨
            ∃ front last, CutAtLastDot text front last ∧ "" ∈ segments front) →
          c.complete text = [] := by
  refine ⟨reads, fun path typed hne hpath htyped => ?_, fun c text hbad => ?_⟩
  · exact parse_eq_member_iff.2 ⟨hne, hpath, htyped, rfl⟩
  · refine List.eq_nil_iff_forall_not_mem.2 fun candidate hcandidate => ?_
    have hgood := wellFormed_of_mem_complete hcandidate
    rcases hbad with ⟨x, hx, hchar, hdot⟩ | ⟨front, last, hcut, hempty⟩
    · rcases hgood.chars x hx with hword | hdot'
      · exact absurd (hchar.symm.trans hword) Bool.false_ne_true
      · exact hdot hdot'
    · exact hgood.segments front last hcut hempty

/-- A completer that knows the names `a` and `b`. -/
def twoLetters : Completer where
  store := .empty
  globals := .ofList [("a", .null), ("b", .null)]

/-- A chain is read back, and a doubled dot or a blank leaves nothing to offer. -/
theorem chain_read_back :
    (∀ s ∈ ["café", "x1"], isWord s.toList = true) ∧
      parse "café.x1." = .member ["café", "x1"] "" ∧
      (CutAtLastDot "a..b" "a." "b" ∧ "" ∈ segments "a.") ∧ twoLetters.complete "a..b" = [] ∧
      isWordChar ' ' = false ∧ twoLetters.complete "a b" = [] := by
  have hwords : ∀ s ∈ ["café", "x1"], isWord s.toList = true := by decide +kernel
  have hcut : CutAtLastDot "a..b" "a." "b" := ⟨rfl, by decide +kernel⟩
  have hempty : "" ∈ segments "a." := by decide +kernel
  have hblank : isWordChar ' ' = false := by decide +kernel
  obtain ⟨_, hreads, hnothing⟩ := texts_read_as_chains
  refine ⟨hwords, hreads ["café", "x1"] "" (by simp) hwords rfl, ⟨hcut, hempty⟩, ?_, hblank, ?_⟩
  · exact hnothing twoLetters "a..b" (.inr ⟨"a.", "b", hcut, hempty⟩)
  · exact hnothing twoLetters "a b" (.inl ⟨' ', by decide, hblank, by decide⟩)

end Completer

end NameCompletion
