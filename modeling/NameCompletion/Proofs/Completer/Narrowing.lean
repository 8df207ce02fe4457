import Mathlib.Order.BooleanAlgebra.Set
import NameCompletion.Proofs.Completer.Offered

/-!
# Typing on

What happens to the candidates when more of a name is typed.  A candidate that still continues the
text stays a candidate (`mem_offeredNames_typeOn`).  New ones can only come up because less is
hidden once something is typed, so where nothing is hidden the later candidates are exactly the
earlier ones that still continue the text (`offeredNames_typeOn`).

Hiding is the part that needs an argument: `""` hides private names in two steps, `"_"` in one, and
a step is taken only if the step before it leaves nothing.  `mem_shown_append` shows that a name
which is shown for a text is shown for the longer text too.  The main result is `complete_append`.
-/

namespace NameCompletion

/-- The fragment after more of the name was typed. -/
def Fragment.typeOn (more : String) : Fragment → Fragment
  | .global typed => .global (typed ++ more)
  | .member path typed => .member path (typed ++ more)
  | .invalid => .invalid

namespace Fragment

/-- Word characters at the end of a text belong to the name that is being typed. -/
theorem parse_append {text more : String} (hmore : more.toList.all isWordChar = true) :
    parse (text ++ more) = (parse text).typeOn more := by
  by_cases hdot : '.' ∈ text.toList
  · obtain ⟨front, last, hlast, rfl⟩ := exists_last_dot hdot
    have hdots : '.' ∉ (last ++ more).toList := by
      simp [hlast, dot_not_mem_of_all_isWordChar hmore]
    have hsegments := segments_append_dot front last
    have hlonger := segments_append_dot front (last ++ more)
    rw [segments_of_dot_not_mem hlast] at hsegments
    rw [segments_of_dot_not_mem hdots, ← String.append_assoc] at hlonger
    rw [parse_of_segments (segments_ne_nil front) hsegments,
      parse_of_segments (segments_ne_nil front) hlonger, String.toList_append, List.all_append,
      hmore, Bool.and_true]
    split_ifs <;> rfl
  · have hdots : '.' ∉ (text ++ more).toList := by
      simp [hdot, dot_not_mem_of_all_isWordChar hmore]
    rw [parse_of_dot_not_mem hdot, parse_of_dot_not_mem hdots]
    rfl

theorem front_typeOn (more : String) (fragment : Fragment) :
    (fragment.typeOn more).front = fragment.front := by
  cases fragment <;> rfl

end Fragment

namespace Completer

open Fragment

/-! ## Hiding -/

theorem startingWith_append_subset (typed more : String) :
    startingWith (typed ++ more) ⊆ startingWith typed := by
  intro n hn
  have hprefix : typed.toList <+: (typed ++ more).toList := by
    rw [String.toList_append]
    exact List.prefix_append ..
  exact hprefix.trans hn

/-- Of what is preferred, the names that are kept are preferred among those that are kept. -/
theorem mem_orElse_inter {first second kept : Set String} {n : String}
    (h : n ∈ orElse first second) (hn : n ∈ kept) :
    n ∈ orElse (first ∩ kept) (second ∩ kept) := by
  rcases h with h | ⟨hempty, h⟩
  · exact .inl ⟨h, hn⟩
  · refine .inr ⟨?_, h, hn⟩
    rw [hempty, Set.empty_inter]

theorem shown_underscore {c : Completer} (hprivate : c.options.showPrivate ≠ true)
    (all : Set String) : c.shown "_" all = orElse (all \ startingWith "__") all := by
  simp [shown, hprivate]

/-- Before anything is typed, the names without an underscore are preferred to what is shown after
one. -/
theorem shown_empty {c : Completer} (hprivate : c.options.showPrivate ≠ true) (all : Set String) :
    c.shown "" all = orElse (all \ startingWith "_") (c.shown "_" all) := by
  rw [shown_underscore hprivate]
  simp [shown, hprivate]

theorem eq_underscore_of_append {typed more : String} (h : typed ++ more = "_")
    (hne : typed ≠ "") : typed = "_" := by
  have hchars := congrArg String.toList h
  rw [String.toList_append] at hchars
  rcases List.append_eq_singleton_iff.1 hchars with ⟨hnil, _⟩ | ⟨hone, _⟩
  · exact absurd (String.toList_eq_nil_iff.1 hnil) hne
  · exact String.toList_inj.1 hone

/-- A name that is shown stays shown when more of it is typed. -/
theorem mem_shown_append {c : Completer} {typed more n : String} {all : Set String}
    (h : n ∈ c.shown typed all) (hn : n ∈ startingWith (typed ++ more)) :
    n ∈ c.shown (typed ++ more) (all ∩ startingWith (typed ++ more)) := by
  by_cases hlong : c.options.showPrivate = true ∨ typed ++ more ≠ "" ∧ typed ++ more ≠ "_"
  · rw [shown_eq_all hlong]
    exact ⟨shown_subset _ _ _ h, hn⟩
  obtain ⟨hprivate, hshort⟩ := not_or.1 hlong
  by_cases hempty : typed ++ more = ""
  · obtain ⟨rfl, rfl⟩ := String.append_eq_empty_iff.1 hempty
    have hall : startingWith ("" ++ "") = Set.univ := Set.eq_univ_of_forall fun _ => List.nil_prefix
    rwa [hall, Set.inter_univ]
  · have hone : typed ++ more = "_" := by
      by_contra hother
      exact hshort ⟨hempty, hother⟩
    rw [hone] at hn ⊢
    have hshown : n ∈ c.shown "_" all := by
      by_cases hnothing : typed = ""
      · -- The name starts with the underscore, so it is shown only because nothing else is left.
        rw [hnothing, shown_empty hprivate] at h
        exact (h.resolve_left fun hpublic => hpublic.2 hn).2
      · rwa [← eq_underscore_of_append hone hnothing]
    rw [shown_underscore hprivate] at hshown ⊢
    rw [← Set.sdiff_inter_right_comm]
    exact mem_orElse_inter hshown hn

/-- Of the names that can be offered, those remain that continue the longer text. -/
theorem offerable_append (c : Completer) (base : Value) (listed : List String)
    (typed more : String) :
    c.offerable base listed (typed ++ more) =
      c.offerable base listed typed ∩ startingWith (typed ++ more) := by
  ext n
  constructor
  · rintro ⟨hlisted, hident, hstart, hread⟩
    exact ⟨⟨hlisted, hident, startingWith_append_subset _ _ hstart, hread⟩, hstart⟩
  · rintro ⟨⟨hlisted, hident, _, hread⟩, hstart⟩
    exact ⟨hlisted, hident, hstart, hread⟩

theorem mem_globalNames_append {c : Completer} {typed more n : String} :
    n ∈ c.globalNames (typed ++ more) ↔
      n ∈ c.globalNames typed ∧ n ∈ startingWith (typed ++ more) := by
  constructor
  · rintro ⟨hident, hstart, hsource⟩
    exact ⟨⟨hident, startingWith_append_subset _ _ hstart, hsource⟩, hstart⟩
  · rintro ⟨⟨hident, _, hsource⟩, hstart⟩
    exact ⟨hident, hstart, hsource⟩

/-! ## The names that remain -/

variable {c : Completer} {fragment : Fragment} {more n : String}

/-- A name that is offered is still offered when more of it is typed. -/
theorem mem_offeredNames_typeOn (h : n ∈ c.offeredNames fragment)
    (hn : n ∈ startingWith (fragment.typed ++ more)) :
    n ∈ c.offeredNames (fragment.typeOn more) := by
  cases fragment with
  | global typed =>
    exact mem_shownGlobals.2 (mem_globalNames_append.2 ⟨mem_shownGlobals.1 h, hn⟩)
  | member path typed =>
    obtain ⟨base, listed, hbase, hlisted, hshown⟩ := mem_offeredNames_member.1 h
    refine mem_offeredNames_member.2 ⟨base, listed, hbase, hlisted, ?_⟩
    rw [offerable_append]
    exact mem_shown_append hshown hn
  | invalid => exact h

/-- Where nothing is hidden, no other name is offered after more was typed. -/
theorem mem_of_mem_offeredNames_typeOn (hall : c.options.showPrivate = true ∨ fragment.front = "")
    (h : n ∈ c.offeredNames (fragment.typeOn more)) :
    n ∈ c.offeredNames fragment ∧ n ∈ startingWith (fragment.typed ++ more) := by
  cases fragment with
  | global typed =>
    obtain ⟨hname, hstart⟩ := mem_globalNames_append.1 (mem_shownGlobals.1 h)
    exact ⟨mem_shownGlobals.2 hname, hstart⟩
  | member path typed =>
    have hprivate : c.options.showPrivate = true := hall.resolve_right fun hfront => by
      simp [front] at hfront
    obtain ⟨base, listed, hbase, hlisted, hshown⟩ := mem_offeredNames_member.1 h
    rw [shown_eq_all (.inl hprivate), offerable_append] at hshown
    refine ⟨mem_offeredNames_member.2 ⟨base, listed, hbase, hlisted, ?_⟩, hshown.2⟩
    rw [shown_eq_all (.inl hprivate)]
    exact hshown.1
  | invalid => exact absurd h List.not_mem_nil

/-- Where nothing is hidden, the names that are offered after more was typed are those that still
continue the text, in the same order. -/
theorem offeredNames_typeOn (hall : c.options.showPrivate = true ∨ fragment.front = "")
    (more : String) :
    c.offeredNames (fragment.typeOn more) =
      (c.offeredNames fragment).filter (continuesText (fragment.typed ++ more)) := by
  have hlater := c.pairwise_offeredNames (fragment.typeOn more)
  have hearlier := c.pairwise_offeredNames fragment
  refine hlater.eq_of_mem_iff (hearlier.filter _) fun n => ?_
  rw [List.mem_filter, continuesText_iff]
  constructor
  · exact mem_of_mem_offeredNames_typeOn hall
  · rintro ⟨hname, hstart⟩
    exact mem_offeredNames_typeOn hname hstart

/-! ## Candidates that continue the text -/

theorem offeredMark_typeOn (c : Completer) (fragment : Fragment) (more n : String) :
    c.offeredMark (fragment.typeOn more) n = c.offeredMark fragment n := by
  cases fragment <;> rfl

/-- A candidate continues the longer text exactly if its name does. -/
theorem continuesText_candidate {text : String} (hmore : more.toList.all isWordChar = true)
    (h : n ∈ c.offeredNames (parse text)) :
    continuesText (text ++ more) ((parse text).front ++ n ++ c.offeredMark (parse text) n) =
      continuesText ((parse text).typed ++ more) n := by
  have hvalid : parse text ≠ .invalid := fun hinvalid => by
    rw [hinvalid] at h
    exact List.not_mem_nil h
  have htext : text ++ more = (parse text).front ++ ((parse text).typed ++ more) := by
    rw [← String.append_assoc, ← eq_front_append_typed hvalid]
  have htyped : ((parse text).typed ++ more).toList.all isWordChar = true := by
    rw [String.toList_append, List.all_append, all_isWordChar_typed h, hmore, Bool.and_true]
  have hmark := c.isMark_offeredMark (parse text) n
  rw [Bool.eq_iff_iff, continuesText_iff, continuesText_iff, htext, String.append_assoc,
    append_prefix_append_iff, prefix_append_mark_iff htyped hmark]

/-! ## The main result -/

/-- When more of a name is typed, no candidate is lost that still continues the text; and where
nothing is hidden, the candidates are exactly those that still continue the text, in the same
order. -/
theorem complete_append (c : Completer) {text more : String}
    (hmore : more.toList.all isWordChar = true) :
    (∀ candidate ∈ c.complete text, continuesText (text ++ more) candidate = true →
        candidate ∈ c.complete (text ++ more)) ∧
      (c.options.showPrivate = true ∨ '.' ∉ text.toList →
        c.complete (text ++ more) = (c.complete text).filter (continuesText (text ++ more))) := by
  have hlater : c.complete (text ++ more) =
      (c.offeredNames ((parse text).typeOn more)).map fun n =>
        (parse text).front ++ n ++ c.offeredMark (parse text) n := by
    rw [complete_eq, parse_append hmore, front_typeOn]
    simp only [offeredMark_typeOn]
  rw [hlater, complete_eq]
  constructor
  · intro candidate hcandidate hcontinues
    obtain ⟨n, hn, rfl⟩ := List.mem_map.1 hcandidate
    rw [continuesText_candidate hmore hn, continuesText_iff] at hcontinues
    exact List.mem_map_of_mem (mem_offeredNames_typeOn hn hcontinues)
  · intro hall
    have hfront : c.options.showPrivate = true ∨ (parse text).front = "" := by
      refine hall.imp_right fun hdot => ?_
      rw [parse_of_dot_not_mem hdot]
      rfl
    rw [offeredNames_typeOn hfront, List.filter_map]
    congr 1
    refine List.filter_congr fun n hn => ?_
    exact (continuesText_candidate hmore hn).symm

/-- A record that has private members only, and a function beside it. -/
def privateRecord : Completer :=
  let members : Namespace := .ofList [("_a", .function (.variadic "_a")), ("__b", .null)]
  let (fields, s) := Store.empty.newScope members
  { store := s
    globals := .ofList [("r", .record fields), ("run", .function (.variadic "run")), ("x", .null)]
    options := { decorate := true } }

/-- The private member that is shown before the underscore is typed is shown after it, and the
global names are narrowed. -/
theorem private_member_kept :
    "_".toList.all isWordChar = true ∧ "r._a(" ∈ privateRecord.complete "r." ∧
      continuesText ("r." ++ "_") "r._a(" = true ∧ "r._a(" ∈ privateRecord.complete "r._" ∧
      "r".toList.all isWordChar = true ∧ '.' ∉ "".toList ∧
      privateRecord.complete "r" = (privateRecord.complete "").filter (continuesText "r") := by
  have hunderscore : "_".toList.all isWordChar = true := by decide +kernel
  have hletter : "r".toList.all isWordChar = true := by decide +kernel
  have hdot : '.' ∉ "".toList := by decide +kernel
  have hshown : "r._a(" ∈ privateRecord.complete "r." := by decide +kernel
  have hcontinues : continuesText ("r." ++ "_") "r._a(" = true := by decide +kernel
  have hkept := (complete_append privateRecord hunderscore).1 "r._a(" hshown hcontinues
  have hnarrowed := (complete_append privateRecord hletter).2 (.inr hdot)
  exact ⟨hunderscore, hshown, hcontinues, hkept, hletter, hdot, hnarrowed⟩

end Completer

end NameCompletion
