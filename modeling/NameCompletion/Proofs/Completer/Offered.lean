import Mathlib.Data.List.Sort
import NameCompletion.Proofs.Completer.Globals
import NameCompletion.Proofs.Value.Bisimulation

/-!
# Candidates as names

A candidate is a name with the typed path in front of it and a mark behind it, whether the name is
global or that of a member.  This file says so once for all fragments, so that later files can
compare two requests by their names and marks.

* `offeredNames`: the names that are offered for a fragment, in ascending order.
* `Fragment.front` and `offeredMark`: what stands in front of a name and what stands behind it.
* `complete_eq`: the candidates are made of these three.

The offered names ascend, so two requests offer the same list once they offer the same names
(`offeredNames_ext`), and most comparisons come down to membership.
-/

namespace NameCompletion

/-- What stands in front of the names that are offered for a fragment. -/
def Fragment.front : Fragment → String
  | .global _ => ""
  | .member path _ => joinPath path ++ "."
  | .invalid => ""

/-- What was typed of the name. -/
def Fragment.typed : Fragment → String
  | .global typed => typed
  | .member _ typed => typed
  | .invalid => ""

/-- A text that asks for something is what stands in front of the name and what is typed of it. -/
theorem Fragment.eq_front_append_typed {text : String} (h : parse text ≠ .invalid) :
    text = (parse text).front ++ (parse text).typed := by
  cases hparse : parse text with
  | global typed =>
    obtain ⟨rfl, _⟩ := parse_eq_global_iff.1 hparse
    exact String.empty_append.symm
  | member path typed => exact (parse_eq_member_iff.1 hparse).2.2.2
  | invalid => exact absurd hparse h

namespace Completer

open Fragment

/-! ## Names and marks -/

/-- The names that are offered for a fragment, in ascending order. -/
def offeredNames (c : Completer) : Fragment → List String
  | .global typed => c.shownGlobals typed
  | .member path typed =>
    match c.resolve path with
    | none => []
    | some base =>
      match base.memberNames c.store with
      | .error _ => []
      | .ok listed => c.shownNames base listed typed
  | .invalid => []

/-- What stands behind a name that is offered for a fragment. -/
def offeredMark (c : Completer) : Fragment → String → String
  | .global _, n => c.globalMark n
  | .member path _, n => ((c.resolve path).map fun base => c.memberMark base n).getD ""
  | .invalid, _ => ""

/-- Nothing but a parenthesis or a blank stands behind a name. -/
theorem offeredMark_mem (c : Completer) (fragment : Fragment) (n : String) :
    c.offeredMark fragment n ∈ ["", "(", " "] := by
  cases fragment with
  | global typed =>
    rw [offeredMark, globalMark]
    split_ifs <;> simp
  | member path typed =>
    rw [offeredMark]
    cases c.resolve path with
    | none => simp
    | some base =>
      rw [Option.map_some, Option.getD_some, memberMark]
      split_ifs <;> simp
  | invalid => simp [offeredMark]

theorem isMark_offeredMark (c : Completer) (fragment : Fragment) (n : String) :
    IsMark (c.offeredMark fragment n) := by
  have h := c.offeredMark_mem fragment n
  simp only [List.mem_cons, List.not_mem_nil, or_false] at h
  rcases h with h | h | h
  · exact h ▸ isMark_empty
  · exact h ▸ isMark_parenthesis
  · exact h ▸ isMark_blank

/-- Members are offered if the path leads to a value that lists them, and not otherwise. -/
theorem listed_or_unanswered (c : Completer) (path : List String) :
    (∃ base listed, c.resolve path = some base ∧ base.memberNames c.store = .ok listed) ∨
      ∀ typed, c.offeredNames (.member path typed) = [] ∧ c.memberMatches path typed = [] := by
  cases hbase : c.resolve path with
  | none => exact .inr fun typed => by simp [offeredNames, memberMatches, hbase]
  | some base =>
    cases hlisted : base.memberNames c.store with
    | error e => exact .inr fun typed => by simp [offeredNames, memberMatches, hbase, hlisted]
    | ok listed => exact .inl ⟨base, listed, rfl, hlisted⟩

theorem offeredNames_listed {c : Completer} {path : List String} {base : Value}
    {listed : List String} (typed : String) (hbase : c.resolve path = some base)
    (hlisted : base.memberNames c.store = .ok listed) :
    c.offeredNames (.member path typed) = c.shownNames base listed typed := by
  simp only [offeredNames, hbase, hlisted]

theorem offeredMark_of_resolve {c : Completer} {path : List String} {base : Value}
    (typed n : String) (hbase : c.resolve path = some base) :
    c.offeredMark (.member path typed) n = c.memberMark base n := by
  rw [offeredMark, hbase]
  rfl

/-- A member is offered if it is one of those that are shown of the value behind the path. -/
theorem mem_offeredNames_member {c : Completer} {path : List String} {typed n : String} :
    n ∈ c.offeredNames (.member path typed) ↔
      ∃ base listed, c.resolve path = some base ∧ base.memberNames c.store = .ok listed ∧
        n ∈ c.shown typed (c.offerable base listed typed) := by
  constructor
  · intro h
    rcases c.listed_or_unanswered path with ⟨base, listed, hbase, hlisted⟩ | hnone
    · rw [offeredNames_listed typed hbase hlisted] at h
      exact ⟨base, listed, hbase, hlisted, mem_shownNames.1 h⟩
    · rw [(hnone typed).1] at h
      exact absurd h List.not_mem_nil
  · rintro ⟨base, listed, hbase, hlisted, hn⟩
    rw [offeredNames_listed typed hbase hlisted]
    exact mem_shownNames.2 hn

/-- An offered name is an identifier that continues what was typed. -/
theorem continues_of_mem_offeredNames {c : Completer} {fragment : Fragment} {n : String}
    (h : n ∈ c.offeredNames fragment) :
    isIdentifier n = true ∧ n ∈ startingWith fragment.typed := by
  cases fragment with
  | global typed =>
    obtain ⟨hident, hstart, _⟩ := mem_shownGlobals.1 h
    exact ⟨hident, hstart⟩
  | member path typed =>
    obtain ⟨base, listed, _, _, hshown⟩ := mem_offeredNames_member.1 h
    obtain ⟨_, hident, hstart, _⟩ := shown_subset _ _ _ hshown
    exact ⟨hident, hstart⟩
  | invalid => exact absurd h List.not_mem_nil

/-- Nothing is offered for a text that holds other characters than those of a word. -/
theorem all_isWordChar_typed {c : Completer} {fragment : Fragment} {n : String}
    (h : n ∈ c.offeredNames fragment) : fragment.typed.toList.all isWordChar = true := by
  obtain ⟨hident, hstart⟩ := continues_of_mem_offeredNames h
  have hchars := (isWord_iff.1 (isWord_of_isIdentifier hident)).2
  exact List.all_eq_true.2 fun x hx => List.all_eq_true.1 hchars x (hstart.subset hx)

theorem pairwise_offeredNames (c : Completer) (fragment : Fragment) :
    (c.offeredNames fragment).Pairwise (· < ·) := by
  cases fragment with
  | global typed => exact c.pairwise_shownGlobals typed
  | member path typed =>
    rcases c.listed_or_unanswered path with ⟨base, listed, hbase, hlisted⟩ | hnone
    · rw [offeredNames_listed typed hbase hlisted]
      exact c.pairwise_shownNames base listed typed
    · rw [(hnone typed).1]
      exact List.Pairwise.nil
  | invalid => exact List.Pairwise.nil

/-- Requests that offer the same names offer them in the same order. -/
theorem offeredNames_ext {c d : Completer} {fragment other : Fragment}
    (h : ∀ n, n ∈ c.offeredNames fragment ↔ n ∈ d.offeredNames other) :
    c.offeredNames fragment = d.offeredNames other :=
  (c.pairwise_offeredNames fragment).eq_of_mem_iff (d.pairwise_offeredNames other) h

section

variable {R : Value → Value → Prop} {c d : Completer} {path other : List String}

/-- The members of two paths that lead to values which cannot be told apart are offered alike. -/
theorem offeredNames_member_rel (hR : IsBisimulation c.store R) (hstore : d.store = c.store)
    (hoptions : d.options = c.options) (h : Option.Rel R (d.resolve other) (c.resolve path))
    (typed : String) :
    d.offeredNames (.member other typed) = c.offeredNames (.member path typed) := by
  have hshown : ∀ {a b}, R a b → ∀ listed,
      d.shownNames a listed typed = c.shownNames b listed typed := by
    intro a b hab listed
    simp only [shownNames, hidingLevels, offerableNames, hstore, hoptions,
      (hR.member hab _).isOk_eq]
  simp only [offeredNames]
  generalize d.resolve other = found, c.resolve path = found' at h
  cases h with
  | none => rfl
  | some hab => simp only [hstore, hR.memberNames hab, hshown hab]

theorem offeredMark_member_rel (hR : IsBisimulation c.store R) (hstore : d.store = c.store)
    (hoptions : d.options = c.options) (h : Option.Rel R (d.resolve other) (c.resolve path))
    (typed name : String) :
    d.offeredMark (.member other typed) name = c.offeredMark (.member path typed) name := by
  have hmark : ∀ {a b}, R a b → d.memberMark a name = c.memberMark b name := by
    intro a b hab
    have hcallable : d.CallableMember a name ↔ c.CallableMember b name := by
      unfold CallableMember
      rw [hstore]
      exact (hR.member hab name).callable_iff hR
    exact if_congr (and_congr (by rw [hoptions]) hcallable) rfl rfl
  simp only [offeredMark]
  generalize d.resolve other = found, c.resolve path = found' at h
  cases h with
  | none => rfl
  | some hab => exact hmark hab

/-- The members of two paths that lead to the same value are offered alike. -/
theorem offeredNames_member_congr (hstore : d.store = c.store) (hoptions : d.options = c.options)
    (h : d.resolve other = c.resolve path) (typed : String) :
    d.offeredNames (.member other typed) = c.offeredNames (.member path typed) :=
  offeredNames_member_rel (isBisimulation_eq _) hstore hoptions (h ▸ rel_eq _) typed

theorem offeredMark_member_congr (hstore : d.store = c.store) (hoptions : d.options = c.options)
    (h : d.resolve other = c.resolve path) (typed name : String) :
    d.offeredMark (.member other typed) name = c.offeredMark (.member path typed) name :=
  offeredMark_member_rel (isBisimulation_eq _) hstore hoptions (h ▸ rel_eq _) typed name

end

/-! ## The candidates -/

/-- The candidates are the offered names with something in front and a mark behind. -/
theorem complete_eq (c : Completer) (text : String) :
    c.complete text =
      (c.offeredNames (parse text)).map fun n =>
        (parse text).front ++ n ++ c.offeredMark (parse text) n := by
  unfold complete
  cases parse text with
  | global typed => exact c.globalMatches_eq typed
  | member path typed =>
    show c.memberMatches path typed = _
    rcases c.listed_or_unanswered path with ⟨base, listed, hbase, hlisted⟩ | hnone
    · rw [memberMatches_eq typed hbase hlisted, offeredNames_listed typed hbase hlisted]
      simp only [front, offeredMark_of_resolve typed _ hbase]
    · rw [(hnone typed).1, (hnone typed).2]
      rfl
  | invalid => rfl

end Completer

end NameCompletion
