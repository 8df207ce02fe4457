import NameCompletion.Proofs.Completer.Typeable
import NameCompletion.Proofs.Value.Listing

/-!
# Candidates and what paths lead to

Candidates are found by listing names, paths are followed by reading members.  Without keywords,
decoration and host objects the two agree: a path that is offered leads to a value
(`resolve_of_candidate`), and a path that leads to a value is offered once it is typed out
(`candidate_of_resolve`).

The last segment of a path is an identifier, the others are words.  A path of one segment is a
matter of the global names; a longer one needs that the value before its last segment lists exactly
the members that can be read.
-/

namespace NameCompletion.Completer

open Fragment

variable {c : Completer} {path : List String} {last : String}

theorem LeadsTo.ne_hostObject {base : Value} (hbase : c.LeadsTo path base)
    (hhost : ∀ h, ¬ c.LeadsTo path (.hostObject h)) (h : HostRef) : base ≠ .hostObject h := by
  rintro rfl
  exact hhost h hbase

/-- The members that a value lists are those that a path can go on with. -/
theorem mem_listed_iff_resolve {base : Value} {listed : List String} (hbase : c.LeadsTo path base)
    (hhost : ∀ h, base ≠ .hostObject h) (hlisted : base.memberNames c.store = .ok listed) :
    last ∈ listed ↔ ∃ value, c.resolve (path ++ [last]) = some value := by
  obtain ⟨found, hread⟩ := Value.exists_member (s := c.store) hhost last
  rw [Value.mem_memberNames_iff hhost hlisted hread, Option.isSome_iff_exists,
    resolve_append_singleton c hbase.ne_nil, resolve_eq_some_iff.2 hbase, Option.bind_some]
  refine exists_congr fun value => ?_
  rw [member?_eq_some_iff, hread, Except.ok.injEq]

/-- A path that is offered leads to a value, provided that no host object stands before its last
segment. -/
theorem resolve_of_candidate (hplain : c.options.decorate = false)
    (hkeywords : c.options.keywords = []) (hpath : ∀ s ∈ path, isWord s.toList = true)
    (hlast : isIdentifier last = true) (hhost : ∀ h, ¬ c.LeadsTo path (.hostObject h))
    {text : String} (hoffered : joinPath (path ++ [last]) ∈ c.complete text) :
    ∃ value, c.resolve (path ++ [last]) = some value := by
  have hsegments := segments_joinPath_identifier hpath hlast
  rcases (mem_complete_plain hplain).1 hoffered with
    ⟨_, hident, _, hsource⟩ | ⟨front, typed, base, listed, n, hparse, hbase, hlisted, hn, heq⟩
  · -- A global name has no dot, so the path is that name alone.
    rw [segments_of_dot_not_mem (dot_not_mem_of_isIdentifier hident)] at hsegments
    have hnil : path = [] := by
      have hlen := congrArg List.length hsegments
      simpa using hlen
    subst hnil
    rw [joinPath_nil_append, hkeywords] at hsource
    have hbound := hsource.resolve_left List.not_mem_nil
    exact Option.isSome_iff_exists.1 (isSome_resolve_singleton.2 hbound)
  · have hfront := (parse_eq_member_iff.1 hparse).2.1
    rw [heq, segments_joinPath_identifier hfront (isIdentifier_of_mem_shown hn)] at hsegments
    obtain ⟨rfl, hend⟩ := List.append_inj' hsegments rfl
    obtain rfl := List.singleton_inj.1 hend
    have hnohost := hbase.ne_hostObject hhost
    exact (mem_listed_iff_resolve hbase hnohost hlisted).1 (shown_subset _ _ _ hn).1

/-- A path that leads to a value is offered once it is typed out, provided that no host object
stands before its last segment. -/
theorem candidate_of_resolve (hplain : c.options.decorate = false)
    (hpath : ∀ s ∈ path, isWord s.toList = true)
    (hlast : isIdentifier last = true) (hhost : ∀ h, ¬ c.LeadsTo path (.hostObject h))
    {value : Value} (hvalue : c.resolve (path ++ [last]) = some value) :
    joinPath (path ++ [last]) ∈ c.complete (joinPath (path ++ [last])) := by
  rw [mem_complete_plain hplain]
  by_cases hne : path = []
  · subst hne
    rw [joinPath_nil_append]
    have hbound := isSome_resolve_singleton.1 (Option.isSome_iff_exists.2 ⟨value, hvalue⟩)
    refine .inl ⟨dot_not_mem_of_isIdentifier hlast, hlast, ?_, .inr hbound⟩
    exact List.prefix_refl _
  · have hstep := resolve_append_singleton c hne last
    rw [hvalue] at hstep
    obtain ⟨base, hbase, hread⟩ := Option.bind_eq_some_iff.1 hstep.symm
    have hleads := resolve_eq_some_iff.1 hbase
    have hnohost := hleads.ne_hostObject hhost
    obtain ⟨listed, hlisted⟩ := Value.exists_memberNames (s := c.store) hnohost
    have hmem : last ∈ listed := (mem_listed_iff_resolve hleads hnohost hlisted).2 ⟨value, hvalue⟩
    refine .inr ⟨path, last, base, listed, last, parse_joinPath_identifier hne hpath hlast, hleads,
      hlisted, ?_, rfl⟩
    refine mem_shown_typed (ne_empty_of_isIdentifier hlast) ⟨hmem, hlast, List.prefix_refl _, ?_⟩
    exact ⟨some value, member?_eq_some_iff.1 hread⟩

/-! ## The main result -/

/-- What is offered and what can be resolved agree: a path is offered once it is typed out exactly
if it leads to a value, and no other text offers a path that leads nowhere. -/
theorem offered_iff_resolves (c : Completer) (hplain : c.options.decorate = false)
    (hkeywords : c.options.keywords = []) {path : List String} {last : String}
    (hpath : ∀ s ∈ path, isWord s.toList = true) (hlast : isIdentifier last = true)
    (hhost : ∀ h, ¬ c.LeadsTo path (.hostObject h)) :
    (joinPath (path ++ [last]) ∈ c.complete (joinPath (path ++ [last])) ↔
        ∃ value, c.resolve (path ++ [last]) = some value) ∧
      ∀ text, joinPath (path ++ [last]) ∈ c.complete text →
        ∃ value, c.resolve (path ++ [last]) = some value := by
  refine ⟨⟨fun h => ?_, fun ⟨value, hvalue⟩ => ?_⟩, fun text h => ?_⟩
  · exact resolve_of_candidate hplain hkeywords hpath hlast hhost h
  · exact candidate_of_resolve hplain hpath hlast hhost hvalue
  · exact resolve_of_candidate hplain hkeywords hpath hlast hhost h

/-- An instance of a class that inherits its only member. -/
def inheriting : Completer :=
  let (base, s) := Store.empty.newClass
    { name := "Base", members := .ofList [("describe", .null)], bases := [] }
  let (derived, s) := s.newClass { name := "Derived", members := ∅, bases := [base] }
  let (fields, s) := s.newScope ∅
  { store := s, globals := .ofList [("d", .instanceObject ⟨derived, fields⟩)] }

/-- The inherited member resolves, so it is offered. -/
theorem inherited_member_offered :
    (∀ h, ¬ inheriting.LeadsTo ["d"] (.hostObject h)) ∧
      (inheriting.resolve ["d", "describe"]).isSome = true ∧
      "d.describe" ∈ inheriting.complete "d.describe" := by
  have hstart : inheriting.resolve ["d"] = some (.instanceObject ⟨⟨1⟩, ⟨0⟩⟩) := by rfl
  have hhost : ∀ h, ¬ inheriting.LeadsTo ["d"] (.hostObject h) := by
    intro h hleads
    rw [← resolve_eq_some_iff, hstart] at hleads
    cases hleads
  have hvalue : (inheriting.resolve ["d", "describe"]).isSome = true := by decide +kernel
  have hpath : ∀ s ∈ ["d"], isWord s.toList = true := by decide +kernel
  have hlast : isIdentifier "describe" = true := by decide +kernel
  have hoffered := offered_iff_resolves inheriting rfl rfl hpath hlast hhost
  exact ⟨hhost, hvalue, hoffered.1.2 (Option.isSome_iff_exists.1 hvalue)⟩

end NameCompletion.Completer
