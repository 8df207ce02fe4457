import NameCompletion.Proofs.Completer.Globals

/-!
# Candidates as typed texts

A plain candidate is the path that was typed, with an identifier as its last segment.  So it can be
read again.  Whether all its segments are identifiers depends on the typed path
alone: the segments of a path only have to be words, and a word may start with a digit.

* `mem_complete_plain`: the plain candidates.
* `exists_segments_candidate`: the segments of a plain candidate.
* `mem_complete_self`: a plain candidate is offered again once it is typed out.
* `candidate_identifiers_iff`: the exact condition under which they all are identifiers.
* `two_keys_not_identifiers`: a candidate that has a segment which is no identifier.
-/

namespace NameCompletion.Completer

open Fragment

/-- Without decoration nothing stands behind a name. -/
theorem memberMark_of_plain {c : Completer} (hplain : c.options.decorate = false) (base : Value)
    (n : String) : c.memberMark base n = "" := by
  simp [memberMark, hplain]

theorem globalMark_of_plain {c : Completer} (hplain : c.options.decorate = false) (n : String) :
    c.globalMark n = "" := by
  simp [globalMark, hplain]

/-- Without decoration the candidates are global names, or members behind the typed path. -/
theorem mem_complete_plain {c : Completer} (hplain : c.options.decorate = false)
    {text candidate : String} :
    candidate ∈ c.complete text ↔
      ('.' ∉ text.toList ∧ candidate ∈ c.globalNames text) ∨
        ∃ path typed base listed n, parse text = .member path typed ∧ c.LeadsTo path base ∧
          base.memberNames c.store = .ok listed ∧
          n ∈ c.shown typed (c.offerable base listed typed) ∧
          candidate = joinPath (path ++ [n]) := by
  constructor
  · intro h
    unfold complete at h
    split at h
    · next typed hparse =>
      obtain ⟨rfl, hdot⟩ := parse_eq_global_iff.1 hparse
      obtain ⟨n, hn, rfl⟩ := mem_globalMatches.1 h
      rw [globalMark_of_plain hplain, String.append_empty]
      exact .inl ⟨hdot, hn⟩
    · next path typed hparse =>
      have hne : path ≠ [] := (parse_eq_member_iff.1 hparse).1
      obtain ⟨base, listed, n, hbase, hlisted, hn, rfl⟩ := mem_memberMatches.1 h
      refine .inr ⟨path, typed, base, listed, n, hparse, hbase, hlisted, hn, ?_⟩
      rw [memberMark_of_plain hplain, joinPath_append_singleton hne, String.append_empty]
    · exact absurd h List.not_mem_nil
  · rintro (⟨hdot, hn⟩ | ⟨path, typed, base, listed, n, hparse, hbase, hlisted, hn, rfl⟩)
    · rw [complete, parse_of_dot_not_mem hdot]
      refine mem_globalMatches.2 ⟨candidate, hn, ?_⟩
      rw [globalMark_of_plain hplain, String.append_empty]
    · have hne : path ≠ [] := (parse_eq_member_iff.1 hparse).1
      rw [complete, hparse]
      refine mem_memberMatches.2 ⟨base, listed, n, hbase, hlisted, hn, ?_⟩
      rw [memberMark_of_plain hplain, joinPath_append_singleton hne, String.append_empty]

/-! ## Paths that end in an identifier -/

section

variable {path : List String} {last : String}

theorem joinPath_nil_append (last : String) : joinPath ([] ++ [last]) = last := by
  rw [List.nil_append, joinPath, String.intercalate_singleton]

theorem segments_joinPath_identifier (hpath : ∀ s ∈ path, isWord s.toList = true)
    (hlast : isIdentifier last = true) :
    segments (joinPath (path ++ [last])) = path ++ [last] :=
  segments_joinPath_concat hpath (dot_not_mem_of_isIdentifier hlast)

/-- A single identifier asks for a global name. -/
theorem parse_identifier (hlast : isIdentifier last = true) : parse last = .global last :=
  parse_of_dot_not_mem (dot_not_mem_of_isIdentifier hlast)

/-- A longer path asks for a member of what comes before its last segment. -/
theorem parse_joinPath_identifier (hne : path ≠ []) (hpath : ∀ s ∈ path, isWord s.toList = true)
    (hlast : isIdentifier last = true) :
    parse (joinPath (path ++ [last])) = .member path last := by
  have hword := (isWord_iff.1 (isWord_of_isIdentifier hlast)).2
  exact parse_eq_member_iff.2 ⟨hne, hpath, hword, joinPath_append_singleton hne last⟩

end

/-! ## The segments of a candidate -/

/-- A plain candidate is an identifier behind the path of the typed text. -/
theorem exists_segments_candidate {c : Completer} (hplain : c.options.decorate = false)
    {text candidate : String} (h : candidate ∈ c.complete text) :
    ∃ n, isIdentifier n = true ∧ (∀ s ∈ (segments text).dropLast, isWord s.toList = true) ∧
      candidate = joinPath ((segments text).dropLast ++ [n]) := by
  rcases (mem_complete_plain hplain).1 h with
    ⟨hdot, hn⟩ | ⟨path, typed, base, listed, n, hparse, _, _, hn, rfl⟩
  · rw [segments_of_dot_not_mem hdot]
    refine ⟨candidate, hn.1, by simp, ?_⟩
    exact (joinPath_nil_append candidate).symm
  · obtain ⟨hne, hpath, htyped, rfl⟩ := parse_eq_member_iff.1 hparse
    rw [segments_member hne hpath htyped, List.dropLast_concat]
    exact ⟨n, isIdentifier_of_mem_shown hn, hpath, rfl⟩

/-- A plain candidate is offered again once it is typed out.  Then nothing hides it: its own name is
what was typed. -/
theorem mem_complete_self {c : Completer} (hplain : c.options.decorate = false)
    {text candidate : String} (h : candidate ∈ c.complete text) :
    candidate ∈ c.complete candidate := by
  rw [mem_complete_plain hplain] at h ⊢
  rcases h with
    ⟨_, hident, _, hsource⟩ | ⟨path, typed, base, listed, n, hparse, hbase, hlisted, hn, rfl⟩
  · exact .inl ⟨dot_not_mem_of_isIdentifier hident, hident, List.prefix_refl _, hsource⟩
  · obtain ⟨hne, hpath, _⟩ := parse_eq_member_iff.1 hparse
    obtain ⟨hmem, hident, _, hread⟩ := shown_subset _ _ _ hn
    refine .inr ⟨path, n, base, listed, n, parse_joinPath_identifier hne hpath hident, hbase,
      hlisted, ?_, rfl⟩
    exact mem_shown_typed (ne_empty_of_isIdentifier hident)
      ⟨hmem, hident, List.prefix_refl _, hread⟩

/-- Every plain candidate can be read, and all its segments are identifiers exactly if all segments
before the last dot of the typed text are. -/
theorem candidate_identifiers_iff {c : Completer} (hplain : c.options.decorate = false)
    {text candidate : String} (h : candidate ∈ c.complete text) :
    (parse candidate = .global candidate ∨ ∃ path typed, parse candidate = .member path typed) ∧
      ((∀ s ∈ segments candidate, isIdentifier s = true) ↔
        ∀ s ∈ (segments text).dropLast, isIdentifier s = true) := by
  obtain ⟨n, hn, hpath, rfl⟩ := exists_segments_candidate hplain h
  constructor
  · by_cases hne : (segments text).dropLast = []
    · rw [hne, joinPath_nil_append]
      exact .inl (parse_identifier hn)
    · exact .inr ⟨_, _, parse_joinPath_identifier hne hpath hn⟩
  · rw [segments_joinPath_identifier hpath hn]
    simp only [List.mem_append, List.mem_singleton, or_imp, forall_and, forall_eq, hn, and_true]

/-- A record under two names, of which one is an identifier and one is only a word. -/
def twoKeys : Completer where
  store := (Store.empty.newScope (.ofList [("x", .null)])).2
  globals :=
    let record := Value.record (Store.empty.newScope (.ofList [("x", .null)])).1
    .ofList [("ok", record), ("2fa", record)]

/-- Behind an identifier the candidate consists of identifiers. -/
theorem two_keys_identifiers :
    twoKeys.options.decorate = false ∧ "ok.x" ∈ twoKeys.complete "ok." ∧
      ∀ s ∈ segments "ok.x", isIdentifier s = true := by
  have hplain : twoKeys.options.decorate = false := rfl
  have hmem : "ok.x" ∈ twoKeys.complete "ok." := by decide +kernel
  refine ⟨hplain, hmem, (candidate_identifiers_iff hplain hmem).2.2 ?_⟩
  decide +kernel

/-- Behind a word that starts with a digit the candidate does not consist of identifiers. -/
theorem two_keys_not_identifiers :
    twoKeys.options.decorate = false ∧ "2fa.x" ∈ twoKeys.complete "2fa." ∧
      ¬ ∀ s ∈ segments "2fa.x", isIdentifier s = true :=
  ⟨rfl, by decide +kernel, by decide +kernel⟩

end NameCompletion.Completer
