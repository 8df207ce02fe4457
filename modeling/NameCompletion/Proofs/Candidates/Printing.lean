import NameCompletion.CommandLine.Run
import NameCompletion.Proofs.Completer.Offered
import NameCompletion.Proofs.Prompt.Line
import NameCompletion.Proofs.Text.Pieces

/-!
# Candidates in print

Candidates are printed one a line, so what was printed can be read back as long as no candidate is
empty or holds a line feed.  Names can: every text may be bound, and every text may be a keyword or
be typed.  But only identifiers are offered, and in front of them stands a path of words.

* `mem_candidate_cases`: the characters of a candidate.
* `Candidates.TellsCandidates`: the printed text tells which candidates there are.
* `completeOutcome_silent_iff`, `complete_line_silent_iff`: when nothing is printed at all.
* `plain_output_decodes` puts these together, for all sessions and all texts.
-/

namespace NameCompletion

/-! ## The characters of a candidate -/

namespace Completer

section

variable {c : Completer} {text candidate : String}

/-- What is offered for a text is a name, with a path in front of it and a mark behind it. -/
theorem exists_offered_of_mem_complete (h : candidate ∈ c.complete text) :
    ∃ n ∈ c.offeredNames (Fragment.parse text), candidate =
      (Fragment.parse text).front ++ n ++ c.offeredMark (Fragment.parse text) n := by
  rw [complete_eq] at h
  obtain ⟨n, hn, rfl⟩ := List.mem_map.1 h
  exact ⟨n, hn, rfl⟩

/-- In front of a name stand words and dots. -/
theorem mem_front_cases {x : Char} (hx : x ∈ (Fragment.parse text).front.toList) :
    isWordChar x = true ∨ x = '.' := by
  cases hparse : Fragment.parse text with
  | global typed =>
    rw [hparse] at hx
    exact absurd hx List.not_mem_nil
  | invalid =>
    rw [hparse] at hx
    exact absurd hx List.not_mem_nil
  | member path typed =>
    rw [hparse, Fragment.front, String.toList_append, List.mem_append] at hx
    by_cases hdot : x = '.'
    · exact .inr hdot
    · left
      have hpath : x ∈ (Fragment.joinPath path).toList :=
        hx.resolve_right fun h => hdot (List.mem_singleton.1 h)
      obtain ⟨s, hs, hxs⟩ := Fragment.exists_mem_of_mem_joinPath hpath hdot
      have hword := (Fragment.parse_eq_member_iff.1 hparse).2.1 s hs
      exact List.all_eq_true.1 (isWord_iff.1 hword).2 x hxs

/-- A candidate holds word characters, dots, parentheses and blanks, and nothing else. -/
theorem mem_candidate_cases (h : candidate ∈ c.complete text) {x : Char}
    (hx : x ∈ candidate.toList) : isWordChar x = true ∨ x ∈ ['.', '(', ' '] := by
  obtain ⟨n, hn, rfl⟩ := exists_offered_of_mem_complete h
  rw [String.toList_append, String.toList_append, List.mem_append, List.mem_append] at hx
  rcases hx with (hfront | hname) | hmark
  · rcases mem_front_cases hfront with hword | rfl
    · exact .inl hword
    · exact .inr (by decide)
  · have hident := (continues_of_mem_offeredNames hn).1
    have hword := (isWord_iff.1 (isWord_of_isIdentifier hident)).2
    exact .inl (List.all_eq_true.1 hword x hname)
  · right
    have hmarks : ∀ mark ∈ ["", "(", " "], mark.toList ⊆ ['.', '(', ' '] := by simp
    exact hmarks _ (c.offeredMark_mem _ n) hmark

theorem ne_empty_of_mem_complete (h : candidate ∈ c.complete text) : candidate ≠ "" := by
  obtain ⟨n, hn, rfl⟩ := exists_offered_of_mem_complete h
  have hname : n ≠ "" := ne_empty_of_isIdentifier (continues_of_mem_offeredNames hn).1
  intro hempty
  rw [String.append_eq_empty_iff, String.append_eq_empty_iff] at hempty
  exact hname hempty.1.2

theorem lineFeed_not_mem_of_mem_complete (h : candidate ∈ c.complete text) :
    '\n' ∉ candidate.toList := by
  intro hfeed
  rcases mem_candidate_cases h hfeed with hword | hother
  · exact absurd (zero_le_of_isWordChar hword) (by decide)
  · exact absurd hother (by decide)

end

end Completer

/-! ## Reading back -/

namespace Candidates

/-- What is printed tells the candidates: it is empty if there are none, and otherwise its lines are
the candidates. -/
structure TellsCandidates (candidates : List String) : Prop where
  empty_iff : plainText candidates = "" ↔ candidates = []
  lines_eq : candidates ≠ [] → Text.pieces '\n' (plainText candidates) = candidates

section

variable {candidates others : List String}

theorem tellsCandidates_of_forall (hne : ∀ c ∈ candidates, c ≠ "")
    (hfree : ∀ c ∈ candidates, '\n' ∉ c.toList) : TellsCandidates candidates where
  empty_iff := by
    constructor
    · intro hempty
      by_contra hsome
      have hlines := Text.pieces_intercalate hsome hfree
      -- The empty text has one line, which is empty.
      have hline : candidates = [""] := by
        rw [← hlines]
        exact congrArg (Text.pieces '\n') hempty
      exact hne "" (by rw [hline]; exact List.mem_singleton_self _) rfl
    · rintro rfl
      rfl
  lines_eq hsome := Text.pieces_intercalate hsome hfree

/-- Candidates that are told by the same text are the same. -/
theorem TellsCandidates.eq (h : TellsCandidates candidates) (hothers : TellsCandidates others)
    (htext : plainText candidates = plainText others) : candidates = others := by
  by_cases hnone : candidates = []
  · have hempty : plainText others = "" := by rw [← htext, h.empty_iff.2 hnone]
    rw [hnone, hothers.empty_iff.1 hempty]
  · have hsome : others ≠ [] := fun hnil =>
      hnone (h.empty_iff.1 (by rw [htext, hothers.empty_iff.2 hnil]))
    rw [← h.lines_eq hnone, htext, hothers.lines_eq hsome]

end

end Candidates

open Candidates

section

variable {session : Session} {s : Store} {text : String} {candidates : List String}

theorem Completer.tellsCandidates_complete (c : Completer) (text : String) :
    TellsCandidates (c.complete text) :=
  tellsCandidates_of_forall (fun _ h => ne_empty_of_mem_complete h)
    (fun _ h => lineFeed_not_mem_of_mem_complete h)

theorem Session.tellsCandidates_completions (h : session.completions s text = .ok candidates) :
    TellsCandidates candidates := by
  unfold Session.completions at h
  cases hcompleter : session.completer s with
  | error e => rw [hcompleter] at h; cases h
  | ok c =>
    rw [hcompleter] at h
    obtain rfl : c.complete text = candidates := Except.ok.inj h
    exact c.tellsCandidates_complete text

/-- Two requests that print the same text have the same candidates; a request that fails has
none. -/
theorem Session.map_plainText_inj {other : Session} {t : Store} {typed : String} :
    (session.completions s text).map plainText = (other.completions t typed).map plainText ↔
      session.completions s text = other.completions t typed := by
  constructor
  · intro h
    cases hthis : session.completions s text with
    | error e =>
      cases hthat : other.completions t typed with
      | error e' =>
        rw [hthis, hthat] at h
        exact congrArg Except.error (Except.error.inj h)
      | ok found =>
        rw [hthis, hthat] at h
        cases h
    | ok candidates =>
      cases hthat : other.completions t typed with
      | error e' =>
        rw [hthis, hthat] at h
        cases h
      | ok found =>
        rw [hthis, hthat] at h
        have htells := tellsCandidates_completions hthis
        rw [htells.eq (tellsCandidates_completions hthat) (Except.ok.inj h)]
  · intro h
    rw [h]

end

/-! ## Printing nothing -/

namespace CommandLine

theorem printed_eq_nil_iff {text : String} : printed text = [] ↔ text = "" := by
  unfold printed
  split <;> simp_all

/-- Completing prints nothing exactly if there is a session and it offers nothing. -/
theorem completeOutcome_silent_iff (files : Files) (text : String) (setup : Setup) :
    (completeOutcome files text false setup).output = [] ↔
      ∃ session s, setup.session files .empty = .ok (session, s) ∧
        session.completions s text = .ok [] := by
  unfold completeOutcome
  cases hsetup : setup.session files .empty with
  | error e => simp
  | ok opened =>
    obtain ⟨session, s⟩ := opened
    dsimp only
    cases hfound : session.completions s text with
    | error e => simp [hfound]
    | ok candidates =>
      have hsilent : printed (plainText candidates) = [] ↔ candidates = [] :=
        printed_eq_nil_iff.trans (Session.tellsCandidates_completions hfound).empty_iff
      show printed (plainText candidates) = [] ↔ _
      rw [hsilent]
      simp [hfound]

/-- So does a line that asks for completions. -/
theorem complete_line_silent_iff {session : Session} {s s' : Store} {line text : String}
    (hread : Prompt.readCommand s line = .ok (.complete text, s')) :
    replyOutput (Prompt.respond session s line).1 = [] ↔ session.completions s text = .ok [] := by
  obtain rfl := Prompt.readCommand_store_eq hread fun _ _ h => by cases h
  have hblank : ¬ Text.isBlankLine line = true := fun hblank => by
    rw [Prompt.readCommand_of_blank hblank] at hread
    cases hread
  simp only [Prompt.respond, if_neg hblank, hread, Prompt.execute]
  cases hfound : session.completions s' text with
  | error e => simp [replyOutput]
  | ok candidates =>
    have hempty := (Session.tellsCandidates_completions hfound).empty_iff
    dsimp only
    rw [replyOutput, printed_eq_nil_iff, hempty, Except.ok.injEq]

end CommandLine

/-! ## The main result -/

/-- Whatever is bound, given as a keyword or typed: what is printed for a request tells its
candidates, so that requests which print the same text have the same candidates.  Nothing at all is
printed only if there is nothing to offer, by the program as well as at the prompt. -/
theorem plain_output_decodes :
    (∀ (session : Session) (s : Store) (text : String) (candidates : List String),
        session.completions s text = .ok candidates → TellsCandidates candidates) ∧
      (∀ (session other : Session) (s t : Store) (text typed : String),
        (session.completions s text).map plainText = (other.completions t typed).map plainText ↔
          session.completions s text = other.completions t typed) ∧
      (∀ (files : CommandLine.Files) (text : String) (setup : CommandLine.Setup),
        (CommandLine.completeOutcome files text false setup).output = [] ↔
          ∃ session s, setup.session files .empty = .ok (session, s) ∧
            session.completions s text = .ok []) ∧
      ∀ (session : Session) (s s' : Store) (line text : String),
        Prompt.readCommand s line = .ok (.complete text, s') →
          (CommandLine.replyOutput (Prompt.respond session s line).1 = [] ↔
            session.completions s text = .ok []) := by
  refine ⟨?_, ?_, CommandLine.completeOutcome_silent_iff, ?_⟩
  · intro session s text candidates h
    exact Session.tellsCandidates_completions h
  · intro session other s t text typed
    exact Session.map_plainText_inj
  · intro session s s' line text hread
    exact CommandLine.complete_line_silent_iff hread

/-- A session with names that would spoil the print if they were offered. -/
def spoilingNames : Session × Store :=
  let (session, s) := Session.detached .empty
  let names := .ofList [("", .null), ("a\nb", .null), ("ab", .null), ("ac", .null)]
  let (main, s) := Module.create s mainModule names
  (session.withOptions ⟨["a", "a\n"], true, false⟩, (session.register s main).2)

theorem spoilingNames_decodes :
    spoilingNames.1.completions spoilingNames.2 "a" = .ok ["a ", "ab", "ac"] ∧
      plainText ["a ", "ab", "ac"] = "a \nab\nac" ∧
      Text.pieces '\n' "a \nab\nac" = ["a ", "ab", "ac"] := by
  have hanswer : spoilingNames.1.completions spoilingNames.2 "a" =
      .ok (Completer.inOrder ["a ", "ab", "ac"]) := by
    rfl
  have hsorted : Completer.inOrder ["a ", "ab", "ac"] = ["a ", "ab", "ac"] :=
    List.mergeSort_of_pairwise (by decide +kernel)
  have hfound : spoilingNames.1.completions spoilingNames.2 "a" = .ok ["a ", "ab", "ac"] := by
    rw [hanswer, hsorted]
  refine ⟨hfound, by decide, ?_⟩
  exact (plain_output_decodes.1 _ _ _ _ hfound).lines_eq (List.cons_ne_nil _ _)

end NameCompletion
