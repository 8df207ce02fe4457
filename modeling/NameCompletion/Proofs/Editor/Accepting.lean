import NameCompletion.Proofs.Completer.Chain
import NameCompletion.Proofs.Completer.Typeable
import NameCompletion.Proofs.Editor

/-!
# Accepting a replacement

A replacement is accepted by putting it in the place of the word before the cursor.  Without
decoration this settles the request: at the end of the replacement the editor finds the replacement
as the word before the cursor, where the word before it started, and offers it again.

* `wordBefore_accepted`: the replacement holds path characters only, and what stands in front of a
  word does not end in one, so the word neither grows nor shrinks.
* `mem_candidates_self`: a candidate is a candidate for itself.
* `accepting_settles`: both together, at every cursor.
-/

namespace NameCompletion.Editor

/-! ## Replacing the word before the cursor -/

/-- The line with a replacement in the place of what stands between two byte offsets; `none` if one
of them is no boundary between characters. -/
def accept? (line : String) (start offset : Nat) (replacement : String) : Option String :=
  (Text.splitAtByte? line.toList offset).bind fun (before, behind) =>
    (Text.splitAtByte? before start).map fun (front, _) =>
      String.ofList front ++ replacement ++ String.ofList behind

theorem accept?_append (before behind replacement : String) :
    accept? (before ++ behind) (wordBefore before).start before.utf8ByteSize replacement =
      some (frontBefore before ++ replacement ++ behind) := by
  rw [accept?, Text.splitAtByte?_toList_append, Option.bind_some]
  show (Text.splitAtByte? before.toList (wordBefore before).start).map _ = _
  rw [splitAtByte?_start, Option.map_some, String.ofList_toList]
  rfl

/-- Path characters behind what stands in front of a word make up the next word. -/
theorem splitWord_front_append (before : List Char) {word : List Char}
    (hword : ∀ x ∈ word, isPathChar x = true) :
    splitWord ((splitWord before).1 ++ word) = ((splitWord before).1, word) :=
  CutAtWord.splitWord_eq ⟨hword, (cutAtWord_splitWord before).stops⟩

/-- The word before the cursor is the replacement, at the start of the word that it replaced. -/
theorem wordBefore_accepted (before : String) {replacement : String}
    (hchars : ∀ x ∈ replacement.toList, isPathChar x = true) :
    wordBefore (frontBefore before ++ replacement) = ⟨(wordBefore before).start, replacement⟩ := by
  rw [wordBefore, frontBefore, String.toList_append, String.toList_ofList,
    splitWord_front_append before.toList hchars, String.ofList_toList, wordBefore]

/-! ## Candidates as words -/

variable {session : Session} {s : Store} {word candidate : String}

/-- A candidate is a candidate for itself. -/
theorem mem_candidates_self (hplain : session.options.decorate = false)
    (h : candidate ∈ candidates session s word) : candidate ∈ candidates session s candidate := by
  obtain ⟨c, hoptions, hanswers⟩ := exists_completer_of_mem_candidates h
  rw [hanswers] at h ⊢
  rw [← hoptions] at hplain
  exact Completer.mem_complete_self hplain h

/-- Characters of a word that has a candidate are path characters. -/
theorem isPathChar_of_mem_word (h : candidate ∈ candidates session s word) :
    ∀ x ∈ word.toList, isPathChar x = true := by
  obtain ⟨c, _, hanswers⟩ := exists_completer_of_mem_candidates h
  rw [hanswers] at h
  intro x hx
  exact isPathChar_iff.2 ((Completer.wellFormed_of_mem_complete h).chars x hx)

/-! ## The main result -/

/-- At the end of a replacement, the editor finds it as the word before the cursor and offers it. -/
structure Settled (session : Session) (s : Store) (line : String) (start : Nat)
    (p : Replacement) : Prop where
  finds : wordAt? line (start + p.replacement.utf8ByteSize) = some ⟨start, p.replacement⟩
  offers : ∃ pairs, complete? session s line (start + p.replacement.utf8ByteSize) =
    some (start, pairs) ∧ p ∈ pairs

/-- Without decoration, every replacement that is offered at a cursor can be accepted, and
completing behind it finds and offers the same replacement at the same place. -/
theorem accepting_settles (session : Session) (s : Store)
    (hplain : session.options.decorate = false) (before behind : String) :
    ∃ start pairs,
      complete? session s (before ++ behind) before.utf8ByteSize = some (start, pairs) ∧
        ∀ p ∈ pairs, ∃ line,
          accept? (before ++ behind) start before.utf8ByteSize p.replacement = some line ∧
            Settled session s line start p := by
  refine ⟨_, _, complete?_append session s before behind, fun p hp => ?_⟩
  obtain ⟨candidate, hcandidate, rfl⟩ := List.mem_map.1 hp
  -- The candidate has itself as a candidate, so it holds path characters only.
  have hself := mem_candidates_self hplain hcandidate
  have hword := wordBefore_accepted before (isPathChar_of_mem_word hself)
  -- The cursor behind the replacement, as the end of all that stands in front of it.
  have hcursor : (wordBefore before).start + candidate.utf8ByteSize =
      (frontBefore before ++ candidate).utf8ByteSize := by
    rw [String.utf8ByteSize_append, byteSize_frontBefore]
  refine ⟨_, accept?_append before behind candidate, ?_, ?_⟩
  · show wordAt? _ ((wordBefore before).start + candidate.utf8ByteSize) = _
    rw [hcursor, wordAt?_append, hword]
  · have hagain := complete?_append session s (frontBefore before ++ candidate) behind
    rw [← hcursor, hword] at hagain
    exact ⟨_, hagain, List.mem_map.2 ⟨candidate, hself, rfl⟩⟩

/-- A session that knows a record with private members only. -/
def withPrivateRecord : Session × Store :=
  let (session, s) := Session.create .empty
  let (fields, s) := s.newScope (.ofList [("_", .null), ("__a", .null)])
  (session, (s.bind ⟨1⟩ "r" (.record fields)).2)

/-- The underscore is accepted behind a letter of two bytes, and it is not hidden once it is what
was typed. -/
theorem underscore_settles :
    withPrivateRecord.1.options.decorate = false ∧
      complete? withPrivateRecord.1 withPrivateRecord.2 "é r. + 1" 5 = some (3, [⟨"_", "r._"⟩]) ∧
      accept? "é r. + 1" 3 5 "r._" = some "é r._ + 1" ∧
      Settled withPrivateRecord.1 withPrivateRecord.2 "é r._ + 1" 3 ⟨"_", "r._"⟩ := by
  have hplain : withPrivateRecord.1.options.decorate = false := rfl
  have hoffered : complete? withPrivateRecord.1 withPrivateRecord.2 "é r. + 1" 5 =
      some (3, [⟨"_", "r._"⟩]) := by decide +kernel
  have haccepted : accept? "é r. + 1" 3 5 "r._" = some "é r._ + 1" := by decide +kernel
  obtain ⟨start, pairs, hpairs, hsettles⟩ :=
    accepting_settles withPrivateRecord.1 withPrivateRecord.2 hplain "é r." " + 1"
  obtain ⟨rfl, rfl⟩ := Prod.mk.inj (Option.some.inj (hoffered.symm.trans hpairs))
  obtain ⟨line, hline, hsettled⟩ := hsettles ⟨"_", "r._"⟩ List.mem_cons_self
  obtain rfl := Option.some.inj (haccepted.symm.trans hline)
  exact ⟨hplain, hoffered, haccepted, hsettled⟩

end NameCompletion.Editor
