import Mathlib.Data.List.TakeWhile
import NameCompletion.Editor
import NameCompletion.Proofs.Completer.Offered

/-!
# Completion at a cursor

A line is given as what stands before the cursor and what stands behind it: that is what it means
that an offset is between two characters (`isSome_wordAt?_iff`).  Then nothing is ever cut inside a
character, since every candidate starts with the word before the cursor (`prefix_of_mem_complete`).

* `CutAtWord`, `CutAtWord.wordStart_append`: the scan for the start of the word stops behind the
  last character that is not of the word.
* `wordAt?_append`, `complete?_append`, `hintAt?_append`: what the editor answers, without offsets.
* `Answers`: what is to be said of these answers.
* `answers_at_cursor`: the editor answers at every cursor.
-/

namespace NameCompletion

/-- A candidate starts with the text that it completes. -/
theorem Completer.prefix_of_mem_complete {c : Completer} {text candidate : String}
    (h : candidate ∈ c.complete text) : text.toList <+: candidate.toList := by
  rw [complete_eq] at h
  obtain ⟨n, hn, rfl⟩ := List.mem_map.1 h
  have hvalid : Fragment.parse text ≠ .invalid := fun hinvalid => by
    rw [hinvalid] at hn
    exact List.not_mem_nil hn
  have hname := (continues_of_mem_offeredNames hn).2
  rw [String.append_assoc]
  conv_lhs => rw [Fragment.eq_front_append_typed hvalid]
  rw [String.toList_append, String.toList_append, String.toList_append]
  exact List.prefix_append_right_inj _ |>.2 (hname.trans (List.prefix_append _ _))

namespace Editor

/-! ## The word before the cursor -/

theorem isPathChar_iff {c : Char} : isPathChar c = true ↔ isWordChar c = true ∨ c = '.' := by
  rw [isPathChar, Bool.or_eq_true, decide_eq_true_iff]

theorem isPathChar_eq_false_iff {c : Char} :
    isPathChar c = false ↔ isWordChar c = false ∧ c ≠ '.' := by
  rw [isPathChar, Bool.or_eq_false_iff, decide_eq_false_iff_not]

/-- The longest run of path characters that ends the text, and what stands before it. -/
def splitWord (before : List Char) : List Char × List Char :=
  ((before.reverse.dropWhile isPathChar).reverse, (before.reverse.takeWhile isPathChar).reverse)

/-- A text is what stands before its last word, and that word. -/
theorem splitWord_append (before : List Char) :
    (splitWord before).1 ++ (splitWord before).2 = before := by
  rw [splitWord, ← List.reverse_append, List.takeWhile_append_dropWhile, List.reverse_reverse]

/-- A word holds path characters only, and what stands in front of it does not end in one. -/
structure CutAtWord (front word : List Char) : Prop where
  inside : ∀ c ∈ word, isPathChar c = true
  stops : ∀ c ∈ front.getLast?, isPathChar c = false

theorem cutAtWord_splitWord (before : List Char) :
    CutAtWord (splitWord before).1 (splitWord before).2 where
  inside := by
    intro c hc
    rw [splitWord, List.mem_reverse] at hc
    exact List.mem_takeWhile_imp hc
  stops := by
    intro c hc
    rw [splitWord, List.getLast?_reverse] at hc
    have hstop := List.head?_dropWhile_not isPathChar before.reverse
    rw [Option.mem_def.1 hc] at hstop
    exact hstop

/-- The scan from the cursor back stops where the word starts. -/
theorem CutAtWord.wordStart_append {front word : List Char} (h : CutAtWord front word) :
    wordStart (front ++ word) = Text.byteLength front := by
  -- Nothing in the word stops the scan.
  have hword : ((Text.withOffsets (0 + Text.byteLength front) word).reverse.find?
      fun e => !isPathChar e.2) = none := by
    rw [List.find?_eq_none]
    intro e he hstop
    have hinside := h.inside _ (Text.mem_of_mem_withOffsets (List.mem_reverse.1 he))
    rw [hinside] at hstop
    cases hstop
  rw [wordStart, Text.withOffsets_append, List.reverse_append, List.find?_append, hword,
    Option.none_or]
  rcases List.eq_nil_or_concat front with rfl | ⟨init, c, rfl⟩
  · rfl
  · -- The last character in front of the word does, and the word starts behind all its bytes.
    have hc : (!isPathChar c) = true := by rw [h.stops c (by simp), Bool.not_false]
    rw [List.concat_eq_append, Text.withOffsets_append, List.reverse_append, Text.withOffsets,
      Text.withOffsets, List.reverse_singleton, List.singleton_append, List.find?_cons, hc,
      Text.byteLength_append, Text.byteLength, Text.byteLength]
    show 0 + Text.byteLength init + c.utf8Size = _
    omega

theorem wordStart_eq (before : List Char) :
    wordStart before = Text.byteLength (splitWord before).1 := by
  have hstart := (cutAtWord_splitWord before).wordStart_append
  rwa [splitWord_append] at hstart

/-- There is one way only to cut a text in front of its last word, since there is one offset only
at which the scan stops. -/
theorem CutAtWord.splitWord_eq {front word : List Char} (h : CutAtWord front word) :
    splitWord (front ++ word) = (front, word) := by
  have hsplit :=
    Text.splitAtByte?_append (splitWord (front ++ word)).1 (splitWord (front ++ word)).2
  rw [splitWord_append, ← wordStart_eq, h.wordStart_append, Text.splitAtByte?_append] at hsplit
  exact (Option.some.inj hsplit).symm

/-- Where the word before the cursor starts, and which it is. -/
def wordBefore (before : String) : WordAt where
  start := Text.byteLength (splitWord before.toList).1
  word := String.ofList (splitWord before.toList).2

/-- What stands in front of the word before the cursor. -/
def frontBefore (before : String) : String :=
  String.ofList (splitWord before.toList).1

theorem byteSize_frontBefore (before : String) :
    (frontBefore before).utf8ByteSize = (wordBefore before).start := by
  rw [Text.utf8ByteSize_eq, frontBefore, String.toList_ofList, wordBefore]

theorem frontBefore_append (before : String) :
    frontBefore before ++ (wordBefore before).word = before := by
  rw [frontBefore, wordBefore, ← String.ofList_append, splitWord_append, String.ofList_toList]

/-- The start of the word separates it from what stands in front of it. -/
theorem splitAtByte?_start (before : String) :
    Text.splitAtByte? before.toList (wordBefore before).start = some (splitWord before.toList) := by
  have hstart := Text.splitAtByte?_append (splitWord before.toList).1 (splitWord before.toList).2
  rwa [splitWord_append] at hstart

theorem wordAt?_append (before behind : String) :
    wordAt? (before ++ behind) before.utf8ByteSize = some (wordBefore before) := by
  rw [wordAt?, Text.splitAtByte?_toList_append]
  show (Text.splitAtByte? before.toList (wordStart before.toList)).bind _ = _
  rw [wordStart_eq, Option.bind_eq_some_iff]
  exact ⟨_, splitAtByte?_start before, rfl⟩

/-- An offset is a cursor if it is between two texts that make up the line. -/
theorem isSome_wordAt?_iff {line : String} {offset : Nat} :
    (wordAt? line offset).isSome ↔
      ∃ before behind, line = before ++ behind ∧ offset = before.utf8ByteSize := by
  constructor
  · intro h
    obtain ⟨found, hfound⟩ := Option.isSome_iff_exists.1 h
    obtain ⟨⟨before, behind⟩, hsplit, _⟩ := Option.bind_eq_some_iff.1 hfound
    obtain ⟨hline, hoffset⟩ := Text.eq_append_of_splitAtByte? hsplit
    refine ⟨String.ofList before, String.ofList behind, ?_, ?_⟩
    · rw [← String.toList_inj, hline, String.toList_append, String.toList_ofList,
        String.toList_ofList]
    · rw [Text.utf8ByteSize_eq, String.toList_ofList, hoffset]
  · rintro ⟨before, behind, rfl, rfl⟩
    rw [wordAt?_append]
    rfl

/-- The word stands in the line between its start and the cursor. -/
theorem slice?_wordBefore (before behind : String) :
    Text.slice? (before ++ behind).toList (wordBefore before).start before.utf8ByteSize =
      some (wordBefore before).word.toList := by
  rw [Text.slice?, Text.splitAtByte?_toList_append]
  show (Text.splitAtByte? before.toList (wordBefore before).start).bind _ = _
  rw [splitAtByte?_start, wordBefore, String.toList_ofList]
  rfl

/-! ## What is listed of a candidate -/

theorem dot_not_mem_lastSegment (candidate : String) : '.' ∉ (lastSegment candidate).toList := by
  rw [lastSegment, String.toList_ofList, List.mem_reverse]
  intro hdot
  have hne := List.mem_takeWhile_imp hdot
  exact absurd rfl (bne_iff_ne.1 hne)

/-- What is listed is the whole candidate, or stands behind a dot of it. -/
theorem eq_or_exists_append_lastSegment (candidate : String) :
    candidate = lastSegment candidate ∨
      ∃ front, candidate = front ++ "." ++ lastSegment candidate := by
  have hcut := List.takeWhile_append_dropWhile (p := (· != '.')) (l := candidate.toList.reverse)
  cases hrest : candidate.toList.reverse.dropWhile (· != '.') with
  | nil =>
    left
    rw [hrest, List.append_nil] at hcut
    rw [lastSegment, hcut, List.reverse_reverse, String.ofList_toList]
  | cons dot rest =>
    right
    obtain rfl : dot = '.' := by
      have hdot := List.head_dropWhile_not (· != '.') (l := candidate.toList.reverse)
        (by rw [hrest]; exact List.cons_ne_nil _ _)
      simpa [hrest] using hdot
    refine ⟨String.ofList rest.reverse, ?_⟩
    rw [hrest] at hcut
    rw [← String.toList_inj, ← List.reverse_inj, ← hcut, lastSegment]
    simp

/-! ## The answers -/

theorem candidates_of_error {session : Session} {s : Store} {word : String} {e : CompletionError}
    (h : session.completions s word = .error e) : candidates session s word = [] := by
  rw [candidates, h]

theorem candidates_of_ok {session : Session} {s : Store} {word : String} {found : List String}
    (h : session.completions s word = .ok found) : candidates session s word = found := by
  rw [candidates, h]

/-- A session that has a candidate answers from one completer, with the options of the session. -/
theorem exists_completer_of_mem_candidates {session : Session} {s : Store} {word candidate : String}
    (h : candidate ∈ candidates session s word) :
    ∃ c : Completer, c.options = session.options ∧
      ∀ other, candidates session s other = c.complete other := by
  cases hmain : session.module? s mainModule with
  | none =>
    rw [candidates_of_error (Session.completions_of_module?_eq_none hmain word)] at h
    exact absurd h List.not_mem_nil
  | some m =>
    exact ⟨_, rfl, fun other => candidates_of_ok (Session.completions_of_module? hmain other)⟩

/-- Every candidate starts with the word. -/
theorem prefix_of_mem_candidates {session : Session} {s : Store} {word candidate : String}
    (h : candidate ∈ candidates session s word) : word.toList <+: candidate.toList := by
  obtain ⟨c, _, hanswers⟩ := exists_completer_of_mem_candidates h
  rw [hanswers] at h
  exact Completer.prefix_of_mem_complete h

/-- The replacements do not depend on the text behind the cursor. -/
theorem complete?_append (session : Session) (s : Store) (before behind : String) :
    complete? session s (before ++ behind) before.utf8ByteSize =
      some ((wordBefore before).start,
        (candidates session s (wordBefore before).word).map fun candidate =>
          ⟨lastSegment candidate, candidate⟩) := by
  rw [complete?, wordAt?_append]
  rfl

/-- A text that starts with the word is not cut inside a character. -/
theorem continuation?_append (word rest : String) :
    continuation? word (word ++ rest) = some rest := by
  rw [continuation?, Text.splitAtByte?_toList_append]
  exact congrArg some String.ofList_toList

/-- The first candidate goes on from the word by the hint. -/
def Continues (session : Session) (s : Store) (word hint : String) : Prop :=
  ∃ first rest, session.completions s word = .ok (first :: rest) ∧
    first ≠ word ∧ word ++ hint = first

/-- A first candidate that starts with the word is not cut inside a character. -/
theorem firstContinuation?_cons (word rest : String) (others : List String) :
    firstContinuation? word ((word ++ rest) :: others) =
      some (if word ++ rest = word then none else some rest) := by
  rw [firstContinuation?, continuation?_append, Option.map_some]
  simp only [String.isEmpty_iff, String.append_eq_left_iff]

theorem firstContinuation?_candidates (session : Session) (s : Store) (word : String) :
    ∃ hint, firstContinuation? word (candidates session s word) = some hint ∧
      ∀ h, hint = some h ↔ Continues session s word h := by
  have hprefix := @prefix_of_mem_candidates session s word
  cases hfound : session.completions s word with
  | error e =>
    rw [candidates_of_error hfound]
    exact ⟨none, rfl, fun h => ⟨nofun, fun ⟨_, _, hok, _⟩ => absurd (hfound.symm.trans hok) nofun⟩⟩
  | ok found =>
    rw [candidates_of_ok hfound] at hprefix ⊢
    cases found with
    | nil =>
      refine ⟨none, rfl, fun h => ⟨nofun, fun ⟨_, _, hok, _⟩ => ?_⟩⟩
      exact absurd (hfound.symm.trans hok) (by simp)
    | cons first others =>
      obtain ⟨rest, hrest⟩ := hprefix List.mem_cons_self
      obtain rfl : word ++ String.ofList rest = first := by
        rw [← String.toList_inj, String.toList_append, String.toList_ofList, hrest]
      refine ⟨_, firstContinuation?_cons word _ others, fun h => ?_⟩
      rw [Option.ite_none_left_eq_some, Option.some.injEq]
      constructor
      · rintro ⟨hne, rfl⟩
        exact ⟨_, others, hfound, hne, rfl⟩
      · rintro ⟨first, rest', hok, hne, rfl⟩
        obtain ⟨heq, rfl⟩ := List.cons.inj (Except.ok.inj (hfound.symm.trans hok))
        rw [heq]
        exact ⟨hne, (String.append_right_inj _).1 heq⟩

/-- The hint is answered at every cursor. -/
theorem hintAt?_append (session : Session) (s : Store) (before behind : String) :
    ∃ hint, hintAt? session s (before ++ behind) before.utf8ByteSize = some hint ∧
      ∀ h, hint = some h ↔ behind = "" ∧ 2 ≤ (wordBefore before).word.utf8ByteSize ∧
        Continues session s (wordBefore before).word h := by
  have hsize : (before ++ behind).utf8ByteSize = before.utf8ByteSize + behind.utf8ByteSize :=
    String.utf8ByteSize_append
  rw [hintAt?, hsize, wordAt?_append, Option.bind_some]
  by_cases hbehind : behind = ""
  · subst hbehind
    rw [if_neg (by simp)]
    by_cases hshort : (wordBefore before).word.utf8ByteSize < 2
    · exact ⟨none, if_pos hshort, fun h => ⟨nofun, fun h => absurd h.2.1 (by omega)⟩⟩
    · rw [if_neg hshort]
      obtain ⟨hint, hanswer, hiff⟩ :=
        firstContinuation?_candidates session s (wordBefore before).word
      exact ⟨hint, hanswer, fun h => (hiff h).trans
        ⟨fun h => ⟨rfl, by omega, h⟩, fun h => h.2.2⟩⟩
  · have hpos : 0 < behind.utf8ByteSize := by
      rw [Nat.pos_iff_ne_zero]
      exact fun hzero => hbehind (String.utf8ByteSize_eq_zero_iff.1 hzero)
    exact ⟨none, if_pos (by omega), fun h => ⟨nofun, fun h => absurd h.1 hbehind⟩⟩

/-! ## At every cursor -/

/-- What the editor answers at a cursor between the texts `before` and `behind`: the word that it
finds, the replacements for it and the hint. -/
structure Answers (session : Session) (s : Store) (before behind : String) (found : WordAt)
    (pairs : List Replacement) (hint : Option String) : Prop where
  finds : wordAt? (before ++ behind) before.utf8ByteSize = some found
  /-- The word stands between its start and the cursor. -/
  stands : Text.slice? (before ++ behind).toList found.start before.utf8ByteSize =
    some found.word.toList
  /-- The replacements are found whatever stands behind the cursor. -/
  completes : ∀ other, complete? session s (before ++ other) before.utf8ByteSize =
    some (found.start, pairs)
  /-- They are the candidates for the word, in order. -/
  listed : session.completions s found.word = .ok (pairs.map (·.replacement)) ∨
    session.module? s mainModule = none ∧ pairs = []
  /-- A replacement keeps what was typed. -/
  keeps : ∀ p ∈ pairs, found.word.toList <+: p.replacement.toList
  /-- What is listed is what follows the last dot. -/
  display : ∀ p ∈ pairs, '.' ∉ p.display.toList ∧
    (p.replacement = p.display ∨ ∃ front, p.replacement = front ++ "." ++ p.display)
  hints : hintAt? session s (before ++ behind) before.utf8ByteSize = some hint
  hint_iff : ∀ h, hint = some h ↔ behind = "" ∧ 2 ≤ found.word.utf8ByteSize ∧
    Continues session s found.word h

/-- The editor answers at every cursor, with a main module and without one. -/
theorem answers_at_cursor (session : Session) (s : Store) (before behind : String) :
    ∃ found pairs hint, Answers session s before behind found pairs hint := by
  obtain ⟨hint, hanswer, hiff⟩ := hintAt?_append session s before behind
  refine ⟨wordBefore before, _, hint, {
    finds := wordAt?_append before behind
    stands := slice?_wordBefore before behind
    completes := complete?_append session s before
    listed := ?_
    keeps := ?_
    display := ?_
    hints := hanswer
    hint_iff := hiff }⟩
  · cases hmain : session.module? s mainModule with
    | none =>
      right
      rw [candidates_of_error (Session.completions_of_module?_eq_none hmain _)]
      exact ⟨rfl, rfl⟩
    | some m =>
      left
      rw [candidates_of_ok (Session.completions_of_module? hmain _), List.map_map]
      exact (Session.completions_of_module? hmain _).trans (congrArg _ (List.map_id _).symm)
  · intro p hp
    obtain ⟨candidate, hmem, rfl⟩ := List.mem_map.1 hp
    exact prefix_of_mem_candidates hmem
  · intro p hp
    obtain ⟨candidate, hmem, rfl⟩ := List.mem_map.1 hp
    exact ⟨dot_not_mem_lastSegment candidate, eq_or_exists_append_lastSegment candidate⟩

end Editor

end NameCompletion
