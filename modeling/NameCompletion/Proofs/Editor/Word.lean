import NameCompletion.Proofs.Editor

/-!
# The word before a cursor

The word before a cursor is found by a scan over byte offsets, from the cursor back.  Here it is
described by the positions of the line, each of which is a byte offset together with a proof that it
is a boundary between characters.

* `StartsWord`: the word that ends at a cursor starts at a position.
* `startsWord_iff`: which texts the two positions separate from each other.
* `maximal_word`: at every cursor the scan finds the one position at which the word starts, and the
  line is cut at boundaries only.
-/

namespace NameCompletion.Editor

variable {line front word behind rest : String} {start cursor : line.Pos}

/-- The character that ends at a position behind the start of the line. -/
def charBefore (p : line.Pos) (h : p ≠ line.startPos) : Char :=
  (p.prev h).get (by simp)

/-- The word that ends at a cursor starts at a position: from there on to the cursor stand path
characters only, and the character in front of them, if there is one, is none of them. -/
structure StartsWord (start cursor : line.Pos) : Prop where
  le : start ≤ cursor
  inside : ∀ c ∈ (line.extract start cursor).toList, isWordChar c = true ∨ c = '.'
  stops : ∀ h : start ≠ line.startPos,
    isWordChar (charBefore start h) = false ∧ charBefore start h ≠ '.'

/-- The last character in front of a position is the one that ends there. -/
theorem mem_getLast?_iff (h : start.Splits front rest) {c : Char} :
    c ∈ front.toList.getLast? ↔ ∃ hne : start ≠ line.startPos, charBefore start hne = c := by
  by_cases hstart : start = line.startPos
  · have hfront : front = "" := h.eq_startPos_iff.1 hstart
    simp [hfront, hstart]
  · obtain ⟨init, hinit⟩ := h.exists_eq_append_singleton_of_ne_startPos hstart
    have hlast : front.toList.getLast? = some (charBefore start hstart) := by
      rw [hinit, String.toList_append, String.toList_singleton, List.getLast?_concat, charBefore]
    rw [hlast, Option.mem_some_iff]
    exact ⟨fun hc => ⟨hstart, hc⟩, fun ⟨_, hc⟩ => hc⟩

/-- What stands between two positions. -/
theorem extract_of_splits (hstart : start.Splits front (word ++ behind))
    (hcursor : cursor.Splits (front ++ word) behind) : line.extract start cursor = word := by
  obtain ⟨hle, hslice⟩ := String.copy_slice_eq_iff_splits.2 ⟨front, behind, hstart, hcursor⟩
  rw [String.extract_eq_copy_slice start cursor hle, hslice]

theorem startsWord_iff (hstart : start.Splits front (word ++ behind))
    (hcursor : cursor.Splits (front ++ word) behind) :
    StartsWord start cursor ↔ CutAtWord front.toList word.toList := by
  have hextract := extract_of_splits hstart hcursor
  constructor
  · intro h
    refine ⟨fun c hc => ?_, fun c hc => ?_⟩
    · exact isPathChar_iff.2 (h.inside c (by rwa [hextract]))
    · obtain ⟨hne, rfl⟩ := (mem_getLast?_iff hstart).1 hc
      exact isPathChar_eq_false_iff.2 (h.stops hne)
  · intro h
    refine ⟨?_, fun c hc => ?_, fun hne => ?_⟩
    · exact (hstart.le_iff_exists_eq_append hcursor).2 ⟨word, rfl, rfl⟩
    · rw [hextract] at hc
      exact isPathChar_iff.1 (h.inside c hc)
    · exact isPathChar_eq_false_iff.1 (h.stops _ ((mem_getLast?_iff hstart).2 ⟨hne, rfl⟩))

/-- The word starts where the scan stops. -/
theorem StartsWord.byteIdx_eq (h : StartsWord start cursor) (hcursor : cursor.Splits front behind) :
    start.offset.byteIdx = wordStart front.toList := by
  obtain ⟨word, rfl, hrest⟩ := (start.splits.le_iff_exists_eq_append hcursor).1 h.le
  have hstart := start.splits
  rw [hrest] at hstart
  have hcut := (startsWord_iff hstart hcursor).1 h
  rw [String.toList_append, hcut.wordStart_append, ← Text.utf8ByteSize_eq,
    hstart.offset_eq_rawEndPos, String.byteIdx_rawEndPos]

theorem wordAt?_of_splits (h : cursor.Splits front behind) :
    wordAt? line cursor.offset.byteIdx = some (wordBefore front) := by
  rw [h.offset_eq_rawEndPos, String.byteIdx_rawEndPos, h.eq_append, wordAt?_append]

/-- At every cursor a word is found, so nothing is cut inside a character on the way: the word that
takes in all path characters in front of the cursor.  There is one position only at which it
starts. -/
theorem maximal_word (line : String) (cursor : line.Pos) :
    ∃ start : line.Pos,
      wordAt? line cursor.offset.byteIdx =
          some ⟨start.offset.byteIdx, line.extract start cursor⟩ ∧
        StartsWord start cursor ∧ ∀ other : line.Pos, StartsWord other cursor → other = start := by
  obtain ⟨before, behind, hcursor⟩ : ∃ before behind, cursor.Splits before behind :=
    ⟨_, _, cursor.splits⟩
  -- The line in three parts, with the word between what stands in front of it and the cursor.
  have hend : cursor.Splits (frontBefore before ++ (wordBefore before).word) behind := by
    rwa [frontBefore_append]
  obtain ⟨start, hstart⟩ : ∃ start : line.Pos,
      start.Splits (frontBefore before) ((wordBefore before).word ++ behind) :=
    ⟨_, hend.splits_rotateLeft⟩
  have hword : StartsWord start cursor := by
    rw [startsWord_iff hstart hend, frontBefore, wordBefore, String.toList_ofList,
      String.toList_ofList]
    exact cutAtWord_splitWord before.toList
  refine ⟨start, ?_, hword, fun other hother => ?_⟩
  · rw [wordAt?_of_splits hcursor, extract_of_splits hstart hend, hstart.offset_eq_rawEndPos,
      String.byteIdx_rawEndPos, byteSize_frontBefore]
  · rw [String.Pos.ext_iff, String.Pos.Raw.ext_iff, hother.byteIdx_eq hcursor,
      hword.byteIdx_eq hcursor]

/-- An arrow of three bytes in front of a word that holds a letter of two. -/
example : wordAt? "a→café.x + 1" 11 = some ⟨4, "café.x"⟩ := by decide +kernel

end NameCompletion.Editor
