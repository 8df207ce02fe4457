import NameCompletion.Fragment
import NameCompletion.Proofs.Text.Pieces
import NameCompletion.Proofs.Word

/-!
# How a typed text is read

`segments` cuts a text at its dots, and `joinPath` glues segments together again; the two undo each
other (`joinPath_segments`, `segments_joinPath`).  A text can be cut at any of its dots first
(`segments_append_dot`).  Reading a text is then a matter of its segments:

* `parse_of_segments`: what is read when the segments are a path and something typed.
* `parse_eq_global_iff` and `parse_eq_member_iff`: which texts ask for a global name, and which for
  a member of what a path leads to.
-/

namespace NameCompletion.Fragment

/-- What stands between the dots of a text. -/
def segments (text : String) : List String :=
  (text.toList.splitOn '.').map String.ofList

/-! ## Cutting and joining -/

theorem toList_joinPath (path : List String) :
    (joinPath path).toList = ['.'].intercalate (path.map String.toList) := by
  rw [joinPath, String.toList_intercalate]
  rfl

theorem joinPath_append_singleton {path : List String} (h : path ≠ []) (last : String) :
    joinPath (path ++ [last]) = joinPath path ++ "." ++ last := by
  rw [joinPath, String.intercalate_append_of_ne_nil h (List.cons_ne_nil _ _),
    String.intercalate_singleton]
  rfl

theorem joinPath_cons {path : List String} (name : String) (hne : path ≠ []) :
    joinPath (name :: path) = name ++ "." ++ joinPath path := by
  rw [joinPath, String.intercalate_cons_of_ne_nil hne]
  rfl

/-- What is joined holds no other characters than dots and those of the segments. -/
theorem exists_mem_of_mem_joinPath {path : List String} {x : Char}
    (hx : x ∈ (joinPath path).toList) (hdot : x ≠ '.') : ∃ s ∈ path, x ∈ s.toList := by
  induction path with
  | nil => simp [joinPath] at hx
  | cons name rest ih =>
    by_cases hrest : rest = []
    · subst hrest
      rw [joinPath, String.intercalate_singleton] at hx
      exact ⟨name, List.mem_cons_self, hx⟩
    · rw [joinPath_cons name hrest, String.toList_append, String.toList_append, List.mem_append,
        List.mem_append] at hx
      rcases hx with (hx | hx) | hx
      · exact ⟨name, List.mem_cons_self, hx⟩
      · exact absurd (by simpa using hx) hdot
      · obtain ⟨s, hs, hxs⟩ := ih hx
        exact ⟨s, List.mem_cons_of_mem _ hs, hxs⟩

/-- The segments of a text make the text. -/
theorem joinPath_segments (text : String) : joinPath (segments text) = text := by
  rw [← String.toList_inj, toList_joinPath, segments, Text.map_toList_ofList,
    List.intercalate_splitOn]

/-- Segments without dots are told apart again. -/
theorem segments_joinPath {path : List String} (hne : path ≠ [])
    (hdot : ∀ s ∈ path, '.' ∉ s.toList) : segments (joinPath path) = path :=
  Text.pieces_intercalate hne hdot

theorem segments_of_dot_not_mem {text : String} (h : '.' ∉ text.toList) :
    segments text = [text] := by
  rw [segments, List.splitOn_eq_singleton h, List.map_singleton, String.ofList_toList]

theorem segments_ne_nil (text : String) : segments text ≠ [] := by
  simp [segments, List.splitOn_ne_nil]

/-- A dot separates the segments before it from those behind it. -/
theorem segments_append_dot (front back : String) :
    segments (front ++ "." ++ back) = segments front ++ segments back := by
  have hlist : (front ++ "." ++ back).toList = front.toList ++ '.' :: back.toList := by simp
  rw [segments, hlist, List.splitOn_append_cons_self, List.map_append]
  rfl

/-- Every character but a dot stands in a segment. -/
theorem exists_segment_of_mem {text : String} {x : Char} (hx : x ∈ text.toList) (hdot : x ≠ '.') :
    ∃ s ∈ segments text, x ∈ s.toList :=
  exists_mem_of_mem_joinPath (by rwa [joinPath_segments]) hdot

/-- A text with a dot has a last dot. -/
theorem exists_last_dot {text : String} (h : '.' ∈ text.toList) :
    ∃ front last, '.' ∉ last.toList ∧ text = front ++ "." ++ last := by
  obtain ⟨behind, before, hsplit, hbehind⟩ :=
    List.eq_append_cons_of_mem (List.mem_reverse.2 h)
  refine ⟨String.ofList before.reverse, String.ofList behind.reverse, by simpa using hbehind, ?_⟩
  rw [← String.toList_inj, ← List.reverse_inj, hsplit]
  simp

/-- A text with a dot has a path before its last segment. -/
theorem exists_segments_of_dot_mem {text : String} (h : '.' ∈ text.toList) :
    ∃ path typed, path ≠ [] ∧ segments text = path ++ [typed] := by
  obtain ⟨front, last, hlast, rfl⟩ := exists_last_dot h
  refine ⟨segments front, last, segments_ne_nil front, ?_⟩
  rw [segments_append_dot, segments_of_dot_not_mem hlast]

/-! ## Reading -/

theorem segments_joinPath_concat {path : List String} {last : String}
    (hpath : ∀ s ∈ path, isWord s.toList = true) (hlast : '.' ∉ last.toList) :
    segments (joinPath (path ++ [last])) = path ++ [last] := by
  refine segments_joinPath (by simp) (List.forall_mem_append.2 ⟨fun s hs => ?_, ?_⟩)
  · exact dot_not_mem_of_isWord (hpath s hs)
  · exact List.forall_mem_singleton.2 hlast

/-- A path and what is typed behind it, put together as they are written. -/
theorem segments_member {path : List String} {typed : String} (hne : path ≠ [])
    (hpath : ∀ s ∈ path, isWord s.toList = true) (htyped : typed.toList.all isWordChar = true) :
    segments (joinPath path ++ "." ++ typed) = path ++ [typed] := by
  rw [← joinPath_append_singleton hne]
  exact segments_joinPath_concat hpath (dot_not_mem_of_all_isWordChar htyped)

/-- A text without a dot is the start of a global name. -/
theorem parse_of_dot_not_mem {text : String} (h : '.' ∉ text.toList) :
    parse text = .global text := by
  rw [parse, List.splitOn_eq_singleton h]

/-- What is read when the last dot stands behind a path. -/
theorem parse_of_segments {text typed : String} {path : List String} (hne : path ≠ [])
    (hseg : segments text = path ++ [typed]) :
    parse text =
      if (path.all fun s => isWord s.toList) && typed.toList.all isWordChar then
        .member path typed
      else .invalid := by
  have hcut : text.toList.splitOn '.' = path.map String.toList ++ [typed.toList] := by
    have hlists := congrArg (List.map String.toList) hseg
    rwa [segments, Text.map_toList_ofList, List.map_append, List.map_singleton] at hlists
  unfold parse
  split
  · next hnil => exact absurd hnil (List.splitOn_ne_nil _ _)
  · next hone =>
    rw [hone] at hcut
    have hlen := congrArg List.length hcut
    simp [hne] at hlen
  · next first second rest hcons =>
    rw [hcons] at hcut
    have hfront : (first :: second :: rest).dropLast = path.map String.toList := by
      rw [hcut, List.dropLast_concat]
    have hlast : (second :: rest).getLast (List.cons_ne_nil _ _) = typed.toList := by
      have hend : (first :: second :: rest).getLast? = some typed.toList := by
        rw [hcut, List.getLast?_concat]
      rw [List.getLast?_cons_cons, List.getLast?_eq_some_getLast (List.cons_ne_nil _ _)] at hend
      exact Option.some.inj hend
    simp only [hfront, hlast, Text.map_ofList_toList, List.all_map, String.ofList_toList,
      Function.comp_def]

/-- Texts that ask for a global name have no dot. -/
theorem parse_eq_global_iff {text typed : String} :
    parse text = .global typed ↔ typed = text ∧ '.' ∉ text.toList := by
  constructor
  · intro h
    by_cases hdot : '.' ∈ text.toList
    · obtain ⟨path, last, hne, hseg⟩ := exists_segments_of_dot_mem hdot
      rw [parse_of_segments hne hseg] at h
      split_ifs at h
    · rw [parse_of_dot_not_mem hdot] at h
      exact ⟨(Fragment.global.inj h).symm, hdot⟩
  · rintro ⟨rfl, hdot⟩
    exact parse_of_dot_not_mem hdot

/-- Texts that ask for a member are a path of words, a dot, and word characters. -/
theorem parse_eq_member_iff {text typed : String} {path : List String} :
    parse text = .member path typed ↔
      path ≠ [] ∧ (∀ s ∈ path, isWord s.toList = true) ∧ typed.toList.all isWordChar = true ∧
        text = joinPath path ++ "." ++ typed := by
  constructor
  · intro h
    by_cases hdot : '.' ∈ text.toList
    · obtain ⟨front, last, hne, hseg⟩ := exists_segments_of_dot_mem hdot
      rw [parse_of_segments hne hseg] at h
      split_ifs at h with hwords
      obtain ⟨rfl, rfl⟩ := Fragment.member.inj h
      rw [Bool.and_eq_true, List.all_eq_true] at hwords
      refine ⟨hne, hwords.1, hwords.2, ?_⟩
      rw [← joinPath_append_singleton hne, ← hseg, joinPath_segments]
    · rw [parse_of_dot_not_mem hdot] at h
      cases h
  · rintro ⟨hne, hpath, htyped, rfl⟩
    rw [parse_of_segments hne (segments_member hne hpath htyped), if_pos]
    rw [Bool.and_eq_true, List.all_eq_true]
    exact ⟨hpath, htyped⟩

end NameCompletion.Fragment
