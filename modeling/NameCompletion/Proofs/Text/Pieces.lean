/-!
# Texts in pieces

A text can be cut at every occurrence of a character, and pieces that do not hold the character are
told apart again after they were joined by it (`pieces_intercalate`).
-/

namespace NameCompletion.Text

theorem map_toList_ofList (pieces : List (List Char)) :
    (pieces.map String.ofList).map String.toList = pieces := by
  have hid : String.toList ∘ String.ofList = id := funext fun _ => String.toList_ofList
  rw [List.map_map, hid, List.map_id]

theorem map_ofList_toList (texts : List String) :
    (texts.map String.toList).map String.ofList = texts := by
  have hid : String.ofList ∘ String.toList = id := funext fun _ => String.ofList_toList
  rw [List.map_map, hid, List.map_id]

/-- What stands between the occurrences of a character in a text. -/
def pieces (separator : Char) (text : String) : List String :=
  (text.toList.splitOn separator).map String.ofList

/-- Pieces that do not hold the separator are found again. -/
theorem pieces_intercalate {separator : Char} {texts : List String} (hne : texts ≠ [])
    (hfree : ∀ t ∈ texts, separator ∉ t.toList) :
    pieces separator (String.intercalate (String.ofList [separator]) texts) = texts := by
  have hcut : ([separator].intercalate (texts.map String.toList)).splitOn separator =
      texts.map String.toList := by
    refine List.splitOn_intercalate separator (fun cs hcs => ?_) (by simpa using hne)
    obtain ⟨t, ht, rfl⟩ := List.mem_map.1 hcs
    exact hfree t ht
  rw [pieces, String.toList_intercalate, String.toList_ofList, hcut, map_ofList_toList]

end NameCompletion.Text
