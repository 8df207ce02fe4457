/-!
# Offsets in bytes

Characters are counted by the bytes of their UTF-8 form where a position in a text is an offset.
Not every offset is a position: one inside a character, or past the end, splits nothing.  Main
statements: the offset at the end of a front part splits it off (`splitAtByte?_append`, and
`splitAtByte?_toList_append` for texts), and no other offset does (`eq_append_of_splitAtByte?`).
What follows a front part starts where the front part ends (`withOffsets_append`).
-/

namespace NameCompletion.Text

/-- How many bytes the characters take. -/
def byteLength : List Char → Nat
  | [] => 0
  | c :: rest => c.utf8Size + byteLength rest

/-- Splits characters at a byte offset; `none` if it is no boundary between characters. -/
def splitAtByte? : List Char → Nat → Option (List Char × List Char)
  | cs, 0 => some ([], cs)
  | [], _ + 1 => none
  | c :: rest, offset + 1 =>
    if c.utf8Size ≤ offset + 1 then
      (splitAtByte? rest (offset + 1 - c.utf8Size)).map fun (before, after) => (c :: before, after)
    else none

/-- The characters, each with the byte offset at which it starts; the first one starts at
`offset`. -/
def withOffsets (offset : Nat) : List Char → List (Nat × Char)
  | [] => []
  | c :: rest => (offset, c) :: withOffsets (offset + c.utf8Size) rest

/-- The characters between two byte offsets; `none` if one of them is no boundary. -/
def slice? (cs : List Char) (start stop : Nat) : Option (List Char) := do
  let (before, _) ← splitAtByte? cs stop
  let (_, piece) ← splitAtByte? before start
  return piece

theorem byteLength_append (front rest : List Char) :
    byteLength (front ++ rest) = byteLength front + byteLength rest := by
  induction front with
  | nil => simp [byteLength]
  | cons c front ih => rw [List.cons_append, byteLength, byteLength, ih, Nat.add_assoc]

theorem byteLength_reverse (cs : List Char) : byteLength cs.reverse = byteLength cs := by
  induction cs with
  | nil => rfl
  | cons c rest ih =>
    rw [List.reverse_cons, byteLength_append, ih, byteLength, byteLength, byteLength,
      Nat.add_zero, Nat.add_comm]

/-- Characters take as many bytes as the text that they make. -/
theorem utf8ByteSize_eq (text : String) : text.utf8ByteSize = byteLength text.toList := by
  have hlist : ∀ cs : List Char, (String.ofList cs).utf8ByteSize = byteLength cs := by
    intro cs
    induction cs with
    | nil => rfl
    | cons c rest ih =>
      rw [String.ofList_cons, String.utf8ByteSize_append, String.utf8ByteSize_singleton, ih,
        byteLength]
  rw [← hlist, String.ofList_toList]

theorem withOffsets_append (offset : Nat) (front rest : List Char) :
    withOffsets offset (front ++ rest) =
      withOffsets offset front ++ withOffsets (offset + byteLength front) rest := by
  induction front generalizing offset with
  | nil => rfl
  | cons c front ih =>
    rw [List.cons_append, withOffsets, withOffsets, ih, byteLength, Nat.add_assoc, List.cons_append]

theorem mem_of_mem_withOffsets {offset : Nat} {cs : List Char} {e : Nat × Char}
    (h : e ∈ withOffsets offset cs) : e.2 ∈ cs := by
  induction cs generalizing offset with
  | nil => exact absurd h List.not_mem_nil
  | cons c rest ih =>
    rcases List.mem_cons.1 h with rfl | h
    · exact List.mem_cons_self
    · exact List.mem_cons_of_mem _ (ih h)

theorem splitAtByte?_append (front rest : List Char) :
    splitAtByte? (front ++ rest) (byteLength front) = some (front, rest) := by
  induction front with
  | nil => simp [byteLength, splitAtByte?]
  | cons c front ih =>
    obtain ⟨offset, hoffset⟩ : ∃ offset, byteLength (c :: front) = offset + 1 :=
      ⟨byteLength (c :: front) - 1, by have := c.utf8Size_pos; simp [byteLength]; omega⟩
    have hsum : byteLength (c :: front) = c.utf8Size + byteLength front := rfl
    rw [hoffset, List.cons_append, splitAtByte?, if_pos (by omega),
      show offset + 1 - c.utf8Size = byteLength front by omega, ih]
    rfl

/-- Nothing is split off but a front part, at the offset of its end. -/
theorem eq_append_of_splitAtByte? {cs front rest : List Char} {offset : Nat}
    (h : splitAtByte? cs offset = some (front, rest)) :
    cs = front ++ rest ∧ offset = byteLength front := by
  induction cs, offset using splitAtByte?.induct generalizing front with
  | case1 cs =>
    rw [splitAtByte?] at h
    obtain ⟨rfl, rfl⟩ := Prod.mk.inj (Option.some.inj h)
    exact ⟨rfl, rfl⟩
  | case2 offset => exact absurd h (by simp [splitAtByte?])
  | case3 c cs offset hle ih =>
    rw [splitAtByte?, if_pos hle] at h
    obtain ⟨⟨before, after⟩, hsplit, heq⟩ := Option.map_eq_some_iff.1 h
    obtain ⟨rfl, rfl⟩ := Prod.mk.inj heq
    obtain ⟨rfl, hoffset⟩ := ih hsplit
    exact ⟨rfl, by rw [byteLength]; omega⟩
  | case4 c cs offset hlt =>
    rw [splitAtByte?, if_neg hlt] at h
    exact absurd h nofun

theorem splitAtByte?_toList_append (front rest : String) :
    splitAtByte? (front ++ rest).toList front.utf8ByteSize = some (front.toList, rest.toList) := by
  rw [String.toList_append, utf8ByteSize_eq, splitAtByte?_append]

end NameCompletion.Text
