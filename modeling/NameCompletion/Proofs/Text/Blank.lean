import NameCompletion.Text.Blank

/-!
# Trimming

Trimming takes off the blanks at both ends and nothing else: a text with blanks around characters
that neither start nor end with a blank is trimmed to these characters (`trimChars_append`), and
every text is of that kind (`exists_append_trimChars`, `bare_trimChars`).
-/

namespace NameCompletion.Text

/-- The characters neither start nor end with a blank, and there is at least one of them. -/
structure Bare (cs : List Char) : Prop where
  first : ∃ c, cs.head? = some c ∧ isBlank c = false
  last : ∃ c, cs.getLast? = some c ∧ isBlank c = false

theorem Bare.ne_nil {cs : List Char} (h : Bare cs) : cs ≠ [] := by
  rintro rfl
  obtain ⟨c, hc, _⟩ := h.first
  cases hc

theorem bare_singleton {c : Char} (h : isBlank c = false) : Bare [c] where
  first := ⟨c, rfl, h⟩
  last := ⟨c, rfl, h⟩

theorem Bare.append {front rest : List Char} (hfront : Bare front) (hrest : Bare rest)
    (middle : List Char) : Bare (front ++ middle ++ rest) where
  first := by
    obtain ⟨c, hc, hblank⟩ := hfront.first
    exact ⟨c, by rw [List.append_assoc, List.head?_append, hc, Option.some_or], hblank⟩
  last := by
    obtain ⟨c, hc, hblank⟩ := hrest.last
    exact ⟨c, by rw [List.getLast?_append, hc, Option.some_or], hblank⟩

/-- Blanks in front of a character that is none are dropped. -/
theorem dropWhile_isBlank_append {blanks cs : List Char} (hblanks : ∀ c ∈ blanks, isBlank c = true)
    (hfirst : ∃ c, cs.head? = some c ∧ isBlank c = false) :
    (blanks ++ cs).dropWhile isBlank = cs := by
  rw [List.dropWhile_append_of_pos hblanks]
  obtain ⟨c, hc, hblank⟩ := hfirst
  obtain ⟨rest, rfl⟩ : ∃ rest, cs = c :: rest := by
    cases cs with
    | nil => cases hc
    | cons d rest => exact ⟨rest, by rw [Option.some.inj hc]⟩
  rw [List.dropWhile_cons_of_neg (by rw [hblank]; exact Bool.false_ne_true)]

theorem trimChars_append {front cs rest : List Char} (hfront : ∀ c ∈ front, isBlank c = true)
    (hcs : Bare cs) (hrest : ∀ c ∈ rest, isBlank c = true) :
    trimChars (front ++ cs ++ rest) = cs := by
  have hfirst : ∃ c, (cs ++ rest).head? = some c ∧ isBlank c = false := by
    obtain ⟨c, hc, hblank⟩ := hcs.first
    exact ⟨c, by rw [List.head?_append, hc, Option.some_or], hblank⟩
  have hlast : ∃ c, cs.reverse.head? = some c ∧ isBlank c = false := by
    obtain ⟨c, hc, hblank⟩ := hcs.last
    exact ⟨c, by rw [List.head?_reverse, hc], hblank⟩
  rw [trimChars, List.append_assoc, dropWhile_isBlank_append hfront hfirst, List.reverse_append,
    dropWhile_isBlank_append (fun c hc => hrest c (List.mem_reverse.1 hc)) hlast,
    List.reverse_reverse]

/-- A text is what is left of trimming, with blanks around it. -/
theorem exists_append_trimChars (cs : List Char) :
    ∃ front rest, cs = front ++ trimChars cs ++ rest ∧ (∀ c ∈ front, isBlank c = true) ∧
      ∀ c ∈ rest, isBlank c = true := by
  refine ⟨cs.takeWhile isBlank, ((cs.dropWhile isBlank).reverse.takeWhile isBlank).reverse, ?_,
    fun c hc => List.all_eq_true.1 List.all_takeWhile c hc,
    fun c hc => List.all_eq_true.1 List.all_takeWhile c (List.mem_reverse.1 hc)⟩
  rw [List.append_assoc, trimChars, ← List.reverse_append, List.takeWhile_append_dropWhile,
    List.reverse_reverse, List.takeWhile_append_dropWhile]

/-- What is left of dropping blanks does not start with one. -/
theorem exists_head_dropWhile_isBlank {cs : List Char} (h : cs.dropWhile isBlank ≠ []) :
    ∃ c, (cs.dropWhile isBlank).head? = some c ∧ isBlank c = false :=
  ⟨_, List.head?_eq_some_head h, List.head_dropWhile_not isBlank h⟩

/-- What is left of trimming neither starts nor ends with a blank. -/
theorem bare_trimChars {cs : List Char} (h : trimChars cs ≠ []) : Bare (trimChars cs) where
  first := by
    have hprefix : trimChars cs <+: cs.dropWhile isBlank := by
      have hsuffix := List.dropWhile_suffix isBlank (l := (cs.dropWhile isBlank).reverse)
      rwa [← List.reverse_prefix, List.reverse_reverse] at hsuffix
    obtain ⟨rest, hrest⟩ := hprefix
    have hne : cs.dropWhile isBlank ≠ [] := by
      rw [← hrest]
      exact List.append_ne_nil_of_left_ne_nil h rest
    have hhead := exists_head_dropWhile_isBlank hne
    rwa [← hrest, List.head?_append, List.head?_eq_some_head h, Option.some_or,
      ← List.head?_eq_some_head h] at hhead
  last := by
    rw [trimChars, List.getLast?_reverse]
    exact exists_head_dropWhile_isBlank fun hnil => h (by rw [trimChars, hnil]; rfl)

end NameCompletion.Text
