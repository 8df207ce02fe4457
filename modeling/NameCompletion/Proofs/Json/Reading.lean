import Mathlib.Data.List.TakeDrop
import Mathlib.Data.List.TakeWhile
import NameCompletion.Json.Reading
import NameCompletion.Proofs.Text.Blank

/-!
# Where a JSON value ends

A value is read from the characters that it is written with and from no others, so it does not
matter what follows it, as long as a numeral does not go on there (`Ends`).

* `exists_of_readText`, `exists_of_readNumeral`, `exists_of_readSequence`: the parts of a value,
  with the characters that are used up.
* `isLocal_readValue`: a value, by induction on how deep it may be nested.
* `exists_of_parse?`: the blanks around a value can be trimmed.
-/

namespace NameCompletion.Json

/-- No numeral goes on with these characters. -/
def Ends (cs : List Char) : Prop :=
  ∀ c ∈ cs.head?, c.isDigit = false ∧ c ≠ '.' ∧ c ≠ 'e' ∧ c ≠ 'E'

/-- The characters are read as `x`, and no more than these characters, whatever follows them. -/
structure ReadAs {α : Type} (f : List Char → Option (α × List Char)) (front : List Char) (x : α) :
    Prop where
  bare : Text.Bare front
  reads : ∀ rest, Ends rest → f (front ++ rest) = some (x, rest)

/-- What is read depends on nothing but the characters that are used up. -/
def IsLocal {α : Type} (f : List Char → Option (α × List Char)) : Prop :=
  ∀ cs x rest, f cs = some (x, rest) → ∃ front, cs = front ++ rest ∧ ReadAs f front x

/-! ## Texts -/

/-- The characters stand for one character of a text. -/
structure IsUnit (written : List Char) (c : Char) : Prop where
  ne_nil : written ≠ []
  reads : ∀ tail, readText (written ++ tail) = (readText tail).map fun r => (c :: r.1, r.2)

theorem isUnit_plain {c : Char} (hquote : c ≠ '"')
    (hraw : ¬ (c = '\\' || c.toNat < 0x20) = true) : IsUnit [c] c where
  ne_nil := List.cons_ne_nil _ _
  reads tail := by
    have hslash : c ≠ '\\' := by
      rintro rfl
      exact hraw rfl
    show readText (c :: tail) = _
    rw [readText, if_neg hraw]
    · exact hquote
    · exact fun _ _ _ _ _ heq => absurd heq hslash
    · exact fun _ _ heq => absurd heq hslash

theorem isUnit_escape {c meant : Char} (h : unescape? c = some meant) : IsUnit ['\\', c] meant where
  ne_nil := List.cons_ne_nil _ _
  reads tail := by
    have hu : c ≠ 'u' := by
      rintro rfl
      cases h
    show readText ('\\' :: c :: tail) = _
    rw [readText, h]
    exact fun _ _ _ _ _ heq => absurd heq hu

theorem isUnit_code {a b c d : Char} {code : Nat} (h : hexQuad? a b c d = some code)
    (hplain : (code < 0xd800 || 0xdfff < code) = true) :
    IsUnit ['\\', 'u', a, b, c, d] (Char.ofNat code) where
  ne_nil := List.cons_ne_nil _ _
  reads tail := by
    show readText ('\\' :: 'u' :: a :: b :: c :: d :: tail) = _
    rw [readText, h]
    simp only [if_pos hplain]

theorem isUnit_surrogates {a b c d e f g i : Char} {high low : Nat}
    (hhigh : hexQuad? a b c d = some high) (hlow : hexQuad? e f g i = some low)
    (hsurrogate : ¬ (high < 0xd800 || 0xdfff < high) = true) (hfirst : ¬ 0xdc00 ≤ high)
    (hsecond : ¬ (low < 0xdc00 || 0xdfff < low) = true) :
    IsUnit ['\\', 'u', a, b, c, d, '\\', 'u', e, f, g, i] (joinSurrogates high low) where
  ne_nil := List.cons_ne_nil _ _
  reads tail := by
    show readText ('\\' :: 'u' :: a :: b :: c :: d :: '\\' :: 'u' :: e :: f :: g :: i :: tail) = _
    rw [readText, hhigh]
    simp only [if_neg hsurrogate, if_neg hfirst, hlow, if_neg hsecond]

/-- A text is at its end, or it goes on with the characters for one character of it. -/
theorem readText_cases {cs x rest : List Char} (h : readText cs = some (x, rest)) :
    (cs = '"' :: rest ∧ x = []) ∨
      ∃ written c cs' x', IsUnit written c ∧ cs = written ++ cs' ∧ x = c :: x' ∧
        readText cs' = some (x', rest) := by
  have hunit : ∀ {written : List Char} {c : Char} {tail : List Char}, IsUnit written c →
      (readText tail).map (fun r => (c :: r.1, r.2)) = some (x, rest) →
        ∃ written' c' cs' x', IsUnit written' c' ∧ written ++ tail = written' ++ cs' ∧
          x = c' :: x' ∧ readText cs' = some (x', rest) := by
    intro written c tail hwritten hmap
    obtain ⟨⟨x', rest'⟩, hread, heq⟩ := Option.map_eq_some_iff.1 hmap
    obtain ⟨rfl, rfl⟩ := Prod.mk.inj heq
    exact ⟨written, c, tail, x', hwritten, rfl, rfl, hread⟩
  rw [readText.eq_def] at h
  split at h
  · cases h
  · cases h
    exact .inl ⟨rfl, rfl⟩
  · right
    split at h
    · cases h
    · next code hcode =>
      split at h
      · next hplain => exact hunit (isUnit_code hcode hplain) h
      · next hsurrogate =>
        split at h
        · cases h
        · next hfirst =>
          split at h
          · split at h
            · cases h
            · next low hlow =>
              split at h
              · cases h
              · next hsecond =>
                exact hunit (isUnit_surrogates hcode hlow hsurrogate hfirst hsecond) h
          · cases h
  · right
    split at h
    · cases h
    · next hmeant => exact hunit (isUnit_escape hmeant) h
  · next hquote _ _ =>
    right
    split at h
    · cases h
    · next hraw => exact hunit (isUnit_plain hquote hraw) h

/-- A text ends with a quotation mark, and it does not matter what follows that. -/
theorem exists_of_readText {cs x rest : List Char} (h : readText cs = some (x, rest)) :
    ∃ front, cs = front ++ '"' :: rest ∧
      ∀ tail, readText (front ++ '"' :: tail) = some (x, tail) := by
  rcases readText_cases h with ⟨rfl, rfl⟩ | ⟨written, c, cs', x', hunit, hcs, rfl, hread⟩
  · exact ⟨[], rfl, fun tail => by rw [List.nil_append, readText]⟩
  · have hlt : cs'.length < cs.length := by
      have := List.length_pos_iff.2 hunit.ne_nil
      rw [hcs, List.length_append]
      omega
    obtain ⟨front, hfront, htail⟩ := exists_of_readText hread
    refine ⟨written ++ front, by rw [hcs, hfront, List.append_assoc], fun tail => ?_⟩
    rw [List.append_assoc, hunit.reads, htail]
    rfl
termination_by cs.length

/-! ## Numerals -/

/-- No digit goes on with these characters. -/
def NoDigit (cs : List Char) : Prop :=
  ∀ c ∈ cs.head?, c.isDigit = false

/-- There is at least one character, and all of them are digits. -/
def AreDigits (cs : List Char) : Prop :=
  cs ≠ [] ∧ ∀ c ∈ cs, c.isDigit = true

theorem readDigits_append {digits rest : List Char} (hdigits : AreDigits digits)
    (hrest : NoDigit rest) : readDigits (digits ++ rest) = some (digits, rest) := by
  have hspan : (digits ++ rest).span Char.isDigit = (digits, rest) := by
    rw [List.span_eq_takeWhile_dropWhile, List.takeWhile_append_of_pos hdigits.2,
      List.dropWhile_append_of_pos hdigits.2]
    cases rest with
    | nil => simp
    | cons c rest => simp [hrest c rfl]
  rw [readDigits, hspan]
  exact if_neg fun hempty => hdigits.1 (List.isEmpty_iff.1 hempty)

theorem exists_of_readDigits {cs digits rest : List Char}
    (h : readDigits cs = some (digits, rest)) : cs = digits ++ rest ∧ AreDigits digits := by
  rw [readDigits, List.span_eq_takeWhile_dropWhile] at h
  dsimp only at h
  split at h
  · cases h
  · next hne =>
    obtain ⟨rfl, rfl⟩ := Prod.mk.inj (Option.some.inj h)
    refine ⟨List.takeWhile_append_dropWhile.symm, fun hnil => hne (List.isEmpty_iff.2 hnil), ?_⟩
    exact fun c hc => List.mem_takeWhile_imp hc

/-- The characters end with a digit. -/
def EndsInDigit (cs : List Char) : Prop :=
  ∃ c, cs.getLast? = some c ∧ c.isDigit = true

theorem AreDigits.endsInDigit {digits : List Char} (h : AreDigits digits) : EndsInDigit digits :=
  ⟨digits.getLast h.1, List.getLast?_eq_some_getLast h.1, h.2 _ (List.getLast_mem h.1)⟩

theorem EndsInDigit.append {cs : List Char} (h : EndsInDigit cs) (front : List Char) :
    EndsInDigit (front ++ cs) := by
  obtain ⟨c, hc, hdigit⟩ := h
  exact ⟨c, by rw [List.getLast?_append, hc, Option.some_or], hdigit⟩

theorem EndsInDigit.append_optional {front cs : List Char} (h : EndsInDigit front)
    (hcs : cs = [] ∨ EndsInDigit cs) : EndsInDigit (front ++ cs) := by
  rcases hcs with rfl | hcs
  · rwa [List.append_nil]
  · exact hcs.append front

/-- A sign is read if digits follow it. -/
theorem exists_of_readSign (cs : List Char) :
    ∃ sign, cs = sign ++ (readSign cs).2 ∧ ∀ digits tail, AreDigits digits →
      readSign (sign ++ (digits ++ tail)) = ((readSign cs).1, digits ++ tail) := by
  rw [readSign.eq_def]
  split
  · exact ⟨['+'], rfl, fun _ _ _ => rfl⟩
  · exact ⟨['-'], rfl, fun _ _ _ => rfl⟩
  · refine ⟨[], rfl, fun digits tail hdigits => ?_⟩
    cases digits with
    | nil => exact absurd rfl hdigits.1
    | cons c digits =>
      have hc := hdigits.2 c List.mem_cons_self
      rw [List.nil_append, List.cons_append, readSign]
      · rintro rest heq
        obtain rfl := (List.cons.inj heq).1
        cases hc
      · rintro rest heq
        obtain rfl := (List.cons.inj heq).1
        cases hc

theorem exists_of_readPower {cs rest : List Char} {power : Int}
    (h : readPower cs = some (power, rest)) :
    ∃ front, cs = front ++ rest ∧ EndsInDigit front ∧
      ∀ tail, NoDigit tail → readPower (front ++ tail) = some (power, tail) := by
  rw [readPower] at h
  obtain ⟨sign, hsign, hreads⟩ := exists_of_readSign cs
  obtain ⟨⟨digits, rest'⟩, hdigits, heq⟩ := Option.map_eq_some_iff.1 h
  obtain ⟨rfl, rfl⟩ := Prod.mk.inj heq
  obtain ⟨hcs, hare⟩ := exists_of_readDigits hdigits
  refine ⟨sign ++ digits, ?_, hare.endsInDigit.append sign, fun tail htail => ?_⟩
  · rw [List.append_assoc, ← hcs]
    exact hsign
  · rw [readPower, List.append_assoc, hreads digits tail hare]
    dsimp only
    rw [readDigits_append hare htail]
    rfl

/-- The characters are those of an exponent, or there are none. -/
structure IsExponent (front : List Char) (power : Option Int) : Prop where
  last : front = [] ∨ EndsInDigit front
  reads : ∀ tail, Ends tail → readExponent (front ++ tail) = some (power, tail)
  next : ∀ tail, Ends tail → ∀ c ∈ (front ++ tail).head?, c.isDigit = false ∧ c ≠ '.'

theorem isExponent_nil : IsExponent [] none where
  last := .inl rfl
  reads tail hends := by
    rw [List.nil_append, readExponent]
    · rintro rest rfl
      exact (hends 'e' rfl).2.2.1 rfl
    · rintro rest rfl
      exact (hends 'E' rfl).2.2.2 rfl
  next tail hends c hc := ⟨(hends c hc).1, (hends c hc).2.1⟩

theorem exists_of_mark {mark : Char} (hmark : mark = 'e' ∨ mark = 'E') {cs rest : List Char}
    {power : Option Int} (h : readExponent (mark :: cs) = some (power, rest)) :
    ∃ front, mark :: cs = front ++ rest ∧ IsExponent front power := by
  have hreads : ∀ cs, readExponent (mark :: cs) =
      (readPower cs).map fun r => (some r.1, r.2) := by
    intro cs
    rcases hmark with rfl | rfl <;> rw [readExponent]
  rw [hreads] at h
  obtain ⟨⟨power, rest'⟩, hpower, heq⟩ := Option.map_eq_some_iff.1 h
  obtain ⟨rfl, rfl⟩ := Prod.mk.inj heq
  obtain ⟨front, rfl, hlast, htail⟩ := exists_of_readPower hpower
  refine ⟨mark :: front, rfl, .inr (hlast.append [mark]), fun tail hends => ?_,
    fun tail hends c hc => ?_⟩
  · rw [List.cons_append, hreads, htail tail fun c hc => (hends c hc).1]
    rfl
  · obtain rfl := Option.some.inj hc
    rcases hmark with rfl | rfl <;> decide

theorem exists_of_readExponent {cs rest : List Char} {power : Option Int}
    (h : readExponent cs = some (power, rest)) :
    ∃ front, cs = front ++ rest ∧ IsExponent front power := by
  have hsplit := h
  rw [readExponent.eq_def] at hsplit
  split at hsplit
  · exact exists_of_mark (.inl rfl) h
  · exact exists_of_mark (.inr rfl) h
  · cases hsplit
    exact ⟨[], rfl, isExponent_nil⟩

/-- The characters are those of a fraction, or there are none. -/
structure IsFraction (front : List Char) (fraction : Option (List Char)) : Prop where
  last : front = [] ∨ EndsInDigit front
  reads : ∀ tail, (∀ c ∈ tail.head?, c.isDigit = false ∧ c ≠ '.') →
    readFraction (front ++ tail) = some (fraction, tail)
  next : ∀ tail, (∀ c ∈ tail.head?, c.isDigit = false ∧ c ≠ '.') → NoDigit (front ++ tail)

theorem exists_of_readFraction {cs rest : List Char} {fraction : Option (List Char)}
    (h : readFraction cs = some (fraction, rest)) :
    ∃ front, cs = front ++ rest ∧ IsFraction front fraction := by
  rw [readFraction.eq_def] at h
  split at h
  · obtain ⟨⟨digits, rest'⟩, hdigits, heq⟩ := Option.map_eq_some_iff.1 h
    obtain ⟨rfl, rfl⟩ := Prod.mk.inj heq
    obtain ⟨rfl, hare⟩ := exists_of_readDigits hdigits
    refine ⟨'.' :: digits, rfl, .inr (hare.endsInDigit.append ['.']), fun tail htail => ?_,
      fun tail _ c hc => ?_⟩
    · rw [List.cons_append, readFraction, readDigits_append hare fun c hc => (htail c hc).1]
      rfl
    · obtain rfl := Option.some.inj hc
      rfl
  · cases h
    refine ⟨[], rfl, .inl rfl, fun tail htail => ?_, fun tail htail c hc => (htail c hc).1⟩
    rw [List.nil_append, readFraction]
    rintro rest rfl
    exact (htail '.' rfl).2 rfl

/-- A numeral without its sign starts and ends with a digit. -/
theorem exists_of_readNumeral {cs rest : List Char} {numeral : Numeral}
    (h : readNumeral cs = some (numeral, rest)) :
    ∃ front, cs = front ++ rest ∧ (∃ c, front.head? = some c ∧ c.isDigit = true) ∧
      EndsInDigit front ∧
      ∀ tail, Ends tail → readNumeral (front ++ tail) = some (numeral, tail) := by
  unfold readNumeral at h
  obtain ⟨⟨digits, rest₁⟩, hdigits, hrest⟩ := Option.bind_eq_some_iff.1 h
  obtain ⟨rfl, hare⟩ := exists_of_readDigits hdigits
  dsimp only at hrest
  split at hrest
  · cases hrest
  · next hzero =>
    obtain ⟨⟨fraction, rest₂⟩, hfraction, hrest⟩ := Option.bind_eq_some_iff.1 hrest
    obtain ⟨⟨power, rest₃⟩, hpower, hrest⟩ := Option.bind_eq_some_iff.1 hrest
    obtain ⟨rfl, rfl⟩ := Prod.mk.inj (Option.some.inj hrest)
    obtain ⟨point, rfl, hpoint⟩ := exists_of_readFraction hfraction
    obtain ⟨mark, rfl, hmark⟩ := exists_of_readExponent hpower
    refine ⟨digits ++ point ++ mark, ?_, ?_, ?_, fun tail hends => ?_⟩
    · simp only [List.append_assoc]
    · obtain ⟨c, rest, rfl⟩ := List.exists_cons_of_ne_nil hare.1
      exact ⟨c, rfl, hare.2 c List.mem_cons_self⟩
    · exact (hare.endsInDigit.append_optional hpoint.last).append_optional hmark.last
    · have hnext := hmark.next tail hends
      rw [List.append_assoc, List.append_assoc, readNumeral,
        readDigits_append hare (hpoint.next _ hnext)]
      simp only [Option.bind_eq_bind, Option.bind_some, if_neg hzero]
      rw [hpoint.reads _ hnext]
      simp only [Option.bind_some, hmark.reads tail hends]

theorem isBlank_eq_false_of_isDigit {c : Char} (h : c.isDigit = true) :
    Text.isBlank c = false := by
  rw [Bool.eq_false_iff]
  intro hblank
  obtain ⟨r, hr, hle, hge⟩ := Text.Ranges.exists_mem_of_covers hblank
  have hall : ∀ r ∈ Text.blank.pairs, r.2 < '0'.toNat ∨ '9'.toNat < r.1 := by decide
  rw [Char.isDigit, Bool.and_eq_true, decide_eq_true_iff, decide_eq_true_iff] at h
  have hlow : '0'.toNat ≤ c.toNat := h.1
  have hhigh : c.toNat ≤ '9'.toNat := h.2
  rcases hall r hr with hlt | hlt <;> omega

theorem isLocal_readNumber : IsLocal readNumber := by
  intro cs x rest h
  have hunsigned : ∀ {negative : Bool} {cs : List Char},
      readUnsigned negative cs = some (x, rest) → ∃ front, cs = front ++ rest ∧
        (∃ c, front.head? = some c ∧ c.isDigit = true) ∧ EndsInDigit front ∧
        ∀ tail, Ends tail → readUnsigned negative (front ++ tail) = some (x, tail) := by
    intro negative cs h
    obtain ⟨⟨numeral, rest'⟩, hnumeral, hrest⟩ := Option.bind_eq_some_iff.1 h
    obtain ⟨number, hnumber, hrest⟩ := Option.bind_eq_some_iff.1 hrest
    obtain ⟨rfl, rfl⟩ := Prod.mk.inj (Option.some.inj hrest)
    obtain ⟨front, rfl, hfirst, hlast, hreads⟩ := exists_of_readNumeral hnumeral
    refine ⟨front, rfl, hfirst, hlast, fun tail hends => ?_⟩
    rw [readUnsigned, hreads tail hends]
    dsimp only [Option.bind_eq_bind, Option.bind_some]
    rw [hnumber, Option.bind_some]
  rw [readNumber.eq_def] at h
  split at h
  · obtain ⟨front, rfl, _, ⟨c, hc, hdigit⟩, hreads⟩ := hunsigned h
    refine ⟨'-' :: front, rfl, ⟨⟨'-', rfl, by decide⟩, ?_⟩, fun tail hends => ?_⟩
    · refine ⟨c, ?_, isBlank_eq_false_of_isDigit hdigit⟩
      show (['-'] ++ front).getLast? = some c
      rw [List.getLast?_append, hc, Option.some_or]
    · rw [List.cons_append, readNumber, hreads tail hends]
  · obtain ⟨front, rfl, ⟨c, hc, hdigit⟩, ⟨d, hd, hdigit'⟩, hreads⟩ := hunsigned h
    refine ⟨front, rfl, ⟨⟨c, hc, isBlank_eq_false_of_isDigit hdigit⟩,
      ⟨d, hd, isBlank_eq_false_of_isDigit hdigit'⟩⟩, fun tail hends => ?_⟩
    rw [readNumber, hreads tail hends]
    intro rest heq
    cases front with
    | nil => cases hc
    | cons c' front =>
      obtain rfl := Option.some.inj hc
      obtain rfl := (List.cons.inj heq).1
      cases hdigit

/-! ## Items between commas -/

theorem isBlank_of_isSpace {c : Char} (h : isSpace c = true) : Text.isBlank c = true := by
  simp only [isSpace, Bool.or_eq_true, decide_eq_true_iff] at h
  rcases h with ((rfl | rfl) | rfl) | rfl <;> decide

/-- White space is skipped up to the first character that is none. -/
theorem skipSpace_append {spaces : List Char} {c : Char}
    (hspaces : ∀ c ∈ spaces, isSpace c = true) (hc : isSpace c = false) (rest : List Char) :
    skipSpace (spaces ++ c :: rest) = c :: rest := by
  rw [skipSpace, List.dropWhile_append_of_pos hspaces,
    List.dropWhile_cons_of_neg (by rw [hc]; exact Bool.false_ne_true)]

theorem exists_of_skipSpace {cs rest : List Char} {c : Char} (h : skipSpace cs = c :: rest) :
    ∃ spaces, cs = spaces ++ c :: rest ∧ (∀ c ∈ spaces, isSpace c = true) ∧ isSpace c = false := by
  refine ⟨cs.takeWhile isSpace, ?_, fun c hc => List.mem_takeWhile_imp hc, ?_⟩
  · rw [← h]
    exact List.takeWhile_append_dropWhile.symm
  · have hhead := List.head?_dropWhile_not isSpace cs
    rw [show cs.dropWhile isSpace = c :: rest from h] at hhead
    simpa using hhead

theorem isSpace_of_skipSpace_eq_nil {cs : List Char} (h : skipSpace cs = []) :
    ∀ c ∈ cs, isSpace c = true :=
  List.dropWhile_eq_nil_iff.1 h

/-- No numeral goes on with white space or with what follows it, if that is no part of one. -/
theorem ends_of_spaces {spaces rest : List Char} (hspaces : ∀ c ∈ spaces, isSpace c = true)
    (hrest : Ends rest) : Ends (spaces ++ rest) := by
  cases spaces with
  | nil => exact hrest
  | cons c spaces =>
    intro d hd
    obtain rfl := Option.some.inj hd
    have hspace := hspaces c List.mem_cons_self
    simp only [isSpace, Bool.or_eq_true, decide_eq_true_iff] at hspace
    rcases hspace with ((rfl | rfl) | rfl) | rfl <;> decide

/-- The character closes an array or an object. -/
def IsClosing (c : Char) : Prop :=
  c = ']' ∨ c = '\x7d'

theorem IsClosing.ends {close : Char} (h : IsClosing close) (rest : List Char) :
    Ends (close :: rest) := by
  intro c hc
  obtain rfl := Option.some.inj hc
  rcases h with rfl | rfl <;> decide

theorem ends_comma (rest : List Char) : Ends (',' :: rest) := by
  intro c hc
  obtain rfl := Option.some.inj hc
  decide

theorem IsClosing.isBlank_eq_false {close : Char} (h : IsClosing close) :
    Text.isBlank close = false := by
  rcases h with rfl | rfl <;> decide

section

variable {α : Type} {item : List Char → Option (α × List Char)} {close : Char}

/-- One item with the white space in front of it. -/
theorem exists_of_skipped (hitem : IsLocal item) {cs rest : List Char} {x : α}
    (hread : item (skipSpace cs) = some (x, rest)) :
    ∃ spaces written, cs = spaces ++ written ++ rest ∧ Text.Bare written ∧
      ∀ tail, Ends tail → item (skipSpace (spaces ++ written ++ tail)) = some (x, tail) := by
  obtain ⟨written, hwritten, hitem⟩ := hitem _ _ _ hread
  cases written with
  | nil =>
    obtain ⟨c, hc, _⟩ := hitem.bare.first
    cases hc
  | cons first written =>
    obtain ⟨spaces, rfl, hspaces, hfirst⟩ := exists_of_skipSpace hwritten
    refine ⟨spaces, first :: written, by simp, hitem.bare, fun tail hends => ?_⟩
    rw [List.append_assoc, List.cons_append, skipSpace_append hspaces hfirst]
    exact hitem.reads tail hends

/-- One item with the white space around it, up to the character behind it. -/
theorem exists_of_item (hitem : IsLocal item) {cs rest rest' : List Char} {x : α} {c : Char}
    (hread : item (skipSpace cs) = some (x, rest)) (hnext : skipSpace rest = c :: rest') :
    ∃ front, front ≠ [] ∧ cs = front ++ c :: rest' ∧ ∀ tail, Ends (c :: tail) →
      ∃ after, item (skipSpace (front ++ c :: tail)) = some (x, after) ∧
        skipSpace after = c :: tail := by
  obtain ⟨spaces, written, rfl, hbare, hreads⟩ := exists_of_skipped hitem hread
  obtain ⟨spaces', rfl, hspaces', hc⟩ := exists_of_skipSpace hnext
  refine ⟨spaces ++ written ++ spaces', by simp [hbare.ne_nil], by simp, fun tail hends => ?_⟩
  refine ⟨spaces' ++ c :: tail, ?_, skipSpace_append hspaces' hc tail⟩
  rw [List.append_assoc]
  exact hreads _ (ends_of_spaces hspaces' hends)

/-- Behind an item there are more of them or the closing character. -/
theorem readItems_succ {fuel : Nat} {cs after rest : List Char} {x : α} {c : Char}
    (hread : item (skipSpace cs) = some (x, after)) (hnext : skipSpace after = c :: rest) :
    readItems item close (fuel + 1) cs =
      if c = ',' then (readItems item close fuel rest).map fun r => (x :: r.1, r.2)
      else if c = close then some ([x], rest) else none := by
  rw [readItems, hread]
  simp only [Option.bind_eq_bind, Option.bind_some, hnext]
  split
  · cases readItems item close fuel rest <;> rfl
  · rfl

/-- Items are read up to the closing character, with fuel for each of them, and it does not matter
what follows that. -/
theorem exists_of_readItems (hitem : IsLocal item) (hclose : IsClosing close) {fuel : Nat}
    {cs rest : List Char} {xs : List α} (h : readItems item close fuel cs = some (xs, rest)) :
    ∃ front, cs = front ++ close :: rest ∧ xs.length ≤ front.length ∧
      ∀ tail fuel', xs.length ≤ fuel' →
        readItems item close fuel' (front ++ close :: tail) = some (xs, tail) := by
  induction fuel generalizing cs xs with
  | zero => cases h
  | succ fuel ih =>
    rw [readItems] at h
    obtain ⟨⟨x, rest₁⟩, hread, hafter⟩ := Option.bind_eq_some_iff.1 h
    dsimp only at hafter
    split at hafter
    · cases hafter
    · next c rest₂ hnext =>
      obtain ⟨front, hne, rfl, hfront⟩ := exists_of_item hitem hread hnext
      have hpos := List.length_pos_iff.2 hne
      split at hafter
      · next hcomma =>
        subst hcomma
        obtain ⟨⟨xs', rest₃⟩, hmore, hxs⟩ := Option.bind_eq_some_iff.1 hafter
        obtain ⟨rfl, rfl⟩ := Prod.mk.inj (Option.some.inj hxs)
        obtain ⟨front', rfl, hlength, hreads⟩ := ih hmore
        refine ⟨front ++ ',' :: front', by simp, by simp; omega, fun tail fuel' hfuel => ?_⟩
        cases fuel' with
        | zero => cases hfuel
        | succ fuel' =>
          obtain ⟨after, hitem', hafter'⟩ := hfront (front' ++ close :: tail) (ends_comma _)
          rw [List.append_assoc, List.cons_append, readItems_succ hitem' hafter', if_pos rfl,
            hreads tail fuel' (Nat.le_of_succ_le_succ hfuel), Option.map_some]
      · next hcomma =>
        split at hafter
        · next hend =>
          subst hend
          obtain ⟨rfl, rfl⟩ := Prod.mk.inj (Option.some.inj hafter)
          refine ⟨front, rfl, hpos, fun tail fuel' hfuel => ?_⟩
          cases fuel' with
          | zero => cases hfuel
          | succ fuel' =>
            obtain ⟨after, hitem', hafter'⟩ := hfront tail (hclose.ends tail)
            rw [readItems_succ hitem' hafter', if_neg hcomma, if_pos rfl]
        · cases hafter

theorem exists_of_readSequence (hitem : IsLocal item) (hclose : IsClosing close)
    {cs rest : List Char} {xs : List α} (h : readSequence item close cs = some (xs, rest)) :
    ∃ front, cs = front ++ close :: rest ∧
      ∀ tail, readSequence item close (front ++ close :: tail) = some (xs, tail) := by
  unfold readSequence at h
  split at h
  · cases h
  · next c rest₁ hfirst =>
    obtain ⟨spaces, rfl, hspaces, hc⟩ := exists_of_skipSpace hfirst
    split at h
    · next hend =>
      subst hend
      obtain ⟨rfl, rfl⟩ := Prod.mk.inj (Option.some.inj h)
      refine ⟨spaces, rfl, fun tail => ?_⟩
      rw [readSequence, skipSpace_append hspaces hc]
      exact if_pos rfl
    · next hitems =>
      obtain ⟨front, hfront, hlength, hreads⟩ := exists_of_readItems hitem hclose h
      obtain ⟨front', rfl⟩ : ∃ front', front = c :: front' := by
        cases front with
        | nil => exact absurd (List.cons.inj hfront).1 hitems
        | cons d front' => exact ⟨front', by rw [(List.cons.inj hfront).1]⟩
      refine ⟨spaces ++ c :: front', by rw [hfront, List.append_assoc], fun tail => ?_⟩
      rw [readSequence, List.append_assoc, List.cons_append, skipSpace_append hspaces hc]
      dsimp only
      rw [if_neg hitems]
      refine hreads tail _ (Nat.le_trans hlength ?_)
      simp

end

/-! ## Values -/

theorem bare_null : Text.Bare "null".toList := ⟨⟨'n', rfl, by decide⟩, ⟨'l', rfl, by decide⟩⟩

theorem bare_true : Text.Bare "true".toList := ⟨⟨'t', rfl, by decide⟩, ⟨'e', rfl, by decide⟩⟩

theorem bare_false : Text.Bare "false".toList := ⟨⟨'f', rfl, by decide⟩, ⟨'e', rfl, by decide⟩⟩

/-- A word is read from its own characters. -/
theorem isLocal_readWord {word : String} (hbare : Text.Bare word.toList) (j : Json) :
    IsLocal (readWord word j) := by
  intro cs x rest h
  unfold readWord at h
  split at h
  · next hprefix =>
    obtain ⟨tail, rfl⟩ := List.isPrefixOf_iff_prefix.1 hprefix
    obtain ⟨rfl, hrest⟩ := Prod.mk.inj (Option.some.inj h)
    rw [← String.length_toList, List.drop_left] at hrest
    subst hrest
    refine ⟨word.toList, rfl, hbare, fun rest _ => ?_⟩
    rw [readWord, if_pos (List.isPrefixOf_iff_prefix.2 (List.prefix_append _ _)),
      ← String.length_toList, List.drop_left]
  · cases h

theorem isLocal_readMember {value : List Char → Option (Json × List Char)}
    (hvalue : IsLocal value) : IsLocal (readMember value) := by
  intro cs x rest h
  unfold readMember at h
  split at h
  · next cs' =>
    obtain ⟨⟨name, rest₁⟩, hname, hafter⟩ := Option.bind_eq_some_iff.1 h
    dsimp only at hafter
    split at hafter
    · next rest₂ hcolon =>
      obtain ⟨⟨j, rest₃⟩, hj, hx⟩ := Option.bind_eq_some_iff.1 hafter
      obtain ⟨rfl, rfl⟩ := Prod.mk.inj (Option.some.inj hx)
      obtain ⟨front, rfl, hfront⟩ := exists_of_readText hname
      obtain ⟨spaces, rfl, hspaces, hc⟩ := exists_of_skipSpace hcolon
      obtain ⟨spaces', written, rfl, hbare, hreads⟩ := exists_of_skipped hvalue hj
      refine ⟨['"'] ++ (front ++ '"' :: (spaces ++ ':' :: spaces')) ++ written, by simp,
        (Text.bare_singleton (by decide)).append hbare _, fun tail hends => ?_⟩
      have happend : ['"'] ++ (front ++ '"' :: (spaces ++ ':' :: spaces')) ++ written ++ tail =
          '"' :: (front ++ '"' :: (spaces ++ ':' :: (spaces' ++ written ++ tail))) := by simp
      rw [happend, readMember, hfront]
      simp only [Option.bind_eq_bind, Option.bind_some, skipSpace_append hspaces hc,
        hreads tail hends]
    · cases hafter
  · cases h

section

variable {α β : Type} {f : List Char → Option (α × List Char)}

theorem IsLocal.map (h : IsLocal f) (g : α → β) :
    IsLocal fun cs => (f cs).map fun r => (g r.1, r.2) := by
  intro cs x rest hread
  obtain ⟨⟨y, rest'⟩, hy, heq⟩ := Option.map_eq_some_iff.1 hread
  obtain ⟨rfl, rfl⟩ := Prod.mk.inj heq
  obtain ⟨front, rfl, hfront⟩ := h _ _ _ hy
  refine ⟨front, rfl, hfront.bare, fun tail hends => ?_⟩
  simp only [hfront.reads tail hends, Option.map_some]

/-- What is read after a certain character is local if it is read by local means. -/
theorem exists_of_head {h : List Char → Option (α × List Char)} (hlocal : IsLocal h) {c : Char}
    (hagree : ∀ cs, f (c :: cs) = h (c :: cs)) {cs rest : List Char} {x : α}
    (hread : f (c :: cs) = some (x, rest)) :
    ∃ front, c :: cs = front ++ rest ∧ ReadAs f front x := by
  rw [hagree] at hread
  obtain ⟨front, hfront, hreads⟩ := hlocal _ _ _ hread
  refine ⟨front, hfront, hreads.bare, fun tail hends => ?_⟩
  obtain ⟨d, front, rfl⟩ := List.exists_cons_of_ne_nil hreads.bare.ne_nil
  obtain rfl := (List.cons.inj hfront).1
  rw [List.cons_append, hagree]
  exact hreads.reads tail hends

/-- What is read between an opening and a closing character is local. -/
theorem exists_of_bracketed {item : List Char → Option (β × List Char)} (hitem : IsLocal item)
    {first close : Char} (hfirst : Text.isBlank first = false) (hclose : IsClosing close)
    {wrap : List β → α} (hagree : ∀ cs, f (first :: cs) =
      (readSequence item close cs).map fun r => (wrap r.1, r.2)) {cs rest : List Char} {x : α}
    (hread : f (first :: cs) = some (x, rest)) :
    ∃ front, first :: cs = front ++ rest ∧ ReadAs f front x := by
  rw [hagree] at hread
  obtain ⟨⟨items, rest'⟩, hitems, heq⟩ := Option.map_eq_some_iff.1 hread
  obtain ⟨rfl, rfl⟩ := Prod.mk.inj heq
  obtain ⟨front, rfl, hreads⟩ := exists_of_readSequence hitem hclose hitems
  refine ⟨[first] ++ front ++ [close], by simp,
    (Text.bare_singleton hfirst).append (Text.bare_singleton hclose.isBlank_eq_false) _,
    fun tail _ => ?_⟩
  rw [List.append_assoc, List.append_assoc, List.singleton_append, List.singleton_append, hagree,
    hreads]
  rfl

end

/-- A text between quotation marks is read from its own characters. -/
theorem exists_of_quoted {f : List Char → Option (Json × List Char)} (hagree : ∀ cs,
      f ('"' :: cs) = (readText cs).map fun r => (.text (String.ofList r.1), r.2))
    {cs rest : List Char} {x : Json} (hread : f ('"' :: cs) = some (x, rest)) :
    ∃ front, '"' :: cs = front ++ rest ∧ ReadAs f front x := by
  rw [hagree] at hread
  obtain ⟨⟨t, rest'⟩, ht, heq⟩ := Option.map_eq_some_iff.1 hread
  obtain ⟨rfl, rfl⟩ := Prod.mk.inj heq
  obtain ⟨front, rfl, hreads⟩ := exists_of_readText ht
  have hquote : Text.Bare ['"'] := Text.bare_singleton (by decide)
  refine ⟨['"'] ++ front ++ ['"'], by simp, hquote.append hquote _, fun tail _ => ?_⟩
  rw [List.append_assoc, List.append_assoc, List.singleton_append, List.singleton_append, hagree,
    hreads]
  rfl

/-- A value is read from its own characters, if the values that are nested in it are. -/
theorem isLocal_readValue_of {depth : Nat}
    (hnested : ∀ inner, depth = inner + 1 → IsLocal (readValue inner)) :
    IsLocal (readValue depth) := by
  intro cs x rest h
  have hsplit := h
  rw [readValue.eq_def] at hsplit
  split at hsplit
  · split at hsplit
    · cases hsplit
    · exact exists_of_bracketed (hnested _ rfl) (by decide) (.inl rfl)
        (fun _ => by rw [readValue]) h
  · split at hsplit
    · cases hsplit
    · exact exists_of_bracketed (isLocal_readMember (hnested _ rfl)) (by decide) (.inr rfl)
        (fun _ => by rw [readValue]) h
  · exact exists_of_quoted (fun _ => by rw [readValue]) h
  · exact exists_of_head (isLocal_readWord bare_null .null) (fun _ => by rw [readValue]) h
  · exact exists_of_head (isLocal_readWord bare_true (.boolean true)) (fun _ => by rw [readValue]) h
  · exact exists_of_head (isLocal_readWord bare_false (.boolean false))
      (fun _ => by rw [readValue]) h
  · next hbracket hbrace hquote hn ht hf =>
    have hnumber := isLocal_readNumber.map Json.number
    cases cs with
    | nil => cases hsplit
    | cons c cs =>
      refine exists_of_head hnumber (fun tail => ?_) h
      rw [readValue]
      · exact fun _ heq => hbracket cs (by rw [(List.cons.inj heq).1])
      · exact fun _ heq => hbrace cs (by rw [(List.cons.inj heq).1])
      · exact fun _ heq => hquote cs (by rw [(List.cons.inj heq).1])
      · exact fun _ heq => hn cs (by rw [(List.cons.inj heq).1])
      · exact fun _ heq => ht cs (by rw [(List.cons.inj heq).1])
      · exact fun _ heq => hf cs (by rw [(List.cons.inj heq).1])

/-- A value is read from its own characters. -/
theorem isLocal_readValue (depth : Nat) : IsLocal (readValue depth) := by
  induction depth with
  | zero => exact isLocal_readValue_of nofun
  | succ depth ih =>
    refine isLocal_readValue_of fun inner heq => ?_
    rwa [← Nat.succ.inj heq]

/-! ## Blanks around a value -/

/-- A text with a value has blanks around the characters of that value, and these characters alone
have the same value. -/
theorem exists_of_parse? {text : String} {j : Json} (h : parse? text = some j) :
    ∃ front written rest, text.toList = front ++ written ++ rest ∧
      (∀ c ∈ front, Text.isBlank c = true) ∧ Text.Bare written ∧
      (∀ c ∈ rest, Text.isBlank c = true) ∧ parse? (String.ofList written) = some j := by
  unfold parse? parseWithin? at h
  split at h
  · next j' rest hread =>
    split at h
    · next hrest =>
      obtain rfl := Option.some.inj h
      obtain ⟨written, hwritten, hreads⟩ := isLocal_readValue _ _ _ _ hread
      obtain ⟨first, written, rfl⟩ := List.exists_cons_of_ne_nil hreads.bare.ne_nil
      obtain ⟨front, htext, hspaces, hfirst⟩ := exists_of_skipSpace hwritten
      refine ⟨front, first :: written, rest, by rw [htext]; simp,
        fun c hc => isBlank_of_isSpace (hspaces c hc), hreads.bare, fun c hc => ?_, ?_⟩
      · exact isBlank_of_isSpace (isSpace_of_skipSpace_eq_nil (List.isEmpty_iff.1 hrest) c hc)
      · have hskip : skipSpace (first :: written) = first :: written :=
          skipSpace_append (List.forall_mem_nil _) hfirst written
        have hread' := hreads.reads [] nofun
        rw [List.append_nil] at hread'
        simp only [parse?, parseWithin?, String.toList_ofList, hskip, hread']
        rfl
    · cases h
  · cases h

end NameCompletion.Json
