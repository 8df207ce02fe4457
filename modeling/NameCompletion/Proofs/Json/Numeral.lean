import Mathlib.Tactic.Positivity
import NameCompletion.Json.Reading
import NameCompletion.Proofs.Json.Number

/-!
# The numbers of a JSON text

A numeral is scaled by a power of ten in double arithmetic, so it could become NaN by zero times
infinity or by zero over zero.  It never does, because the powers of ten that are used are neither
zero nor infinite.

* `exists_roundWithAccuracy_eq`, `isProper_unpack_pack`: a number that has all the bits of a double
  and whose exponent is in range is rounded to a double other than zero and infinity.
* `isProper_tenPower`: so it is with the powers of ten up to `10 ^ 308`.
* `not_isNaN_of_number?`: a numeral does not stand for NaN,
* `naNFree_of_parse?`: so there is no NaN in a text.
-/

namespace NameCompletion

section

open Float.Model UnpackedFloat

/-- The number is neither zero nor infinite nor NaN. -/
def isProper : UnpackedFloat → Bool
  | .finite .. => true
  | _ => false

theorem exists_of_isProper {x : UnpackedFloat} (h : isProper x = true) :
    ∃ sign mantissa exponent hmantissa, x = .finite sign mantissa exponent hmantissa := by
  cases x with
  | finite sign mantissa exponent hmantissa => exact ⟨sign, mantissa, exponent, hmantissa, rfl⟩
  | _ => cases h

theorem isNaN_mul {spec : Format} {x y : UnpackedFloat} (hx : x.isNaN = false)
    (hy : isProper y = true) : (UnpackedFloat.mul spec x y).isNaN = false := by
  obtain ⟨sign, mantissa, exponent, hmantissa, rfl⟩ := exists_of_isProper hy
  cases x with
  | notANumber => cases hx
  | finite => exact isNaN_roundWithAccuracy _ _ _ _ _
  | _ => rfl

theorem isNaN_div {spec : Format} {x y : UnpackedFloat} (hx : x.isNaN = false)
    (hy : isProper y = true) : (UnpackedFloat.div spec x y).isNaN = false := by
  obtain ⟨sign, mantissa, exponent, hmantissa, rfl⟩ := exists_of_isProper hy
  cases x with
  | notANumber => cases hx
  | finite => exact isNaN_roundWithAccuracy _ _ _ _ _
  | _ => rfl

/-! ## Rounding -/

theorem mantissa_shiftRight (em : ExtendedMantissa) (n : Nat) :
    (em >>> n).mantissa = em.mantissa / 2 ^ n := by
  induction n with
  | zero => exact (Nat.div_one _).symm
  | succ n ih =>
    show (em >>> n).mantissa / 2 = _
    rw [ih, Nat.div_div_eq_div_mul, Nat.pow_succ]

theorem roundedMantissa_bounds (em : ExtendedMantissa) :
    em.mantissa ≤ em.roundedMantissa ∧ em.roundedMantissa ≤ em.mantissa + 1 := by
  obtain ⟨mantissa, roundBit, stickyBit⟩ := em
  have hparity : mantissa % 2 < 2 := Nat.mod_lt _ (by decide)
  cases roundBit <;> cases stickyBit <;>
    simp only [ExtendedMantissa.roundedMantissa, ExtendedMantissa.accuracy,
      Accuracy.roundToNearestEven] <;> omega

theorem targetExponent_binary64 (mantissa : Nat) (exponent : Int) :
    Format.binary64.targetExponent (totalExponent mantissa exponent) =
      max (mantissa.log2 + exponent - 52) (-1074) := by
  show max (_ - (1 + 52 : Nat) : Int) (3 - 2 ^ (11 - 1) - (1 + 52 : Nat)) = _
  unfold totalExponent
  omega

/-- The bits of a mantissa that a double has no room for are shifted out. -/
theorem exists_shift_eq {mantissa n : Nat} {exponent : Int} (h : (mantissa.log2 : Int) - 52 = n)
    (hmin : -1074 ≤ exponent + n) :
    ∃ em, shiftToTargetExponent .binary64 mantissa exponent .exact = (em, exponent + n) ∧
      em.mantissa = mantissa / 2 ^ n := by
  have hshift : (Format.binary64.targetExponent (totalExponent mantissa exponent) -
      exponent).toNat = n := by
    rw [targetExponent_binary64]
    omega
  refine ⟨ExtendedMantissa.ofMantissaAndAccuracy mantissa .exact >>> n, ?_, mantissa_shiftRight _ n⟩
  unfold shiftToTargetExponent shiftToExponent
  dsimp only
  rw [hshift]

/-- Rounding the bits that are left may carry into one more bit, which is shifted out again. -/
theorem exists_shift_rounded_eq {r : Nat} {exponent : Int} (hlow : 2 ^ 52 ≤ r) (hhigh : r ≤ 2 ^ 53)
    (hmin : -1074 ≤ exponent) :
    ∃ em, ∃ k : Nat, k ≤ 1 ∧
      shiftToTargetExponent .binary64 r exponent .exact = (em, exponent + k) ∧
        em.mantissa.log2 = 52 := by
  by_cases hcarry : r = 2 ^ 53
  · subst hcarry
    obtain ⟨em, hshift, hem⟩ := @exists_shift_eq (2 ^ 53) 1 exponent (by decide) (by omega)
    refine ⟨em, 1, Nat.le_refl 1, hshift, ?_⟩
    rw [hem]
    decide
  · have hlog : r.log2 = 52 := (Nat.log2_eq_iff (by omega)).2 ⟨hlow, by omega⟩
    obtain ⟨em, hshift, hem⟩ := @exists_shift_eq r 0 exponent (by omega) (by omega)
    refine ⟨em, 0, Nat.zero_le 1, hshift, ?_⟩
    rw [hem, Nat.pow_zero, Nat.div_one, hlog]

/-- A number that has all the bits of a double is rounded to one that has them, too. -/
theorem exists_roundWithAccuracy_eq (sign : Sign) {mantissa : Nat} {exponent : Int}
    (hbits : 52 ≤ mantissa.log2) (hmin : -1022 ≤ mantissa.log2 + exponent) :
    ∃ m e hm, roundWithAccuracy .binary64 sign mantissa exponent .exact = .finite sign m e hm ∧
      m.log2 = 52 ∧ mantissa.log2 + exponent - 52 ≤ e ∧ e ≤ mantissa.log2 + exponent - 51 := by
  obtain ⟨n, hn⟩ : ∃ n, mantissa.log2 = 52 + n := Nat.exists_eq_add_of_le hbits
  obtain ⟨em, hfirst, hem⟩ := @exists_shift_eq mantissa n exponent (by omega) (by omega)
  have hlow : 2 ^ 52 ≤ em.mantissa := by
    have hne : mantissa ≠ 0 := by
      rintro rfl
      exact absurd hbits (by decide)
    rw [hem, Nat.le_div_iff_mul_le (Nat.two_pow_pos n), ← Nat.pow_add, ← hn]
    exact Nat.log2_self_le hne
  have hhigh : em.mantissa < 2 ^ 53 := by
    rw [hem, Nat.div_lt_iff_lt_mul (Nat.two_pow_pos n), ← Nat.pow_add,
      show 53 + n = mantissa.log2 + 1 by omega]
    exact Nat.lt_log2_self
  obtain ⟨hdown, hup⟩ := roundedMantissa_bounds em
  obtain ⟨em', k, hk, hsecond, hem'⟩ := @exists_shift_rounded_eq _ (exponent + n)
    (Nat.le_trans hlow hdown) (Nat.le_trans hup hhigh) (by omega)
  have hne : em'.mantissa ≠ 0 := by
    intro hzero
    rw [hzero] at hem'
    exact absurd hem' (by decide)
  refine ⟨em'.mantissa, exponent + n + k, Nat.pos_of_ne_zero hne, ?_, hem', by omega, by omega⟩
  unfold roundWithAccuracy
  rw [hfirst]
  dsimp only
  rw [hsecond]
  exact dif_neg hne

theorem isProper_unpack_packComponents {spec : Format} (sign : Sign)
    {exponent : BitVec spec.exponentBits} {mantissa : BitVec spec.mantissaBitsWithoutImplicit}
    (hlast : exponent ≠ -1#_) (hfirst : exponent ≠ 0#_) :
    isProper (UnpackedFloat.unpack spec (packComponents spec sign exponent mantissa)) = true := by
  delta UnpackedFloat.unpack
  dsimp only
  rw [unpackExponent_packComponents, if_neg hlast, if_neg hfirst]
  rfl

/-- A number with all the bits of a double stays what it is if its exponent is in range. -/
theorem isProper_unpack_pack (sign : Sign) {m : Nat} {e : Int} (hm : 0 < m) (hbits : m.log2 = 52)
    (hlow : -1074 ≤ e) (hhigh : e ≤ 971) :
    isProper (UnpackedFloat.unpack .binary64
      (UnpackedFloat.pack .binary64 (.finite sign m e hm))) = true := by
  obtain ⟨biased, hbiased⟩ : ∃ biased : Nat, (e + (1023 : Nat) + (52 : Nat)).toNat = biased :=
    ⟨_, rfl⟩
  have hpack : UnpackedFloat.pack .binary64 (.finite sign m e hm) =
      packComponents .binary64 sign (BitVec.ofNat 11 biased) (BitVec.ofNat 52 m) := by
    delta UnpackedFloat.pack
    show (if 2 ^ 11 ≤ (e + (1023 : Nat) + (52 : Nat)).toNat + 1 then _ else
      if m.log2 + 1 = 53 then
        packComponents .binary64 sign (BitVec.ofNat 11 (e + (1023 : Nat) + (52 : Nat)).toNat)
          (BitVec.ofNat 52 m)
      else _) = _
    rw [hbiased, if_neg (by omega), if_pos (by omega)]
  have hne : ∀ n : Nat, n < 2 ^ 11 → biased ≠ n → BitVec.ofNat 11 biased ≠ BitVec.ofNat 11 n := by
    intro n hn hbiased heq
    have hvalue := congrArg BitVec.toNat heq
    rw [BitVec.toNat_ofNat, BitVec.toNat_ofNat, Nat.mod_eq_of_lt hn,
      Nat.mod_eq_of_lt (by omega)] at hvalue
    exact hbiased hvalue
  rw [hpack]
  exact isProper_unpack_packComponents sign (hne 2047 (by decide) (by omega))
    (hne 0 (by decide) (by omega))

end

namespace Json

/-! ## Powers of ten -/

section

open Float.Model UnpackedFloat

theorem toModel_tenPower {n : Nat} (hlow : 22 < n) (hhigh : n ≤ 2048) :
    (tenPower n).toModel = Float.Model.pack
      (roundWithAccuracy .binary64 .positive (1 <<< 53 * 10 ^ n) (-53) .exact) := by
  unfold tenPower Float.ofScientific
  rw [dif_neg (fun hn => Nat.not_le.2 hlow hn.2)]
  refine congrArg Float.Model.pack ?_
  show UnpackedFloat.ofScientific .binary64 1 (n : Int) = _
  unfold UnpackedFloat.ofScientific
  show (if hm : 1 = 0 then _ else if (n : Int) > 2048 then _ else
    if (n : Int) < -(2048 + (0 : Nat)) then _ else if 0 ≤ (n : Int) then _ else _) = _
  rw [dif_neg (by decide), if_neg (by omega), if_neg (by omega), if_pos (by omega)]
  rfl

theorem exists_pow_ten_lt : ∀ n ≤ 307, ∃ k ≤ 1023, Nat.pow 10 n < Nat.pow 2 k := by
  have hlt : ∀ n ≤ 307, Nat.pow 10 n < Nat.pow 2 1023 := by decide +kernel
  exact fun n hn => ⟨1023, Nat.le_refl _, hlt n hn⟩

/-- The powers of ten that numerals are scaled by are neither zero nor infinite. -/
theorem isProper_tenPower {n : Nat} (h : n ≤ 308) :
    isProper (tenPower n).toModel.unpack = true := by
  -- The small ones are in a table.  The largest one has the exponent of the largest doubles, so a
  -- carry in rounding it would lead to infinity.
  have hsmall : ∀ n ≤ 22, isProper (tenPower n).toModel.unpack = true := by decide +kernel
  have hlargest : isProper (tenPower 308).toModel.unpack = true := by decide +kernel
  by_cases htable : n ≤ 22
  · exact hsmall n htable
  by_cases hlast : n = 308
  · rw [hlast]
    exact hlargest
  have hne : 1 <<< 53 * 10 ^ n ≠ 0 := Nat.mul_ne_zero (by decide) (by positivity)
  have hlow : 53 ≤ (1 <<< 53 * 10 ^ n).log2 := by
    rw [Nat.le_log2 hne]
    exact Nat.le_mul_of_pos_right _ (by positivity)
  have hhigh : (1 <<< 53 * 10 ^ n).log2 < 53 + 1023 := by
    obtain ⟨k, hk, hten⟩ := exists_pow_ten_lt n (by omega)
    refine Nat.lt_of_lt_of_le ?_ (Nat.add_le_add_left hk 53)
    rw [Nat.log2_lt hne, Nat.pow_add]
    exact Nat.mul_lt_mul_of_pos_left hten (by decide)
  obtain ⟨m, e, hm, hround, hbits, _, _⟩ :=
    @exists_roundWithAccuracy_eq .positive (1 <<< 53 * 10 ^ n) (-53) (by omega) (by omega)
  rw [toModel_tenPower (by omega) (by omega), hround]
  exact isProper_unpack_pack _ hm hbits (by omega) (by omega)

end

/-! ## Numerals -/

theorem isNaN_div_tenPower {x : Float} (hx : x.isNaN = false) {n : Nat} (hn : n ≤ 308) :
    (x / tenPower n).isNaN = false :=
  isNaN_unpack_pack (isNaN_div hx (isProper_tenPower hn))

theorem isNaN_mul_tenPower {x : Float} (hx : x.isNaN = false) {n : Nat} (hn : n ≤ 308) :
    (x * tenPower n).isNaN = false :=
  isNaN_unpack_pack (isNaN_mul hx (isProper_tenPower hn))

theorem isNaN_divideByTenPower {x : Float} (hx : x.isNaN = false) (exponent : Nat) :
    (divideByTenPower x exponent).isNaN = false := by
  fun_induction divideByTenPower x exponent with
  | case1 x exponent hsmall => exact isNaN_div_tenPower hx hsmall
  | case2 x exponent _ _ => exact hx
  | case3 x exponent _ _ ih => exact ih (isNaN_div_tenPower hx (Nat.le_refl 308))

theorem isNaN_scaled {significand : Nat} {exponent : Int} {x : Float}
    (h : scaled significand exponent = some x) : x.isNaN = false := by
  have hsignificand := isNaN_toFloat significand.toUInt64
  cases exponent with
  | negSucc exponent =>
    obtain rfl := Option.some.inj h
    exact isNaN_divideByTenPower hsignificand (exponent + 1)
  | ofNat exponent =>
    change multiplyByTenPower _ _ = _ at h
    unfold multiplyByTenPower at h
    split at h
    · next hsmall =>
      dsimp only at h
      split at h
      · cases h
      · obtain rfl := Option.some.inj h
        exact isNaN_mul_tenPower hsignificand hsmall
    · split at h
      · obtain rfl := Option.some.inj h
        exact hsignificand
      · cases h

theorem not_isNaN_of_realNumber {negative : Bool} {significand : Nat} {exponent : Int} {n : Number}
    (h : realNumber negative significand exponent = some n) : ¬ n.IsNaN := by
  obtain ⟨x, hx, rfl⟩ := Option.map_eq_some_iff.1 h
  cases negative with
  | false => exact Bool.eq_false_iff.1 (isNaN_scaled hx)
  | true => exact Bool.eq_false_iff.1 (isNaN_neg (isNaN_scaled hx))

theorem not_isNaN_integerNumber (negative : Bool) (significand : Nat) :
    ¬ (integerNumber negative significand).IsNaN := by
  unfold integerNumber
  split
  · exact id
  · split
    · exact id
    · exact Bool.eq_false_iff.1 (isNaN_neg (isNaN_toFloat _))

/-- A numeral does not stand for NaN. -/
theorem not_isNaN_of_number? {negative : Bool} {numeral : Numeral} {n : Number}
    (h : numeral.number? negative = some n) : ¬ n.IsNaN := by
  unfold Numeral.number? at h
  dsimp only at h
  split at h
  · exact not_isNaN_of_realNumber h
  · split at h
    · obtain rfl := Option.some.inj h
      exact not_isNaN_integerNumber _ _
    · exact not_isNaN_of_realNumber h

theorem not_isNaN_of_readNumber {cs rest : List Char} {n : Number}
    (h : readNumber cs = some (n, rest)) : ¬ n.IsNaN := by
  have hunsigned : ∀ {negative cs}, readUnsigned negative cs = some (n, rest) → ¬ n.IsNaN := by
    intro negative cs h
    obtain ⟨⟨numeral, rest'⟩, _, h⟩ := Option.bind_eq_some_iff.1 h
    obtain ⟨n', hn', h⟩ := Option.bind_eq_some_iff.1 h
    obtain ⟨rfl, rfl⟩ := Prod.mk.inj (Option.some.inj h)
    exact not_isNaN_of_number? hn'
  unfold readNumber at h
  split at h <;> exact hunsigned h

/-! ## Texts -/

/-- No number in the value is NaN. -/
inductive NaNFree : Json → Prop where
  | null : NaNFree .null
  | boolean (b : Bool) : NaNFree (.boolean b)
  | number {n : Number} (h : ¬ n.IsNaN) : NaNFree (.number n)
  | text (t : String) : NaNFree (.text t)
  | array {items : List Json} (h : ∀ j ∈ items, NaNFree j) : NaNFree (.array items)
  | object {members : List (String × Json)} (h : ∀ e ∈ members, NaNFree e.2) :
    NaNFree (.object members)

namespace NaNFree

attribute [simp] null boolean text

@[simp]
theorem number_iff {n : Number} : NaNFree (.number n) ↔ ¬ n.IsNaN := by
  constructor
  · intro h
    cases h with
    | number h => exact h
  · exact .number

@[simp]
theorem array_iff {items : List Json} : NaNFree (.array items) ↔ ∀ j ∈ items, NaNFree j := by
  constructor
  · intro h
    cases h with
    | array h => exact h
  · exact .array

@[simp]
theorem object_iff {members : List (String × Json)} :
    NaNFree (.object members) ↔ ∀ e ∈ members, NaNFree e.2 := by
  constructor
  · intro h
    cases h with
    | object h => exact h
  · exact .object

end NaNFree

section

variable {α : Type} {item : List Char → Option (α × List Char)} {close : Char} {P : α → Prop}

/-- What holds of all that can be read as an item holds of the items in a row. -/
theorem forall_of_readItems (hitem : ∀ cs x rest, item cs = some (x, rest) → P x) {fuel : Nat}
    {cs rest : List Char} {xs : List α} (h : readItems item close fuel cs = some (xs, rest)) :
    ∀ x ∈ xs, P x := by
  induction fuel generalizing cs xs with
  | zero => cases h
  | succ fuel ih =>
    rw [readItems] at h
    obtain ⟨⟨x, rest'⟩, hx, h⟩ := Option.bind_eq_some_iff.1 h
    dsimp only at h
    split at h
    · cases h
    · split at h
      · obtain ⟨⟨xs', rest''⟩, hxs, h⟩ := Option.bind_eq_some_iff.1 h
        obtain ⟨rfl, rfl⟩ := Prod.mk.inj (Option.some.inj h)
        exact List.forall_mem_cons.2 ⟨hitem _ _ _ hx, ih hxs⟩
      · split at h
        · obtain ⟨rfl, rfl⟩ := Prod.mk.inj (Option.some.inj h)
          exact List.forall_mem_singleton.2 (hitem _ _ _ hx)
        · cases h

theorem forall_of_readSequence (hitem : ∀ cs x rest, item cs = some (x, rest) → P x)
    {cs rest : List Char} {xs : List α} (h : readSequence item close cs = some (xs, rest)) :
    ∀ x ∈ xs, P x := by
  unfold readSequence at h
  split at h
  · cases h
  · split at h
    · obtain ⟨rfl, rfl⟩ := Prod.mk.inj (Option.some.inj h)
      exact List.forall_mem_nil P
    · exact forall_of_readItems hitem h

end

theorem naNFree_of_readMember {value : List Char → Option (Json × List Char)}
    (hvalue : ∀ cs j rest, value cs = some (j, rest) → NaNFree j) {cs rest : List Char}
    {e : String × Json} (h : readMember value cs = some (e, rest)) : NaNFree e.2 := by
  unfold readMember at h
  split at h
  · obtain ⟨⟨name, rest'⟩, _, h⟩ := Option.bind_eq_some_iff.1 h
    dsimp only at h
    split at h
    · obtain ⟨⟨j, rest''⟩, hj, h⟩ := Option.bind_eq_some_iff.1 h
      obtain ⟨rfl, rfl⟩ := Prod.mk.inj (Option.some.inj h)
      exact hvalue _ _ _ hj
    · cases h
  · cases h

theorem eq_of_readWord {word : String} {j j' : Json} {cs rest : List Char}
    (h : readWord word j cs = some (j', rest)) : j' = j := by
  unfold readWord at h
  split at h
  · exact (Prod.mk.inj (Option.some.inj h)).1.symm
  · cases h

/-- There is no NaN in a value that is read, if there is none in the values that are nested in
it. -/
theorem naNFree_of_readValue_of {depth : Nat} (hnested : ∀ inner, depth = inner + 1 →
      ∀ cs j rest, readValue inner cs = some (j, rest) → NaNFree j)
    {cs rest : List Char} {j : Json} (h : readValue depth cs = some (j, rest)) : NaNFree j := by
  rw [readValue.eq_def] at h
  split at h
  · split at h
    · cases h
    · obtain ⟨⟨items, rest'⟩, hitems, h⟩ := Option.map_eq_some_iff.1 h
      obtain ⟨rfl, rfl⟩ := Prod.mk.inj h
      exact .array (forall_of_readSequence (hnested _ rfl) hitems)
  · split at h
    · cases h
    · obtain ⟨⟨members, rest'⟩, hmembers, h⟩ := Option.map_eq_some_iff.1 h
      obtain ⟨rfl, rfl⟩ := Prod.mk.inj h
      exact .object (forall_of_readSequence
        (fun _ _ _ => naNFree_of_readMember (hnested _ rfl)) hmembers)
  · obtain ⟨⟨t, rest'⟩, _, h⟩ := Option.map_eq_some_iff.1 h
    obtain ⟨rfl, rfl⟩ := Prod.mk.inj h
    exact .text _
  · exact eq_of_readWord h ▸ .null
  · exact eq_of_readWord h ▸ .boolean true
  · exact eq_of_readWord h ▸ .boolean false
  · obtain ⟨⟨n, rest'⟩, hn, h⟩ := Option.map_eq_some_iff.1 h
    obtain ⟨rfl, rfl⟩ := Prod.mk.inj h
    exact .number (not_isNaN_of_readNumber hn)

theorem naNFree_of_readValue (depth : Nat) : ∀ {cs j rest},
    readValue depth cs = some (j, rest) → NaNFree j := by
  induction depth with
  | zero =>
    intro cs j rest h
    refine naNFree_of_readValue_of (fun inner heq => ?_) h
    cases heq
  | succ depth ih =>
    intro cs j rest h
    refine naNFree_of_readValue_of (fun inner heq _ _ _ hinner => ?_) h
    rw [← Nat.succ.inj heq] at hinner
    exact ih hinner

/-- There is no NaN in a JSON text. -/
theorem naNFree_of_parse? {text : String} {j : Json} (h : parse? text = some j) : NaNFree j := by
  unfold parse? parseWithin? at h
  split at h
  · next j' rest hread =>
    split at h
    · obtain rfl := Option.some.inj h
      exact naNFree_of_readValue _ hread
    · cases h
  · cases h

end Json

end NameCompletion
