import Mathlib
import NameCompletion.Json.Basic

/-!
# Numbers that equal themselves

Of all doubles only NaN differs from itself (`beq_self_iff_isNaN`).  A number that a document writes
as an integer never becomes NaN, because converting an integer and negating never yield NaN
(`isNaN_toFloat`, `isNaN_neg`): what is packed into the bits of a double is NaN only if it was NaN
before (`isNaN_unpack_pack`).
-/

namespace NameCompletion

section

open Float.Model UnpackedFloat

theorem isNaN_dite {c : Prop} [Decidable c] {x : c → UnpackedFloat} {y : ¬ c → UnpackedFloat}
    (hx : ∀ h, (x h).isNaN = false) (hy : ∀ h, (y h).isNaN = false) :
    (if h : c then x h else y h).isNaN = false := by
  by_cases h : c
  · rw [dif_pos h]
    exact hx h
  · rw [dif_neg h]
    exact hy h

/-- The exponent of NaN with another mantissa than zero makes NaN, and nothing else does. -/
theorem isNaN_unpack {spec : Format} {bits : BitVec spec.numBits}
    (h : unpackExponent bits = -1#_ → unpackMantissa bits = 0#_) :
    (UnpackedFloat.unpack spec bits).isNaN = false := by
  delta UnpackedFloat.unpack
  dsimp only
  by_cases hlast : unpackExponent bits = -1#_
  · rw [if_pos hlast, if_pos (h hlast)]
    rfl
  · rw [if_neg hlast]
    by_cases hfirst : unpackExponent bits = 0#_
    · rw [if_pos hfirst]
      exact isNaN_dite (fun _ => rfl) fun _ => rfl
    · rw [if_neg hfirst]
      rfl

theorem isNaN_unpack_packComponents {spec : Format} (sign : Sign)
    {exponent : BitVec spec.exponentBits} {mantissa : BitVec spec.mantissaBitsWithoutImplicit}
    (h : exponent = -1#_ → mantissa = 0#_) :
    (UnpackedFloat.unpack spec (packComponents spec sign exponent mantissa)).isNaN = false := by
  refine isNaN_unpack ?_
  rwa [unpackExponent_packComponents, unpackMantissa_packComponents]

theorem isNaN_unpack_pack {spec : Format} {x : UnpackedFloat} (h : x.isNaN = false) :
    (UnpackedFloat.unpack spec (UnpackedFloat.pack spec x)).isNaN = false := by
  -- An exponent below the one of NaN fits into its bits.
  have hbelow : ∀ n : Nat, ¬ 2 ^ spec.exponentBits ≤ n + 1 →
      BitVec.ofNat spec.exponentBits n ≠ -1#_ := by
    intro n hn heq
    have hvalue := congrArg BitVec.toNat heq
    rw [BitVec.neg_one_eq_allOnes, BitVec.toNat_allOnes, BitVec.toNat_ofNat,
      Nat.mod_eq_of_lt (by omega)] at hvalue
    omega
  have hzero : ¬ 2 ^ spec.exponentBits ≤ 0 + 1 := by
    have hpos := Nat.one_lt_two_pow (Nat.pos_iff_ne_zero.1 spec.he)
    omega
  delta UnpackedFloat.pack
  cases x with
  | notANumber => cases h
  | infinity sign => exact isNaN_unpack_packComponents sign fun _ => rfl
  | zero sign => exact isNaN_unpack_packComponents sign fun _ => rfl
  | finite sign mantissa exponent hmantissa =>
    dsimp only
    split
    · exact isNaN_unpack_packComponents sign fun _ => rfl
    · next hsmall =>
      split
      · exact isNaN_unpack_packComponents sign fun heq => absurd heq (hbelow _ hsmall)
      · exact isNaN_unpack_packComponents sign fun heq => absurd heq (hbelow 0 hzero)

theorem isNaN_roundWithAccuracy (spec : Format) (sign : Sign) (mantissa : Nat) (exponent : Int)
    (accuracy : Accuracy) :
    (roundWithAccuracy spec sign mantissa exponent accuracy).isNaN = false := by
  unfold roundWithAccuracy
  exact isNaN_dite (fun _ => rfl) fun _ => rfl

theorem isNaN_round (spec : Format) (sign : Sign) (mantissa : Nat) (exponent : Int) :
    (UnpackedFloat.round spec sign mantissa exponent).isNaN = false :=
  isNaN_roundWithAccuracy _ _ _ _ _

theorem isNaN_normalize (spec : Format) (mantissa exponent : Int) (zeroSign : Sign) :
    (UnpackedFloat.normalize spec mantissa exponent zeroSign).isNaN = false := by
  unfold UnpackedFloat.normalize
  split
  · exact isNaN_round _ _ _ _
  · rfl
  · exact isNaN_round _ _ _ _

end

theorem beq_self_iff_isNaN {x : Float} : (x == x) = true ↔ x.isNaN = false := by
  rw [Float.beq_self_iff, Float.isNaN_eq_decide_eq_nan, decide_eq_false_iff_not]

theorem isNaN_toFloat (n : UInt64) : n.toFloat.isNaN = false :=
  isNaN_unpack_pack (isNaN_normalize _ _ _ _)

theorem isNaN_neg {x : Float} (h : x.isNaN = false) : (-x).isNaN = false := by
  refine isNaN_unpack_pack ?_
  have hunpacked : x.toModel.unpack.isNaN = false := h
  cases hx : x.toModel.unpack with
  | notANumber =>
    rw [hx] at hunpacked
    cases hunpacked
  | _ => rfl

namespace Json.Number

/-- The number is NaN, for which no JSON text stands. -/
def IsNaN : Number → Prop
  | integer _ => False
  | real x => x.isNaN = true

/-- All other numbers equal themselves. -/
theorem toFloat_beq_self {n : Number} (h : ¬ n.IsNaN) : (n.toFloat == n.toFloat) = true := by
  refine beq_self_iff_isNaN.2 ?_
  cases n with
  | integer value =>
    cases value with
    | ofNat n => exact isNaN_toFloat _
    | negSucc n => exact isNaN_neg (isNaN_toFloat _)
  | real x => exact Bool.eq_false_iff.2 h

end Json.Number

end NameCompletion
