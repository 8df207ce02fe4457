import Mathlib.Data.List.Basic
import NameCompletion.Bindings

/-!
# The order of texts by their bytes

Texts are compared character by character, and candidates are listed in the order of their UTF-8
bytes.  This file shows that the two orders are the same one.

* `utf8EncodeChar_append_lt`: the code of a smaller character is smaller at the first byte where
  the two codes differ, whatever follows them.  A longer code starts with a larger byte; codes of
  the same length are compared digit by digit in base 64.
* `utf8_lt_utf8_iff`: the order of the bytes is the order of the texts.
* `byteAscending_iff`: a list of texts that ascends by bytes ascends.
-/

namespace NameCompletion.Text

/-- The bytes of a text. -/
def utf8 (text : String) : List UInt8 :=
  text.toUTF8.data.toList

/-- The texts are in strictly ascending order of their bytes. -/
def ByteAscending (texts : List String) : Prop :=
  texts.Pairwise fun a b => utf8 a < utf8 b

/-- The bytes of a text are the codes of its characters, one after the other. -/
theorem utf8_eq_flatMap (text : String) :
    utf8 text = text.toList.flatMap String.utf8EncodeChar := by
  unfold utf8
  rw [String.toUTF8_eq_toByteArray, ← String.utf8Encode_toList]
  simp [List.utf8Encode]

/-- The code of a smaller character comes first, whatever bytes follow the two codes. -/
theorem utf8EncodeChar_append_lt {c d : Char} (h : c < d) (xs ys : List UInt8) :
    String.utf8EncodeChar c ++ xs < String.utf8EncodeChar d ++ ys := by
  have hcd : c.toNat < d.toNat := h
  have hd : d.toNat < 1114112 := by
    rcases d.valid with hlow | ⟨_, hhigh⟩
    · exact Nat.lt_trans hlow (by decide)
    · exact hhigh
  unfold String.utf8EncodeChar
  simp only [Char.toNat_val]
  generalize c.toNat = v at *
  generalize d.toNat = w at *
  -- Every byte as a digit in base 64, so that only quotients and remainders by 64 are left.
  have hdigit : ∀ x : Nat, (x % 64 + 128) % 256 = x % 64 + 128 := fun x => by omega
  have hthree : ∀ x : Nat, x / 4096 = x / 64 / 64 := fun x => by omega
  have hfour : ∀ x : Nat, x / 262144 = x / 64 / 64 / 64 := fun x => by omega
  split_ifs <;>
    simp only [List.cons_append, List.nil_append, List.cons_lt_cons_iff, UInt8.lt_iff_toNat_lt,
      ← UInt8.toNat_inj, UInt8.toNat_ofNat', hdigit, hthree, hfour] <;>
    omega

theorem flatMap_utf8EncodeChar_lt :
    ∀ {cs ds : List Char}, cs < ds →
      cs.flatMap String.utf8EncodeChar < ds.flatMap String.utf8EncodeChar
  | _, [], h => absurd h (List.not_lt_nil _)
  | [], d :: ds, _ => by
    rw [List.flatMap_nil, List.flatMap_cons]
    cases hcode : String.utf8EncodeChar d with
    | nil => exact absurd hcode String.utf8EncodeChar_ne_nil
    | cons b bs => exact List.nil_lt_cons ..
  | c :: cs, d :: ds, h => by
    rw [List.flatMap_cons, List.flatMap_cons]
    rcases List.cons_lt_cons_iff.1 h with hlt | ⟨rfl, hrest⟩
    · exact utf8EncodeChar_append_lt hlt _ _
    · exact List.append_left_lt (flatMap_utf8EncodeChar_lt hrest)

/-- The order of the bytes is the order of the texts. -/
theorem utf8_lt_utf8_iff {a b : String} : utf8 a < utf8 b ↔ a < b := by
  have hmono : ∀ {a b : String}, a < b → utf8 a < utf8 b := by
    intro a b h
    rw [utf8_eq_flatMap, utf8_eq_flatMap]
    exact flatMap_utf8EncodeChar_lt h
  refine ⟨fun h => ?_, hmono⟩
  by_contra hnot
  by_cases heq : a = b
  · subst heq
    exact List.lt_irrefl _ h
  · have hba : b < a := Bindings.lt_of_not_lt_of_ne hnot heq
    exact List.lt_asymm h (hmono hba)

/-- A list ascends by bytes exactly if it ascends. -/
theorem byteAscending_iff {texts : List String} :
    ByteAscending texts ↔ texts.Pairwise (· < ·) :=
  List.Pairwise.iff fun _ _ => utf8_lt_utf8_iff

end NameCompletion.Text
