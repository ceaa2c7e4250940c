import Mathlib.Data.Char
import Mathlib.Data.String.Basic

set_option autoImplicit false

/-!
# Texts in the order of their bytes

Texts are compared by code points, character by character. UTF-8 is made so that comparing the encoded bytes comes to
the same: of two characters the one with the smaller code point has the smaller encoding, whatever follows.
-/

namespace AsyncReports.Text

def bytes (s : String) : List UInt8 := s.toUTF8.data.toList

theorem bytes_eq (s : String) : bytes s = s.toList.flatMap String.utf8EncodeChar := by
  have encoded : s.toUTF8 = s.toList.utf8Encode := (String.utf8Encode_toList).symm
  rw [bytes, encoded, List.utf8Encode, List.data_toByteArray]

theorem ofNat_cons_lt {a b : Nat} (small : a < 256) (small' : b < 256) (xs ys : List UInt8) :
    UInt8.ofNat a :: xs < UInt8.ofNat b :: ys ↔ a < b ∨ (a = b ∧ xs < ys) := by
  rw [List.cons_lt_cons_iff, UInt8.lt_iff_toNat_lt, ← UInt8.toNat_inj, UInt8.toNat_ofNat_of_lt' small,
    UInt8.toNat_ofNat_of_lt' small']

/-- The smaller of two characters has the smaller encoding, whatever follows. -/
theorem utf8EncodeChar_lt {c d : Char} (lt : c < d) (xs ys : List UInt8) :
    String.utf8EncodeChar c ++ xs < String.utf8EncodeChar d ++ ys := by
  have less : c.val.toNat < d.val.toNat := lt
  have bound : d.val.toNat < 1114112 := by
    have valid := d.valid
    rcases valid with low | ⟨-, high⟩
    · omega
    · exact high
  -- Six bits at a time come to the same as twelve, or eighteen, and of these three are left at most.
  have groups : ∀ n : Nat, n < 1114112 →
      n / 64 / 64 = n / 4096 ∧ n / 4096 / 64 = n / 262144 ∧ n / 262144 % 8 = n / 262144 :=
    fun n small => ⟨Nat.div_div_eq_div_mul n 64 64, Nat.div_div_eq_div_mul n 4096 64, by omega⟩
  have groups_c := groups c.val.toNat (by omega)
  have groups_d := groups d.val.toNat bound
  unfold String.utf8EncodeChar
  dsimp only
  split_ifs <;> simp only [List.cons_append, List.nil_append] <;>
    repeat rw [ofNat_cons_lt (by omega) (by omega)]
  all_goals omega

theorem utf8EncodeChar_pos (c : Char) (xs : List UInt8) : [] < String.utf8EncodeChar c ++ xs := by
  cases encoded : String.utf8EncodeChar c with
  | nil => exact absurd encoded String.utf8EncodeChar_ne_nil
  | cons b bs => exact List.nil_lt_cons b _

theorem bytes_lt_bytes {s t : String} (lt : s < t) : bytes s < bytes t := by
  rw [String.lt_iff_toList_lt] at lt
  rw [bytes_eq, bytes_eq]
  generalize s.toList = cs at lt ⊢
  generalize t.toList = ds at lt ⊢
  induction lt with
  | nil => exact utf8EncodeChar_pos _ _
  | cons _ ih => exact List.append_left_lt ih
  | rel less => exact utf8EncodeChar_lt less _ _

end AsyncReports.Text
