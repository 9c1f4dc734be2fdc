import Mathlib

/-!
The order of texts by their characters is the order of their bytes in UTF-8. A greater character has
more bytes, or it differs from the smaller one in a byte that is greater.
-/

set_option autoImplicit false
set_option relaxedAutoImplicit false

namespace SchemaSeed.Text

/-- The bytes of a text in UTF-8. -/
def bytes (text : String) : List UInt8 := text.toUTF8.data.toList

theorem bytes_eq_flatMap (text : String) :
    bytes text = text.toList.flatMap String.utf8EncodeChar := by
  unfold bytes
  change text.toByteArray.data.toList = _
  rw [← String.utf8Encode_toList, List.utf8Encode, List.toList_data_toByteArray]

private theorem digits_lt {n m : Nat} (less : n < m) (bound : m < 1114112) :
    n / 262144 % 8 < m / 262144 % 8 ∨ n / 262144 % 8 = m / 262144 % 8 ∧
      (n / 4096 % 64 < m / 4096 % 64 ∨ n / 4096 % 64 = m / 4096 % 64 ∧
        (n / 64 % 64 < m / 64 % 64 ∨ n / 64 % 64 = m / 64 % 64 ∧ n % 64 < m % 64)) := by
  have second (k : Nat) : k / 4096 = k / 64 / 64 := by rw [Nat.div_div_eq_div_mul]
  have third (k : Nat) : k / 262144 = k / 64 / 64 / 64 := by simp only [Nat.div_div_eq_div_mul]
  have small (k : Nat) (h : k < 1114112) : k / 262144 % 8 = k / 262144 := by omega
  rw [small n (less.trans bound), small m bound, second, second, third, third]
  omega

/-- A smaller character has smaller bytes, whatever follows. -/
theorem utf8EncodeChar_lt {c d : Char} (less : c < d) (rest rest' : List UInt8) :
    String.utf8EncodeChar c ++ rest < String.utf8EncodeChar d ++ rest' := by
  have numbers : c.val.toNat < d.val.toNat := UInt32.lt_iff_toNat_lt.mp less
  have bound : d.val.toNat < 1114112 := by
    rcases d.valid with low | ⟨-, high⟩
    · exact low.trans (by decide)
    · exact high
  unfold String.utf8EncodeChar
  dsimp only
  generalize c.val.toNat = n at *
  generalize d.val.toNat = m at *
  have digits := digits_lt numbers bound
  have four (k : Nat) : (k % 8 + 240) % 256 = k % 8 + 240 := by omega
  have three (k : Nat) : (k % 16 + 224) % 256 = k % 16 + 224 := by omega
  have two (k : Nat) : (k % 32 + 192) % 256 = k % 32 + 192 := by omega
  have later (k : Nat) : (k % 64 + 128) % 256 = k % 64 + 128 := by omega
  -- of the sixteen pairs of lengths only those with the shorter one first are left
  split_ifs <;>
    simp only [List.cons_append, List.nil_append, List.cons_lt_cons_iff, UInt8.lt_iff_toNat_lt,
      ← UInt8.toNat_inj, UInt8.toNat_ofNat', Nat.reducePow, four, three, two, later] <;>
    omega

private theorem flatMap_lt {left right : List Char} (less : left < right) :
    left.flatMap String.utf8EncodeChar < right.flatMap String.utf8EncodeChar := by
  induction left generalizing right with
  | nil =>
    cases right with
    | nil => exact absurd less (List.lt_irrefl _)
    | cons d right =>
      rw [List.flatMap_nil, List.flatMap_cons]
      cases first : String.utf8EncodeChar d with
      | nil => exact absurd first String.utf8EncodeChar_ne_nil
      | cons x others => exact List.nil_lt_cons _ _
  | cons c left ih =>
    cases right with
    | nil => exact absurd less (List.not_lt_nil _)
    | cons d right =>
      rw [List.flatMap_cons, List.flatMap_cons]
      rcases List.cons_lt_cons_iff.mp less with heads | ⟨rfl, tails⟩
      · exact utf8EncodeChar_lt heads _ _
      · exact List.append_left_lt (ih tails)

/-- A smaller text has smaller bytes. -/
theorem bytes_lt {left right : String} (less : left < right) : bytes left < bytes right := by
  rw [bytes_eq_flatMap, bytes_eq_flatMap]
  exact flatMap_lt less

end SchemaSeed.Text
