import Mathlib

/-!
The characters of ASCII, of which there are few enough to look at each.
-/

set_option autoImplicit false
set_option relaxedAutoImplicit false

namespace SchemaSeed.Text

/-- What holds of all characters of ASCII holds of a character that is one of them. -/
theorem forall_ascii {P : Char → Prop} (each : ∀ n < 128, P (Char.ofNat n)) {c : Char}
    (ascii : c.toNat < 128) : P c := by
  rw [← Char.ofNat_toNat c]
  exact each c.toNat ascii

theorem toNat_lt_of_isAlphanum {c : Char} (plain : c.isAlphanum = true) : c.toNat < 128 := by
  have bound : c.val.toNat ≤ 122 := by
    simp only [Char.isAlphanum, Char.isAlpha, Char.isUpper, Char.isLower, Char.isDigit,
      Bool.or_eq_true, Bool.and_eq_true, decide_eq_true_eq, UInt32.le_iff_toNat_le] at plain
    rcases plain with (⟨-, most⟩ | ⟨-, most⟩) | ⟨-, most⟩ <;> exact le_trans most (by decide)
  exact lt_of_le_of_lt bound (by decide)

end SchemaSeed.Text
