import Mathlib
import SchemaSeed.Number.Binary

/-!
How large rounded numbers are. Rounding at most doubles a bound on a ratio and never crosses one, and
a number of the 64-bit format is finite if the ratio that it is rounded from is far enough below the
largest one.
-/

set_option autoImplicit false
set_option relaxedAutoImplicit false

namespace SchemaSeed.Number

theorem cast_twoTo (n : Nat) : (twoTo n : ℚ) = 2 ^ n := by
  change ((2 ^ n : ℕ) : ℚ) = 2 ^ n
  push_cast
  rfl

theorem tenTo_le_tenTo {m n : Nat} (le : m ≤ n) : tenTo m ≤ tenTo n :=
  Nat.pow_le_pow_right (by decide) le

namespace Binary

/-- The value of a finite number without its sign. -/
def size : Binary → ℚ
  | .finite _ m e => m * 2 ^ e
  | _ => 0

/-- The powers of the two parts of a ratio are those of its value. -/
theorem scaleRatio_value {num den : Nat} (positive : 0 < den) (e : Int) :
    0 < (scaleRatio num den e).2 ∧
      ((scaleRatio num den e).1 : ℚ) / (scaleRatio num den e).2 = num / den / 2 ^ e := by
  have den_ne : (den : ℚ) ≠ 0 := by positivity
  unfold scaleRatio
  by_cases up : 0 ≤ e
  · have whole : (2 : ℚ) ^ e.toNat = 2 ^ e := by
      rw [← zpow_natCast, Int.toNat_of_nonneg up]
    rw [if_pos up]
    refine ⟨Nat.mul_pos positive (twoTo_pos _), ?_⟩
    push_cast
    rw [cast_twoTo, whole, div_div]
  · have whole : (2 : ℚ) ^ (-e).toNat = (2 ^ e)⁻¹ := by
      rw [← zpow_natCast, Int.toNat_of_nonneg (by omega), zpow_neg]
    rw [if_neg up]
    refine ⟨positive, ?_⟩
    push_cast
    rw [cast_twoTo, whole]
    field_simp

theorem ratioOf_value (m : Nat) (e : Int) :
    0 < (ratioOf m e).2 ∧ ((ratioOf m e).1 : ℚ) / (ratioOf m e).2 = m * 2 ^ e := by
  have same : ratioOf m e = scaleRatio m 1 (-e) ∨ (e = 0 ∧ ratioOf m e = (m, 1)) := by
    unfold ratioOf scaleRatio
    rcases lt_trichotomy e 0 with down | zero | up
    · left
      rw [if_neg (by omega), if_pos (by omega), Nat.one_mul]
    · right
      subst zero
      exact ⟨rfl, by simp [twoTo]⟩
    · left
      rw [if_pos (by omega), if_neg (by omega), neg_neg]
  rcases same with same | ⟨rfl, same⟩
  · obtain ⟨positive, value⟩ := @scaleRatio_value m 1 Nat.one_pos (-e)
    rw [same]
    refine ⟨positive, ?_⟩
    rw [value]
    simp
  · rw [same]
    simp

theorem divideToEven_le (num den : Nat) : divideToEven num den ≤ num / den + 1 := by
  unfold divideToEven
  dsimp only
  split_ifs <;> omega

theorem div_le_divideToEven (num den : Nat) : num / den ≤ divideToEven num den := by
  unfold divideToEven
  dsimp only
  split_ifs <;> omega

/-- A ratio below a power of two has few bits, and so its unit is small. -/
theorem unitExponent_le {f : Format} {num den k : Nat} (positive : 0 < den)
    (small : num ≤ den * 2 ^ k) :
    unitExponent f num den ≤ max ((k : Int) - (f.precision - 1 : Nat)) f.minExponent := by
  have bits : num.log2 ≤ den.log2 + k := by
    by_cases zero : num = 0
    · simp [zero]
    · have wide : den < 2 ^ (den.log2 + 1) := (Nat.log2_lt positive.ne').mp (Nat.lt_succ_self _)
      have below : num < 2 ^ (den.log2 + 1 + k) := by
        calc num ≤ den * 2 ^ k := small
          _ < 2 ^ (den.log2 + 1) * 2 ^ k := Nat.mul_lt_mul_of_pos_right wide (by positivity)
          _ = 2 ^ (den.log2 + 1 + k) := (pow_add _ _ _).symm
      have := (Nat.log2_lt zero).mpr below
      omega
  unfold unitExponent
  dsimp only
  refine max_le_max ?_ le_rfl
  split_ifs <;> omega

/-- A unit with room for a carry is in the format. -/
theorem ofRatio_isFinite (s : Bool) {num den : Nat}
    (room : unitExponent .double num den < Format.double.maxExponent) :
    (ofRatio .double s num den).isFinite = true := by
  unfold ofRatio
  by_cases zero : num = 0
  · rw [if_pos zero]
    rfl
  · rw [if_neg zero]
    dsimp only
    by_cases carry : divideToEven (scaleRatio num den (unitExponent .double num den)).1
        (scaleRatio num den (unitExponent .double num den)).2 = twoTo Format.double.precision
    · rw [if_pos carry]
      dsimp only
      rw [if_neg (by omega)]
      rfl
    · rw [if_neg carry]
      dsimp only
      rw [if_neg (by omega)]
      rfl

/-- A finite result counts the units of the scaled ratio: a significand that got one bit too long
is halved and its unit doubled. -/
theorem ofRatio_size {s : Bool} {num den : Nat} (nonzero : num ≠ 0)
    (finite : (ofRatio .double s num den).isFinite = true) :
    (ofRatio .double s num den).size =
      divideToEven (scaleRatio num den (unitExponent .double num den)).1
          (scaleRatio num den (unitExponent .double num den)).2 *
        2 ^ unitExponent .double num den := by
  unfold ofRatio at finite ⊢
  rw [if_neg nonzero] at finite ⊢
  dsimp only at finite ⊢
  generalize unitExponent .double num den = e at finite ⊢
  generalize scaleRatio num den e = r at finite ⊢
  by_cases carry : divideToEven r.1 r.2 = twoTo Format.double.precision
  · rw [if_pos carry] at finite ⊢
    dsimp only at finite ⊢
    by_cases beyond : Format.double.maxExponent < e + 1
    · rw [if_pos beyond] at finite
      cases finite
    · rw [if_neg beyond, size, carry, cast_twoTo, cast_twoTo, zpow_add₀ (by norm_num)]
      simp only [Format.double]
      norm_num
      ring
  · rw [if_neg carry] at finite ⊢
    dsimp only at finite ⊢
    by_cases beyond : Format.double.maxExponent < e
    · rw [if_pos beyond] at finite
      cases finite
    · rw [if_neg beyond, size]

/-- A ratio that is small enough is rounded to a finite number, at most twice the bound. -/
theorem ofRatio_bounded (s : Bool) {num den k : Nat} (positive : 0 < den) (few : k ≤ 1022)
    (small : (num : ℚ) / den ≤ 2 ^ k) :
    (ofRatio .double s num den).isFinite = true ∧
      (ofRatio .double s num den).size ≤ 2 ^ (k + 1) := by
  have den_pos : (0 : ℚ) < den := by exact_mod_cast positive
  have whole : num ≤ den * 2 ^ k := by
    have := (div_le_iff₀ den_pos).mp small
    rw [mul_comm] at this
    exact_mod_cast this
  have unit : unitExponent .double num den ≤ max ((k : Int) - 52) (-1074) :=
    unitExponent_le positive whole
  have limits : unitExponent .double num den ≤ k ∧ unitExponent .double num den < 971 := by
    omega
  have finite : (ofRatio .double s num den).isFinite = true := ofRatio_isFinite s limits.2
  refine ⟨finite, ?_⟩
  by_cases zero : num = 0
  · simp [ofRatio, zero, size]
  rw [ofRatio_size zero finite]
  generalize unitExponent .double num den = e at limits ⊢
  obtain ⟨scaled_pos, scaled⟩ := @scaleRatio_value num den positive e
  generalize scaleRatio num den e = r at scaled_pos scaled ⊢
  -- Rounding adds at most one unit, and the unit is below the bound.
  have unit_le : (2 : ℚ) ^ e ≤ 2 ^ k := by
    rw [← zpow_natCast]
    exact zpow_le_zpow_right₀ (by norm_num) limits.1
  have up : (divideToEven r.1 r.2 : ℚ) ≤ (r.1 : ℚ) / r.2 + 1 := by
    have : (divideToEven r.1 r.2 : ℚ) ≤ ((r.1 / r.2 + 1 : ℕ) : ℚ) := by
      exact_mod_cast divideToEven_le r.1 r.2
    push_cast at this
    exact this.trans (by gcongr; exact Nat.cast_div_le)
  have unit_pos : (0 : ℚ) < 2 ^ e := by positivity
  calc (divideToEven r.1 r.2 : ℚ) * 2 ^ e ≤ ((r.1 : ℚ) / r.2 + 1) * 2 ^ e := by gcongr
    _ = (num : ℚ) / den + 2 ^ e := by
      rw [scaled]
      field_simp
    _ ≤ 2 ^ k + 2 ^ k := by gcongr
    _ = 2 ^ (k + 1) := by ring

/-- A unit above one is not above the ratio. -/
theorem unitExponent_fits {num den : Nat} (above : den ≤ num) (positive : 0 < den)
    (up : 0 < unitExponent .double num den) :
    den * 2 ^ (unitExponent .double num den).toNat ≤ num := by
  have nonzero : num ≠ 0 := by omega
  have few : (unitExponent .double num den).toNat + (den.log2 + 1) ≤ num.log2 := by
    unfold unitExponent at up ⊢
    dsimp only [Format.double] at up ⊢
    split_ifs at up ⊢ <;> omega
  have wide : den < 2 ^ (den.log2 + 1) := (Nat.log2_lt positive.ne').mp (Nat.lt_succ_self _)
  calc den * 2 ^ (unitExponent .double num den).toNat
      ≤ 2 ^ (den.log2 + 1) * 2 ^ (unitExponent .double num den).toNat :=
        Nat.mul_le_mul_right _ wide.le
    _ = 2 ^ ((unitExponent .double num den).toNat + (den.log2 + 1)) := by
      rw [← pow_add, add_comm]
    _ ≤ 2 ^ num.log2 := Nat.pow_le_pow_right (by norm_num) few
    _ ≤ num := Nat.log2_self_le nonzero

/-- A ratio that is not below one is not rounded below it. -/
theorem ofRatio_large {s : Bool} {num den : Nat} (positive : 0 < den) (above : den ≤ num)
    (finite : (ofRatio .double s num den).isFinite = true) :
    1 ≤ (ofRatio .double s num den).size := by
  rw [ofRatio_size (by omega) finite]
  have fits := @unitExponent_fits num den above positive
  generalize unitExponent .double num den = e at fits ⊢
  obtain ⟨scaled_pos, -⟩ := @scaleRatio_value num den positive e
  have below := div_le_divideToEven (scaleRatio num den e).1 (scaleRatio num den e).2
  rcases le_or_gt e 0 with down | up
  · -- One is a whole number of units.
    have enough : 2 ^ (-e).toNat ≤ (scaleRatio num den e).1 / (scaleRatio num den e).2 := by
      rw [Nat.le_div_iff_mul_le scaled_pos]
      unfold scaleRatio
      split_ifs with zero
      · obtain rfl : e = 0 := by omega
        simpa [twoTo] using above
      · rw [mul_comm]
        exact Nat.mul_le_mul_right _ above
    have units : ((2 ^ (-e).toNat : ℕ) : ℚ) ≤
        divideToEven (scaleRatio num den e).1 (scaleRatio num den e).2 := by
      exact_mod_cast enough.trans below
    calc (1 : ℚ) = ((2 ^ (-e).toNat : ℕ) : ℚ) * 2 ^ e := by
          push_cast
          rw [← zpow_natCast, Int.toNat_of_nonneg (by omega), ← zpow_add₀ (by norm_num)]
          simp
      _ ≤ _ := by gcongr
  · -- There is at least one unit, and it is above one.
    have enough : 1 ≤ (scaleRatio num den e).1 / (scaleRatio num den e).2 := by
      rw [Nat.le_div_iff_mul_le scaled_pos, one_mul]
      unfold scaleRatio
      rw [if_pos up.le]
      exact fits up
    have units : (1 : ℚ) ≤ divideToEven (scaleRatio num den e).1 (scaleRatio num den e).2 := by
      exact_mod_cast enough.trans below
    calc (1 : ℚ) ≤ 2 ^ e := one_le_zpow₀ (by norm_num) up.le
      _ ≤ divideToEven (scaleRatio num den e).1 (scaleRatio num den e).2 * 2 ^ e :=
        le_mul_of_one_le_left (by positivity) units

/-- A rounded number is not a NaN. -/
theorem ofRatio_ne_nan (f : Format) (s : Bool) (num den : Nat) : ofRatio f s num den ≠ .nan := by
  unfold ofRatio
  dsimp only
  split_ifs <;> simp

/-- A quotient by a number that is not below one is finite, if the dividend is small enough. -/
theorem div_bounded {a b : Binary} {k : Nat} (finite : a.isFinite = true)
    (finite' : b.isFinite = true) (few : k ≤ 1022) (small : a.size ≤ 2 ^ k) (large : 1 ≤ b.size) :
    (a.div .double b).isFinite = true ∧ (a.div .double b).size ≤ 2 ^ (k + 1) := by
  cases a with
  | finite s m e =>
    cases b with
    | finite t n d =>
      obtain ⟨dividend_pos, dividend⟩ := ratioOf_value m e
      obtain ⟨divisor_pos, divisor⟩ := ratioOf_value n d
      have nonzero : n ≠ 0 := by
        rintro rfl
        norm_num [size] at large
      have top_pos : 0 < (ratioOf n d).1 := by
        have : (0 : ℚ) < (ratioOf n d).1 / (ratioOf n d).2 := by
          rw [divisor]
          positivity
        rcases Nat.eq_zero_or_pos (ratioOf n d).1 with zero | top_pos
        · simp [zero] at this
        · exact top_pos
      unfold div
      dsimp only
      rw [if_neg nonzero]
      refine ofRatio_bounded _ (Nat.mul_pos dividend_pos top_pos) few ?_
      have quotient : ((ratioOf m e).1 * (ratioOf n d).2 : ℚ) / ((ratioOf m e).2 * (ratioOf n d).1) =
          (m * 2 ^ e) / (n * 2 ^ d) := by
        rw [← dividend, ← divisor]
        field_simp
      push_cast
      rw [quotient]
      have positive : (0 : ℚ) ≤ m * 2 ^ e := by positivity
      exact (div_le_self positive large).trans small
    | _ => cases finite'
  | _ => cases finite

end Binary

end SchemaSeed.Number
