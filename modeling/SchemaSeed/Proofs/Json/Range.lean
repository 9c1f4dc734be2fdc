import Mathlib
import SchemaSeed.Proofs.Json.Record
import SchemaSeed.Proofs.Number.Magnitude

/-!
The numbers of a text. An integer that is read is one of 64 bits, signed or unsigned, and a
floating-point number that is read is finite: what is beyond is rounded or refused. So it is for all
numbers in the tree of a text, however deep they are.
-/

set_option autoImplicit false
set_option relaxedAutoImplicit false

namespace SchemaSeed

open SchemaSeed.Number

/-- The numbers that JSON texts stand for. -/
def JsonNumber.InRange : JsonNumber → Prop
  | .integer n => -2 ^ 63 ≤ n ∧ n < 2 ^ 64
  | .float b => b.isFinite = true

namespace JsonTree

/-! Floating-point numbers. -/

/-- The powers of ten that numbers are scaled by are in the format. -/
private theorem powerOfTen_large {n : Nat} (listed : n ≤ 308) :
    (powerOfTen n).isFinite = true ∧ 1 ≤ (powerOfTen n).size := by
  have rounded : powerOfTen n = Binary.ofRatio .double false (1 * tenTo n) 1 := by
    unfold powerOfTen Binary.ofDecimal
    rw [if_neg (by decide), if_neg (by omega), if_neg (by omega), if_pos (by omega), Int.toNat_natCast]
  have above : 1 ≤ 1 * tenTo n := by
    have := tenTo_pos n
    omega
  have finite : (powerOfTen n).isFinite = true := by
    rcases Nat.lt_or_eq_of_le listed with inside | rfl
    · have bound : tenTo n ≤ 2 ^ 1020 :=
        calc tenTo n ≤ tenTo 307 := tenTo_le_tenTo (by omega)
          _ ≤ 2 ^ 1020 := by decide +kernel
      rw [rounded]
      refine (Binary.ofRatio_bounded false Nat.one_pos (k := 1020) (by decide) ?_).1
      rw [Nat.cast_one, div_one, one_mul]
      exact_mod_cast bound
    · -- The last one is too near to the largest number for the bound.
      decide +kernel
  rw [rounded] at finite ⊢
  exact ⟨finite, Binary.ofRatio_large Nat.one_pos above finite⟩

/-- Scaling ends in a finite number or in none. Each division may double the bound. -/
private theorem scaleDown_finite {fuel k : Nat} {b scaled : Binary} {exponent : Int}
    (finite : b.isFinite = true) (small : b.size ≤ 2 ^ k) (few : k + fuel ≤ 1022)
    (done : scaleDown fuel b exponent = some scaled) : scaled.isFinite = true := by
  induction fuel generalizing k b exponent with
  | zero =>
    unfold scaleDown at done
    rw [← Option.some.inj done]
    exact finite
  | succ fuel ih =>
    unfold scaleDown at done
    by_cases near : exponent.natAbs ≤ 308
    · rw [if_pos near] at done
      by_cases up : 0 ≤ exponent
      · -- A product that is too large is refused, so only the quotients need the bound.
        rw [if_pos up] at done
        have power := (powerOfTen_large (n := exponent.toNat) (by omega)).1
        cases b with
        | finite s m e =>
          cases same : powerOfTen exponent.toNat with
          | finite t n d =>
            rw [same] at done
            unfold Binary.mul at done
            dsimp only at done
            have number := Binary.ofRatio_ne_nan .double (s != t) (Binary.ratioOf (m * n) (e + d)).1
              (Binary.ratioOf (m * n) (e + d)).2
            cases product : Binary.ofRatio .double (s != t) (Binary.ratioOf (m * n) (e + d)).1
              (Binary.ratioOf (m * n) (e + d)).2 with
            | finite _ _ _ =>
              rw [product] at done
              rw [← Option.some.inj done]
              rfl
            | infinite _ =>
              rw [product] at done
              cases done
            | nan => exact absurd product number
          | _ =>
            rw [same] at power
            cases power
        | _ => cases finite
      · rw [if_neg up] at done
        obtain ⟨power, large⟩ := powerOfTen_large near
        rw [← Option.some.inj done]
        exact (Binary.div_bounded finite power (by omega) small large).1
    · rw [if_neg near] at done
      obtain ⟨power, large⟩ := powerOfTen_large (n := 308) le_rfl
      obtain ⟨finite', small'⟩ := Binary.div_bounded finite power (by omega) small large
      split at done
      · rw [← Option.some.inj done]
        rfl
      · split_ifs at done with up
        exact ih finite' small' (by omega) done

theorem neg_isFinite (b : Binary) : b.neg.isFinite = b.isFinite := by
  cases b <;> rfl

/-- Significands that are kept are rounded to finite numbers. -/
private theorem ofRatio_finite (negative : Bool) {significand : Nat}
    (kept : significand ≤ maxSignificand) :
    (Binary.ofRatio .double negative significand 1).isFinite = true ∧
      (Binary.ofRatio .double negative significand 1).size ≤ 2 ^ 65 := by
  have bound : significand ≤ 2 ^ 64 := by
    have : maxSignificand < 2 ^ 64 := by decide
    omega
  refine Binary.ofRatio_bounded negative Nat.one_pos (k := 64) (by norm_num) ?_
  rw [Nat.cast_one, div_one]
  exact_mod_cast bound

private theorem floatOfParts_inRange {negative : Bool} {significand : Nat} {exponent : Int}
    {n : JsonNumber} (kept : significand ≤ maxSignificand)
    (read : floatOfParts negative significand exponent = .ok n) : n.InRange := by
  unfold floatOfParts at read
  dsimp only at read
  by_cases tiny : exponent < -700
  · rw [if_pos tiny] at read
    rw [← Except.ok.inj read]
    rfl
  · rw [if_neg tiny] at read
    obtain ⟨finite, small⟩ := ofRatio_finite false kept
    split at read
    · rename_i b scaled
      have finite := scaleDown_finite finite small (by norm_num) scaled
      rw [← Except.ok.inj read]
      cases negative with
      | true => exact (neg_isFinite b).trans finite
      | false => exact finite
    · cases read

/-! Integers. -/

/-- The digits that are taken are those of a number of 64 bits. -/
private theorem takeSignificand_le {start : Nat} (kept : start ≤ maxSignificand) (digits : List Char) :
    (takeSignificand start digits).1 ≤ maxSignificand := by
  induction digits generalizing start with
  | nil => exact kept
  | cons c rest ih =>
    unfold takeSignificand
    dsimp only
    split_ifs with beyond
    · exact kept
    · exact ih (not_lt.mp beyond)

private theorem integerNumber_inRange (negative : Bool) {n : Nat} (kept : n ≤ maxSignificand) :
    (integerNumber negative n).InRange := by
  have largest : maxSignificand = 2 ^ 64 - 1 := by decide
  have half : twoTo 63 = 2 ^ 63 := by decide
  unfold integerNumber
  split_ifs with sign beyond
  · exact (ofRatio_finite true kept).1
  · change -2 ^ 63 ≤ -(n : Int) ∧ -(n : Int) < 2 ^ 64
    omega
  · change -2 ^ 63 ≤ (n : Int) ∧ (n : Int) < 2 ^ 64
    omega

/-! Numbers in a text. -/

/-- What a piece of text gives for a number is in range, unless it is a fault. -/
private def NumberRead (result : Except Break (Except SyntaxFault JsonNumber × List Char)) : Prop :=
  ∀ n rest, result = .ok (.ok n, rest) → n.InRange

private theorem numberRead_exponent {negative : Bool} {significand : Nat} {scale : Int → Int}
    {text : List Char} (kept : significand ≤ maxSignificand) :
    NumberRead ((readExponent text).map fun found =>
      (floatOfParts negative significand (scale found.1), found.2)) := by
  intro n rest read
  cases exponent : readExponent text with
  | error b =>
    rw [exponent] at read
    cases read
  | ok found =>
    rw [exponent] at read
    obtain ⟨float, -⟩ := Prod.mk.inj (Except.ok.inj read)
    exact floatOfParts_inRange kept float

private theorem numberRead_float {negative : Bool} {significand : Nat} {exponent : Int}
    {text : List Char} (kept : significand ≤ maxSignificand) :
    NumberRead (.ok (floatOfParts negative significand exponent, text)) := by
  intro n rest read
  obtain ⟨float, -⟩ := Prod.mk.inj (Except.ok.inj read)
  exact floatOfParts_inRange kept float

private theorem numberRead_integer (negative : Bool) {significand : Nat} {text : List Char}
    (kept : significand ≤ maxSignificand) :
    NumberRead (.ok (.ok (integerNumber negative significand), text)) := by
  intro n rest read
  obtain ⟨integer, -⟩ := Prod.mk.inj (Except.ok.inj read)
  rw [← Except.ok.inj integer]
  exact integerNumber_inRange negative kept

private theorem numberRead_error (b : Break) : NumberRead (.error b) := by
  intro n rest read
  cases read

private theorem finishNumber_read {negative : Bool} {significand dropped : Nat} {text : List Char}
    (kept : significand ≤ maxSignificand) :
    NumberRead (finishNumber negative significand dropped text) := by
  unfold finishNumber
  split
  · rename_i more
    dsimp only
    have kept := takeSignificand_le kept (more.takeWhile Char.isDigit)
    by_cases none : (more.takeWhile Char.isDigit).isEmpty = true
    · rw [if_pos none]
      exact numberRead_error _
    · rw [if_neg none]
      split
      · split_ifs
        · exact numberRead_exponent kept
        · exact numberRead_float kept
      · exact numberRead_float kept
  · split_ifs
    · exact numberRead_exponent kept
    · exact numberRead_integer negative kept
    · exact numberRead_float kept
  · split_ifs
    · exact numberRead_integer negative kept
    · exact numberRead_float kept

/-- A number of a text is in range. -/
theorem readNumber_inRange {negative : Bool} {text rest : List Char} {n : JsonNumber}
    (read : readNumber negative text = .ok (.ok n, rest)) : n.InRange := by
  have all : NumberRead (readNumber negative text) := by
    have zero : 0 ≤ maxSignificand := Nat.zero_le _
    unfold readNumber
    split
    · exact numberRead_error _
    · split
      · split_ifs
        · exact numberRead_error _
        · exact finishNumber_read zero
      · exact finishNumber_read zero
    · split_ifs
      · exact finishNumber_read (takeSignificand_le zero _)
      · exact numberRead_error _
  exact all n rest read

/-! Trees. -/

/-- All numbers in a tree are in range. -/
inductive InRange : JsonTree → Prop
  | intro {t : JsonTree} (number : ∀ n, t = .number (.ok n) → n.InRange)
    (below : ∀ t' ∈ t.children, InRange t') : InRange t

/-- A tree that is neither a number nor made of others. -/
private theorem inRange_leaf {t : JsonTree} (other : ∀ n, t ≠ .number (.ok n))
    (none : t.children = []) : t.InRange := by
  refine .intro (fun n same => absurd same (other n)) ?_
  rw [none]
  exact fun t' member => absurd member List.not_mem_nil

private theorem inRange_broken (b : Break) : (JsonTree.broken b).InRange :=
  inRange_leaf nofun rfl

private theorem inRange_number {negative : Bool} {text rest : List Char}
    {n : Except SyntaxFault JsonNumber} (read : readNumber negative text = .ok (n, rest)) :
    (JsonTree.number n).InRange := by
  refine .intro ?_ nofun
  intro m same
  obtain rfl := JsonTree.number.inj same
  exact readNumber_inRange read

private theorem inRange_array {depth : Nat} {items : List JsonTree} {ending : Option Break}
    (all : ∀ item ∈ items, item.InRange) : (JsonTree.array depth items ending).InRange :=
  .intro nofun all

private theorem inRange_object {depth : Nat}
    {members : List (Except SyntaxFault String × JsonTree)} {ending : Option Break}
    (all : ∀ member ∈ members, member.2.InRange) :
    (JsonTree.object depth members ending).InRange :=
  .intro nofun (List.forall_mem_map.mpr all)

/-- One step further, a reader that has read numbers in range so far has done so again. -/
private theorem readValue_step {fuel : Nat}
    (items : ∀ depth first text, ∀ item ∈ (readItems fuel depth first text).1, item.InRange)
    (members : ∀ depth first text, ∀ member ∈ (readMembers fuel depth first text).1,
      member.2.InRange) (depth : Nat) (text : List Char) :
    (readValue (fuel + 1) depth text).1.InRange := by
  unfold readValue
  dsimp only
  split
  · exact inRange_broken _
  · rename_i c rest _
    split_ifs
    · split
      · exact inRange_leaf nofun rfl
      · exact inRange_broken _
    · exact inRange_array (items (depth + 1) true rest)
    · exact inRange_object (members (depth + 1) true rest)
    · split
      · rename_i read
        exact inRange_number read
      · exact inRange_broken _
    · split
      · rename_i read
        exact inRange_number read
      · exact inRange_broken _
    all_goals
      first
      | exact inRange_broken _
      | split
        · exact inRange_leaf nofun rfl
        · exact inRange_broken _

private theorem readItems_step {fuel : Nat}
    (values : ∀ depth text, (readValue fuel depth text).1.InRange)
    (items : ∀ depth first text, ∀ item ∈ (readItems fuel depth first text).1, item.InRange)
    (depth : Nat) (first : Bool) (text : List Char) :
    ∀ item ∈ (readItems (fuel + 1) depth first text).1, item.InRange := by
  unfold readItems
  dsimp only
  split
  · simp
  · rename_i c rest _
    by_cases closed : c = ']'
    · simp [closed]
    rw [if_neg closed]
    by_cases unseparated : (!first && decide (c ≠ ',')) = true
    · rw [if_pos unseparated]
      simp
    rw [if_neg unseparated]
    generalize (if first = true then c :: rest else skipSpace rest) = start
    split
    · simp
    · have value := values depth start
      split
      · rename_i item same
        rw [same] at value
        simpa using value
      · rename_i item after same
        rw [same] at value
        exact List.forall_mem_cons.mpr ⟨value, items depth false after⟩

private theorem readMembers_step {fuel : Nat}
    (values : ∀ depth text, (readValue fuel depth text).1.InRange)
    (members : ∀ depth first text, ∀ member ∈ (readMembers fuel depth first text).1,
      member.2.InRange) (depth : Nat) (first : Bool) (text : List Char) :
    ∀ member ∈ (readMembers (fuel + 1) depth first text).1, member.2.InRange := by
  unfold readMembers
  dsimp only
  split
  · simp
  · rename_i c rest _
    by_cases closed : c = '\x7d'
    · simp [closed]
    rw [if_neg closed]
    by_cases unseparated : (!first && decide (c ≠ ',')) = true
    · rw [if_pos unseparated]
      simp
    rw [if_neg unseparated]
    generalize (if first = true then c :: rest else skipSpace rest) = start
    split
    · simp
    · simp
    · split
      · simp
      · split
        · rename_i value _
          have here := values depth value
          split
          · rename_i item same
            rw [same] at here
            simpa using here
          · rename_i item after same
            rw [same] at here
            exact List.forall_mem_cons.mpr ⟨here, members depth false after⟩
        · simpa using inRange_broken _
        · simpa using inRange_broken _
    · simp

private theorem read_inRange (fuel : Nat) :
    (∀ depth text, (readValue fuel depth text).1.InRange) ∧
      (∀ depth first text, ∀ item ∈ (readItems fuel depth first text).1, item.InRange) ∧
      ∀ depth first text, ∀ member ∈ (readMembers fuel depth first text).1, member.2.InRange := by
  induction fuel with
  | zero =>
    refine ⟨fun depth text => inRange_broken _, ?_, ?_⟩
    · intro depth first text
      unfold readItems
      simp
    · intro depth first text
      unfold readMembers
      simp
  | succ fuel ih =>
    obtain ⟨values, items, members⟩ := ih
    exact ⟨readValue_step items members, readItems_step values items,
      readMembers_step values members⟩

/-- All numbers in the tree of a text are in range. -/
theorem ofText_inRange (text : String) : (ofText text).tree.InRange := by
  have value := (read_inRange (2 * text.toList.length + 2)).1 0 text.toList
  unfold ofText
  dsimp only
  split
  · rename_i same
    rw [same] at value
    exact value
  · rename_i same
    rw [same] at value
    exact value

/-- A number that is read from a tree is in range if the numbers in the tree are. -/
theorem InRange.number {t : JsonTree} {n : JsonNumber} (all : t.InRange)
    (read : t.read = .ok (.number n)) : n.InRange := by
  obtain ⟨number, -⟩ := all
  exact number n (eq_ofJson_of_read read trivial)

theorem InRange.child {t t' : JsonTree} (all : t.InRange) (below : t' ∈ t.children) : t'.InRange := by
  obtain ⟨-, each⟩ := all
  exact each t' below

end JsonTree

end SchemaSeed
