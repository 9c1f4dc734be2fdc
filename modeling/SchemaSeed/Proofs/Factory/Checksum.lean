import Mathlib
import SchemaSeed.Factory.Generator
import SchemaSeed.Proofs.Factory.Shape

/-!
Numbers that tell a slip of the pen. The check digit of a card number is the only one that makes the
sum of the card's digits a multiple of ten, and no other number is one digit away from a valid one;
the check digits of an account number make the number that is formed of it leave one by 97. Made-up
cards and accounts carry these digits, whatever is drawn for them.
-/

set_option autoImplicit false
set_option relaxedAutoImplicit false

namespace SchemaSeed.Factory

open SchemaSeed.Sql SchemaSeed.Calendar SchemaSeed.Number

namespace Digits

/-! ### Digits as text -/

private theorem ofNat_eq_digitChar (d : Fin 10) : Char.ofNat (48 + d.val) = d.val.digitChar := by
  revert d
  decide

theorem toList_print (ds : Digits) : ds.print.toList = ds.map fun d => d.val.digitChar := by
  unfold print
  rw [String.toList_ofList]
  exact List.map_congr_left fun d _ => ofNat_eq_digitChar d

theorem length_print (ds : Digits) : ds.print.length = ds.length := (ConsistsOf.print ds).1

/-- The digits of a number below a hundred, the first one also when it is zero. -/
def pair (n : Nat) : Digits :=
  [⟨n / 10 % 10, Nat.mod_lt _ (by decide)⟩, ⟨n % 10, Nat.mod_lt _ (by decide)⟩]

private theorem padded_eq_print {n : Nat} (small : n < 100) : padded 2 n = (pair n).print := by
  have tens : n / 10 % 10 = n / 10 := Nat.mod_eq_of_lt (by omega)
  apply String.toList_injective
  rw [toList_print]
  unfold padded padZeros pair
  rw [Nat.toString_eq_ofList_toDigits, String.toList_append, String.toList_ofList,
    String.toList_ofList, String.length_ofList, Nat.toDigits_eq_if (by decide)]
  split
  · rename_i single
    have none : n / 10 = 0 := Nat.div_eq_of_lt single
    simp [none, Nat.mod_eq_of_lt single]
  · rw [Nat.toDigits_eq_if (by decide), if_pos (by omega)]
    simp [tens]

/-! ### Account numbers -/

theorem value_append (ds es : Digits) :
    (ds ++ es).value = es.foldl (fun n d => 10 * n + d.val) ds.value := List.foldl_append

private theorem foldl_remainder (n : Nat) (ds : Digits) :
    ds.foldl (fun r d => (10 * r + d.val) % 97) (n % 97) =
      ds.foldl (fun n d => 10 * n + d.val) n % 97 := by
  induction ds generalizing n with
  | nil => rfl
  | cons d rest ih =>
    have one : (10 * (n % 97) + d.val) % 97 = (10 * n + d.val) % 97 := by omega
    rw [List.foldl_cons, List.foldl_cons, one, ih]

/-- The remainder that is taken digit by digit is that of the whole number. -/
theorem remainder97_eq (ds : Digits) : ds.remainder97 = ds.value % 97 := foldl_remainder 0 ds

/-- The letters `DE`, as thirteen and fourteen, without the open check digits behind them. -/
def germany : Digits := germanTail.take 4

/-- The check digits of an account. -/
def accountDigits (ds : Digits) : Digits := pair ds.accountCheck

private theorem accountCheck_bounds (ds : Digits) : 2 ≤ ds.accountCheck ∧ ds.accountCheck ≤ 98 := by
  have less : remainder97 (ds ++ germanTail) < 97 := by
    rw [remainder97_eq]
    exact Nat.mod_lt _ (by decide)
  unfold accountCheck
  omega

theorem printAccount_eq (ds : Digits) :
    ds.printAccount = "DE" ++ ds.accountDigits.print ++ ds.print := by
  have bounds := accountCheck_bounds ds
  unfold printAccount accountDigits
  rw [padded_eq_print (by omega)]

private theorem value_pair {n : Nat} (small : n < 100) (ds : Digits) :
    (ds ++ pair n).value = 100 * ds.value + n := by
  rw [value_append]
  change 10 * (10 * ds.value + n / 10 % 10) + n % 10 = _
  omega

/-- The account, the country and the check digits leave one: what the open digits lack to 98 is put
into their place. -/
theorem value_account (ds : Digits) : (ds ++ germany ++ ds.accountDigits).value % 97 = 1 := by
  have bounds := accountCheck_bounds ds
  have checked : (ds ++ germany ++ ds.accountDigits).value =
      100 * (ds ++ germany).value + ds.accountCheck := value_pair (by omega) _
  -- The remainder was taken with zeros in the place of the check digits.
  have left : remainder97 (ds ++ germanTail) = 100 * (ds ++ germany).value % 97 := by
    have open_ : (ds ++ germanTail).value = 100 * (ds ++ germany).value := by
      have zeros : ds ++ germanTail = ds ++ germany ++ pair 0 :=
        (List.append_assoc ds germany (pair 0)).symm
      rw [zeros, value_pair (by decide), Nat.add_zero]
    rw [remainder97_eq, open_]
  unfold accountCheck at checked bounds
  omega

/-! ### Card numbers -/

/-- What a digit counts at a place, which is counted from zero at the right: at every second place
it is doubled, and reduced by nine when that is above nine. -/
def counted (place : Nat) (d : Fin 10) : Nat :=
  if place % 2 = 1 then (if 9 < 2 * d.val then 2 * d.val - 9 else 2 * d.val) else d.val

/-- The sum of what the digits count, from the right. -/
def cardSum (ds : Digits) : Nat := (ds.reverse.mapIdx counted).sum

/-- A number whose sum is a multiple of ten. -/
def IsCardNumber (ds : Digits) : Prop := ds.cardSum % 10 = 0

instance (ds : Digits) : Decidable ds.IsCardNumber :=
  inferInstanceAs (Decidable (ds.cardSum % 10 = 0))

private theorem counted_add_two (place : Nat) : counted (place + 2) = counted place := by
  funext d
  unfold counted
  rw [Nat.add_mod_right]

/-- The two weighted sums are those that start at a place to be doubled and at one to be left. -/
private theorem weightedSum_eq (ds : Digits) :
    weightedSum true ds = (ds.mapIdx fun place => counted (place + 1)).sum ∧
      weightedSum false ds = (ds.mapIdx counted).sum := by
  -- Each of the two sums goes on with the other one, so that neither is enough for an induction.
  induction ds with
  | nil => exact ⟨rfl, rfl⟩
  | cons d rest ih =>
    rw [List.mapIdx_cons, List.mapIdx_cons, List.sum_cons, List.sum_cons]
    refine ⟨?_, congrArg (d.val + ·) ih.1⟩
    change doubled d + weightedSum false rest = doubled d + _
    rw [ih.2]
    simp only [Nat.add_assoc, Nat.reduceAdd, counted_add_two]

/-- The last digit counts as it is, and puts all others one place further. -/
theorem cardSum_append (ds : Digits) (last : Fin 10) :
    cardSum (ds ++ [last]) = last.val + weightedSum true ds.reverse := by
  unfold cardSum
  rw [List.reverse_append, List.reverse_singleton, List.singleton_append, List.mapIdx_cons,
    List.sum_cons, (weightedSum_eq _).1]
  rfl

theorem isCardNumber_append_iff (ds : Digits) (last : Fin 10) :
    IsCardNumber (ds ++ [last]) ↔ last = ds.cardCheckDigit := by
  have small := last.isLt
  unfold IsCardNumber cardCheckDigit
  rw [cardSum_append, Fin.ext_iff]
  dsimp only
  omega

/-- Doubling and reducing permutes the digits, so that digits which count alike are alike. -/
private theorem counted_injective {place : Nat} {d e : Fin 10}
    (same : counted place d % 10 = counted place e % 10) : d = e := by
  unfold counted at same
  split at same
  · revert d e
    decide
  · exact Fin.ext (by omega)

/-- The place of a digit is the number of digits behind it, and the others count the same whatever
it is. -/
private theorem cardSum_split (before after : Digits) : ∃ others, ∀ d : Fin 10,
    cardSum (before ++ d :: after) = others + counted after.length d := by
  refine ⟨(after.reverse.mapIdx counted).sum +
    (before.reverse.mapIdx fun place => counted (place + 1 + after.length)).sum, fun d => ?_⟩
  unfold cardSum
  rw [List.reverse_append, List.reverse_cons, List.append_assoc, List.mapIdx_append,
    List.sum_append, List.singleton_append, List.mapIdx_cons, List.sum_cons, List.length_reverse, Nat.zero_add]
  omega

/-- Two numbers that differ in one digit are not both numbers of cards. -/
theorem IsCardNumber.eq_of_split {before after : Digits} {d e : Fin 10}
    (valid : IsCardNumber (before ++ d :: after)) (valid' : IsCardNumber (before ++ e :: after)) :
    d = e := by
  obtain ⟨others, sum⟩ := cardSum_split before after
  unfold IsCardNumber at valid valid'
  rw [sum] at valid valid'
  have same : counted after.length d % 10 = counted after.length e % 10 := by omega
  exact counted_injective same

end Digits

/-! ### Made-up cards and accounts -/

/-- Sixteen digits of a card, a four in front and the right check digit at the end. -/
def IsCard (s : String) : Prop :=
  ∃ number : Digits, s = number.print ∧ number.length = 16 ∧ number.head? = some Digits.cardStart ∧
    number.IsCardNumber

/-- An account of eighteen digits behind the country and the right check digits. -/
def IsAccount (s : String) : Prop :=
  ∃ check account : Digits, s = "DE" ++ check.print ++ account.print ∧ check.length = 2 ∧
    account.length = 18 ∧ (account ++ Digits.germany ++ check).value % 97 = 1

namespace Draw

theorem ofTag_creditCard_gives (now : Instant) :
    Gives (ofTag now .creditCard) fun v => ∃ s, v = .text s ∧ IsCard s := by
  have card : Gives creditCard fun number => IsCard number.print :=
    (digits_gives 14).made fun ds length => ⟨_, rfl, by simp [length], rfl,
      (Digits.isCardNumber_append_iff _ _).mpr rfl⟩
  exact card.made fun number holds => ⟨number.print, rfl, holds⟩

theorem ofTag_iban_gives (now : Instant) :
    Gives (ofTag now .iban) fun v => ∃ s, v = .text s ∧ IsAccount s :=
  (digits_gives 18).made fun account length => ⟨account.printAccount, rfl, account.accountDigits,
    account, account.printAccount_eq, rfl, length, account.value_account⟩

end Draw

/-- The generator draws a value of the kind that a word stands for. -/
theorem generator_eq {word : String} {tag : Tag} (known : Tag.ofText? word = some tag)
    (now : Instant) : generator now word = Draw.ofTag now tag := by
  unfold generator
  rw [known]

/-- The remainder that is taken digit by digit is that of the number which the digits denote, and a
made-up account number consists of the country, two check digits and eighteen digits, of which the
number that is formed with the country behind the account and the check digits at the end leaves one
by 97. -/
theorem account_numbers_valid :
    (∀ ds : Digits, ds.remainder97 = ds.value % 97) ∧
      ∀ word : String, Tag.ofText? word = some .iban →
        ∀ (now : Instant) (source : RandomSource), ∃ (check account : Digits) (text : String),
          ((generator now word).run source).1 = .text text ∧
            text = "DE" ++ check.print ++ account.print ∧ text.length = 22 ∧
            check.length = 2 ∧ account.length = 18 ∧
            (account ++ ([1, 3, 1, 4] : Digits) ++ check).value % 97 = 1 := by
  refine ⟨Digits.remainder97_eq, fun word known now source => ?_⟩
  rw [generator_eq known]
  obtain ⟨text, made, check, account, printed, two, eighteen, valid⟩ :=
    Draw.ofTag_iban_gives now source
  refine ⟨check, account, text, made, printed, ?_, two, eighteen, valid⟩
  rw [printed, String.length_append, String.length_append, Digits.length_print,
    Digits.length_print, two, eighteen]
  rfl

/-- Check digits below ten are written with a zero in front. -/
theorem account_with_small_check :
    Tag.ofText? " IBAN " = some .iban ∧
      ((generator ⟨0, 0⟩ " IBAN ").run (.seeded 15)).1.text? = some "DE04868276993468818356" ∧
      ∃ check account : Digits, "DE04868276993468818356" = "DE" ++ check.print ++ account.print ∧
        (account ++ ([1, 3, 1, 4] : Digits) ++ check).value % 97 = 1 := by
  have known : Tag.ofText? " IBAN " = some .iban := by cbv
  have told : ((generator ⟨0, 0⟩ " IBAN ").run (.seeded 15)).1.text? =
      some "DE04868276993468818356" := by decide +kernel
  obtain ⟨check, account, text, made, shown, -, -, -, valid⟩ :=
    account_numbers_valid.2 " IBAN " known ⟨0, 0⟩ (.seeded 15)
  refine ⟨known, told, check, account, ?_, valid⟩
  rw [made] at told
  exact (Option.some.inj told).symm.trans shown

/-- A number with one more digit is that of a card exactly if this is the check digit, a number with
its check digit is no longer one when any of its digits is changed, and a made-up card has sixteen
digits, a four in front, and the right check digit. -/
theorem card_numbers_valid :
    (∀ (ds : Digits) (last : Fin 10),
      Digits.IsCardNumber (ds ++ [last]) ↔ last = ds.cardCheckDigit) ∧
    (∀ (ds before after : Digits) (d e : Fin 10),
      ds ++ [ds.cardCheckDigit] = before ++ d :: after → e ≠ d →
        ¬ Digits.IsCardNumber (before ++ e :: after)) ∧
    ∀ word : String, Tag.ofText? word = some .creditCard →
      ∀ (now : Instant) (source : RandomSource), ∃ number : Digits,
        ((generator now word).run source).1 = .text number.print ∧ number.length = 16 ∧
          number.head? = some 4 ∧ number.IsCardNumber := by
  refine ⟨Digits.isCardNumber_append_iff, fun ds before after d e parts other valid => ?_,
    fun word known now source => ?_⟩
  · have right : Digits.IsCardNumber (before ++ d :: after) := by
      rw [← parts, Digits.isCardNumber_append_iff]
    exact other (valid.eq_of_split right)
  · rw [generator_eq known]
    obtain ⟨text, made, number, rfl, valid⟩ := Draw.ofTag_creditCard_gives now source
    exact ⟨number, made, valid⟩

/-- The digits zero and nine count as themselves where they are doubled, and are told apart. -/
theorem card_with_zeros :
    let number : Digits := [4, 2, 2, 5, 7, 7, 8, 6, 1, 2, 4, 5, 8, 3, 9, 0]
    Tag.ofText? "Credit_Card" = some .creditCard ∧
      ((generator ⟨0, 0⟩ "Credit_Card").run (.seeded 11)).1.text? = some number.print ∧
      (∃ made : Digits, made.print = number.print ∧ made.length = 16 ∧ made.IsCardNumber) ∧
      ¬ Digits.IsCardNumber [4, 2, 2, 5, 7, 7, 8, 6, 1, 2, 4, 5, 8, 3, 0, 0] := by
  intro number
  have known : Tag.ofText? "Credit_Card" = some .creditCard := by cbv
  have told : ((generator ⟨0, 0⟩ "Credit_Card").run (.seeded 11)).1.text? = some number.print := by
    decide +kernel
  refine ⟨known, told, ?_, ?_⟩
  · obtain ⟨made, shown, length, -, valid⟩ :=
      card_numbers_valid.2.2 "Credit_Card" known ⟨0, 0⟩ (.seeded 11)
    rw [shown] at told
    exact ⟨made, Option.some.inj told, length, valid⟩
  · exact card_numbers_valid.2.1 [4, 2, 2, 5, 7, 7, 8, 6, 1, 2, 4, 5, 8, 3, 9]
      [4, 2, 2, 5, 7, 7, 8, 6, 1, 2, 4, 5, 8, 3] [0] 9 0 (by decide) (by decide)

end SchemaSeed.Factory
