import Mathlib
import SchemaSeed.Json.Printed

/-!
Which characters numbers are written with.
-/

set_option autoImplicit false
set_option relaxedAutoImplicit false

namespace SchemaSeed.Number

/-- A character of a number: a digit, a sign, a point, or a letter of an exponent or of one of the
words for what is not finite. -/
def isNumberChar (c : Char) : Bool :=
  c.isDigit || ['+', '-', '.', 'e', 'i', 'n', 'f', 'N', 'a'].contains c

/-- A text of such characters. -/
def IsNumberText (s : String) : Prop := s.toList.all isNumberChar = true

instance (s : String) : Decidable (IsNumberText s) :=
  inferInstanceAs (Decidable (s.toList.all isNumberChar = true))

namespace IsNumberText

variable {s t : String}

theorem append (first : IsNumberText s) (second : IsNumberText t) : IsNumberText (s ++ t) := by
  unfold IsNumberText at first second ⊢
  rw [String.toList_append, List.all_append, first, second]
  rfl

theorem of_sublist {cs : List Char} (text : IsNumberText s) (part : cs.Sublist s.toList) :
    IsNumberText (String.ofList cs) := by
  unfold IsNumberText at text ⊢
  rw [String.toList_ofList]
  rw [List.all_eq_true] at text ⊢
  exact fun c member => text c (part.subset member)

theorem natural (n : Nat) : IsNumberText (toString n) := by
  unfold IsNumberText
  rw [Nat.toString_eq_ofList_toDigits, String.toList_ofList, List.all_eq_true]
  intro c member
  have digit : c.isDigit = true := Nat.isDigit_of_mem_toDigits (by decide) (by decide) member
  unfold isNumberChar
  rw [digit, Bool.true_or]

theorem integer (n : Int) : IsNumberText (toString n) := by
  cases n with
  | ofNat n => exact natural n
  | negSucc n =>
    have minus : IsNumberText "-" := by decide
    exact minus.append (natural (n + 1))

private theorem zeros (n : Nat) : IsNumberText (String.ofList (List.replicate n '0')) := by
  unfold IsNumberText
  rw [String.toList_ofList, List.all_eq_true]
  intro c member
  rw [List.eq_of_mem_replicate member]
  decide

theorem padZeros (width : Nat) (text : IsNumberText s) : IsNumberText (padZeros width s) :=
  (zeros _).append text

private theorem writePlain (d : Decimal) : IsNumberText (writePlain d) := by
  unfold Number.writePlain
  dsimp only
  split
  · exact ((natural _).append (zeros _)).append (by decide)
  · have whole := padZeros ((-d.exponent).toNat + 1) (natural d.digits)
    exact ((whole.of_sublist (List.take_sublist _ _)).append (by decide)).append
      (whole.of_sublist (List.drop_sublist _ _))

private theorem writeScientific (d : Decimal) : IsNumberText (writeScientific d) := by
  have digits := natural d.digits
  unfold Number.writeScientific
  dsimp only
  refine IsNumberText.append (.append (.append (digits.of_sublist (List.take_sublist _ _)) ?_) ?_)
    (natural _)
  · split
    · decide
    · have point : IsNumberText "." := by decide
      exact point.append (digits.of_sublist (List.drop_sublist _ _))
  · split <;> decide

theorem binary (f : Format) (b : Binary) : IsNumberText (b.print f) := by
  cases b with
  | finite s m e =>
    refine .append (by cases s <;> decide) ?_
    split
    · decide
    · unfold writeDecimal
      dsimp only
      split
      · exact writePlain _
      · exact writeScientific _
  | infinite s =>
    cases s with
    | true => exact (by decide : IsNumberText "-inf")
    | false => exact (by decide : IsNumberText "inf")
  | nan => exact (by decide : IsNumberText "NaN")

end IsNumberText

end SchemaSeed.Number

namespace SchemaSeed

open Number

/-- Numbers of JSON are written with characters of numbers. -/
theorem JsonNumber.isNumberText_print (n : JsonNumber) : IsNumberText n.print := by
  cases n with
  | integer n => exact .integer n
  | float b => exact .binary .double b

end SchemaSeed
