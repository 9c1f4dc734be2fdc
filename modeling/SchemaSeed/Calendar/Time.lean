import SchemaSeed.Number.Printed
import SchemaSeed.Number.Decimal

/-!
Times of a day, to the nanosecond. A second of a thousand million nanoseconds and more is a leap
second: it is written as the sixtieth.
-/

set_option autoImplicit false
set_option relaxedAutoImplicit false

namespace SchemaSeed.Calendar

open SchemaSeed.Number

/-- A time of a day. -/
structure Time where
  hour : Nat
  minute : Nat
  second : Nat
  nanosecond : Nat
  deriving DecidableEq, Repr, Inhabited

namespace Time

/-- A point and three, six or nine digits, the fewest that are exact; nothing for a whole second. -/
def printFraction (nanosecond : Nat) : String :=
  if nanosecond = 0 then ""
  else if nanosecond % 1000000 = 0 then "." ++ padded 3 (nanosecond / 1000000)
  else if nanosecond % 1000 = 0 then "." ++ padded 6 (nanosecond / 1000)
  else "." ++ padded 9 nanosecond

/-- Hours, minutes and seconds joined by colons, then the fraction. -/
def print (t : Time) : String :=
  let leap := 1000000000 ≤ t.nanosecond
  let second := if leap then t.second + 1 else t.second
  let fraction := if leap then t.nanosecond - 1000000000 else t.nanosecond
  padded 2 t.hour ++ ":" ++ padded 2 t.minute ++ ":" ++ padded 2 second ++ printFraction fraction

/-- The time without the part below a microsecond. -/
def toMicroseconds (t : Time) : Time :=
  { t with nanosecond := t.nanosecond / 1000 * 1000 }

/-- The digits of a fraction as nanoseconds; digits past the ninth do not count. -/
def fractionOf (digits : List Char) : Nat :=
  let kept := digits.take 9
  digitsValue 0 kept * tenTo (9 - kept.length)

/-- A time of a day written as `HH:MM:SS` with an optional fraction. -/
def ofText? (s : String) : Option Time :=
  match (s.splitOn ":").map String.toList with
  | [h, m, rest] =>
    let whole := rest.takeWhile Char.isDigit
    let fraction? : Option Nat := match rest.dropWhile Char.isDigit with
      | [] => some 0
      | '.' :: digits => if digits.all Char.isDigit then some (fractionOf digits) else none
      | _ => none
    match natOfChars? h, natOfChars? m, natOfChars? whole, fraction? with
    | some hour, some minute, some second, some nanosecond =>
      if h.length = 2 ∧ m.length = 2 ∧ whole.length = 2 ∧ hour < 24 ∧ minute < 60 ∧ second < 60 then
        some ⟨hour, minute, second, nanosecond⟩
      else none
    | _, _, _, _ => none
  | _ => none

end Time

end SchemaSeed.Calendar
