import SchemaSeed.Number.Binary

/-!
Reading decimal texts: integers within bounds, and floating-point numbers rounded once.
-/

set_option autoImplicit false
set_option relaxedAutoImplicit false

namespace SchemaSeed.Number

/-- The value of some decimal digits, appended to a value. -/
def digitsValue (start : Nat) (cs : List Char) : Nat :=
  cs.foldl (fun n c => 10 * n + (c.toNat - 48)) start

/-- A non-empty run of decimal digits as a number. -/
def natOfChars? (cs : List Char) : Option Nat :=
  if cs.isEmpty || !cs.all Char.isDigit then none else some (digitsValue 0 cs)

/-- A decimal integer with an optional sign. -/
def intOfChars? : List Char → Option Int
  | '-' :: cs => (natOfChars? cs).map fun n => -(n : Int)
  | '+' :: cs => (natOfChars? cs).map fun n => (n : Int)
  | cs => (natOfChars? cs).map fun n => (n : Int)

/-- A decimal integer with an optional sign, between two bounds. -/
def intWithin? (lo hi : Int) (s : String) : Option Int :=
  (intOfChars? s.toList).filter fun n => decide (lo ≤ n) && decide (n ≤ hi)

/-- A decimal integer of the signed 64-bit range. -/
def int64? (s : String) : Option Int := intWithin? (-(twoTo 63 : Int)) (twoTo 63 - 1) s

/-- A decimal number below a bound, written with an optional plus sign. -/
def natBelow? (bound : Nat) (s : String) : Option Nat :=
  let digits := match s.toList with
    | '+' :: cs => cs
    | cs => cs
  (natOfChars? digits).filter (· < bound)

private def exponentOf? : List Char → Option Int
  | [] => some 0
  | c :: cs => if c = 'e' ∨ c = 'E' then intOfChars? cs else none

private def magnitude? (f : Format) (negative : Bool) (cs : List Char) : Option Binary :=
  let whole := cs.takeWhile Char.isDigit
  let rest := cs.dropWhile Char.isDigit
  let fraction := match rest with
    | '.' :: more => more.takeWhile Char.isDigit
    | _ => []
  let tail := match rest with
    | '.' :: more => more.dropWhile Char.isDigit
    | other => other
  if whole.isEmpty && fraction.isEmpty then none
  else
    (exponentOf? tail).map fun e =>
      Binary.ofDecimal f negative (digitsValue (digitsValue 0 whole) fraction) (e - fraction.length)

private def special? (negative : Bool) (cs : List Char) : Option Binary :=
  match String.ofList (cs.map Char.toLower) with
  | "inf" => some (.infinite negative)
  | "infinity" => some (.infinite negative)
  | "nan" => some .nan
  | _ => none

private def unsigned? (f : Format) (negative : Bool) (cs : List Char) : Option Binary :=
  match special? negative cs with
  | some b => some b
  | none => magnitude? f negative cs

/-- A floating-point number in ordinary decimal notation, or the name of an infinity or a NaN in
any case, correctly rounded to a format. -/
def Binary.ofText? (f : Format) (s : String) : Option Binary :=
  match s.toList with
  | '-' :: cs => unsigned? f true cs
  | '+' :: cs => unsigned? f false cs
  | cs => unsigned? f false cs

end SchemaSeed.Number
