import SchemaSeed.Number.Shortest

/-!
How numbers are written: integers in decimal, floating-point numbers with the fewest digits that
read back, always recognisable by a point or an exponent.
-/

set_option autoImplicit false
set_option relaxedAutoImplicit false

namespace SchemaSeed.Number

/-- Where plain notation ends: the least and the first too large decimal exponent of a leading
digit that is still written without an exponent. -/
structure PlainRange where
  least : Int
  first : Int

/-- Magnitudes from 0.00001 up to but not including 1e16 are written plainly. -/
def plainRange : PlainRange := ⟨-5, 16⟩

/-- A text with zeros put in front up to a length. -/
def padZeros (width : Nat) (s : String) : String :=
  String.ofList (List.replicate (width - s.length) '0') ++ s

/-- The decimal digits of a number, padded with zeros to a width. -/
def padded (width n : Nat) : String := padZeros width (toString n)

/-- A decimal without an exponent, with at least one digit on both sides of the point. -/
def writePlain (d : Decimal) : String :=
  let ds := toString d.digits
  if 0 ≤ d.exponent then ds ++ String.ofList (List.replicate d.exponent.toNat '0') ++ ".0"
  else
    let places := (-d.exponent).toNat
    let cs := (padZeros (places + 1) ds).toList
    String.ofList (cs.take (cs.length - places)) ++ "." ++
      String.ofList (cs.drop (cs.length - places))

/-- A decimal as one digit, a fraction if there are more, and a signed exponent. -/
def writeScientific (d : Decimal) : String :=
  let cs := (toString d.digits).toList
  let e := d.exponent + (cs.length - 1 : Nat)
  let fraction := if cs.length ≤ 1 then "" else "." ++ String.ofList (cs.drop 1)
  String.ofList (cs.take 1) ++ fraction ++ (if e < 0 then "e-" else "e+") ++ toString e.natAbs

/-- A decimal in the notation that its magnitude asks for. -/
def writeDecimal (d : Decimal) : String :=
  let leading := d.exponent + ((toString d.digits).length - 1 : Nat)
  if plainRange.least ≤ leading && leading < plainRange.first then writePlain d
  else writeScientific d

/-- The text of a floating-point number of a format. -/
def Binary.print (f : Format) : Binary → String
  | .finite s m e =>
    (if s then "-" else "") ++ (if m = 0 then "0.0" else writeDecimal (shortest f m e))
  | .infinite s => if s then "-inf" else "inf"
  | .nan => "NaN"

/-- The lower-case hexadecimal digit of a number below 16. -/
def hexDigit (n : Nat) : Char := if n < 10 then Char.ofNat (48 + n) else Char.ofNat (87 + n)

/-- Lower-case hexadecimal digits, at least `width` of them. -/
def hexPadded (width n : Nat) : String :=
  padZeros width (String.ofList (Nat.toDigits 16 n))

/-- The value of a hexadecimal digit of either case. -/
def hexValue? (c : Char) : Option Nat :=
  if c.isDigit then some (c.toNat - 48)
  else if 'a' ≤ c ∧ c ≤ 'f' then some (c.toNat - 87)
  else if 'A' ≤ c ∧ c ≤ 'F' then some (c.toNat - 55)
  else none

end SchemaSeed.Number
