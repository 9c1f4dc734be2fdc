import SchemaSeed.Number.Power

/-!
Binary floating-point numbers as exact values: a finite one is a signed significand times a power
of two, and every operation is an exact result followed by one rounding to nearest, ties to even.
-/

set_option autoImplicit false
set_option relaxedAutoImplicit false

namespace SchemaSeed.Number

/-- The shape of a binary format: significands of at most `precision` bits, counted in units of
two to an exponent between `minExponent` and `maxExponent`. -/
structure Format where
  precision : Nat
  minExponent : Int
  maxExponent : Int
  deriving DecidableEq, Repr

/-- The 64-bit format. -/
def Format.double : Format := ⟨53, -1074, 971⟩

/-- The 32-bit format. -/
def Format.single : Format := ⟨24, -149, 104⟩

/-- A binary floating-point number. -/
inductive Binary where
  /-- The value `significand * 2 ^ exponent`, or its negative. -/
  | finite (negative : Bool) (significand : Nat) (exponent : Int)
  | infinite (negative : Bool)
  | nan
  deriving DecidableEq, Repr, Inhabited

namespace Binary

/-- `num / den` rounded to a whole number, a tie to the even neighbour. -/
def divideToEven (num den : Nat) : Nat :=
  let q := num / den
  let twice := 2 * (num % den)
  if twice < den then q else if den < twice then q + 1 else if q % 2 = 0 then q else q + 1

/-- `num / den / 2 ^ exponent` as a pair of whole numbers. -/
def scaleRatio (num den : Nat) (exponent : Int) : Nat × Nat :=
  if 0 ≤ exponent then (num, den * twoTo exponent.toNat) else (num * twoTo (-exponent).toNat, den)

/-- The exponent of the unit in which `num / den` has as many bits as the format holds. -/
def unitExponent (f : Format) (num den : Nat) : Int :=
  let guess : Int := (Nat.log2 num : Int) - (Nat.log2 den : Int) - (f.precision - 1 : Nat)
  let scaled := scaleRatio num den guess
  let exact := if scaled.1 / scaled.2 < twoTo (f.precision - 1) then guess - 1 else guess
  max exact f.minExponent

/-- The number of a format nearest to `num / den`, ties to even; beyond the largest it is
infinite. -/
def ofRatio (f : Format) (negative : Bool) (num den : Nat) : Binary :=
  if num = 0 then .finite negative 0 f.minExponent
  else
    let e := unitExponent f num den
    let scaled := scaleRatio num den e
    let m := divideToEven scaled.1 scaled.2
    let (m, e) := if m = twoTo f.precision then (twoTo (f.precision - 1), e + 1) else (m, e)
    if f.maxExponent < e then .infinite negative else .finite negative m e

/-- A power of two times a significand as a pair of whole numbers. -/
def ratioOf (significand : Nat) (exponent : Int) : Nat × Nat :=
  if 0 ≤ exponent then (significand * twoTo exponent.toNat, 1)
  else (significand, twoTo (-exponent).toNat)

/-- The nearest number to an integer. -/
def ofInt (f : Format) (n : Int) : Binary := ofRatio f (n < 0) n.natAbs 1

/-- The nearest number to `digits * 10 ^ exponent`. Magnitudes far outside the format are decided
without computing the power. -/
def ofDecimal (f : Format) (negative : Bool) (digits : Nat) (exponent : Int) : Binary :=
  if digits = 0 then .finite negative 0 f.minExponent
  else if 400 < exponent then .infinite negative
  else if exponent + ((Nat.log2 digits : Int) + 1) < -400 then .finite negative 0 f.minExponent
  else if 0 ≤ exponent then ofRatio f negative (digits * tenTo exponent.toNat) 1
  else ofRatio f negative digits (tenTo (-exponent).toNat)

/-- The nearest number of a format to a number of any format. -/
def convert (f : Format) : Binary → Binary
  | .finite s m e => let r := ratioOf m e; ofRatio f s r.1 r.2
  | other => other

/-- Whether the number is neither infinite nor a NaN. -/
def isFinite : Binary → Bool
  | .finite .. => true
  | _ => false

/-- The number with the other sign. -/
def neg : Binary → Binary
  | .finite s m e => .finite (!s) m e
  | .infinite s => .infinite (!s)
  | .nan => .nan

/-- The rounded product of two finite numbers; there is none of others. -/
def mul (f : Format) : Binary → Binary → Binary
  | .finite s m e, .finite t n d =>
    let r := ratioOf (m * n) (e + d)
    ofRatio f (s != t) r.1 r.2
  | _, _ => .nan

/-- The rounded quotient of two finite numbers, the divisor not zero. -/
def div (f : Format) : Binary → Binary → Binary
  | .finite s m e, .finite t n d =>
    if n = 0 then .nan
    else
      let a := ratioOf m e
      let b := ratioOf n d
      ofRatio f (s != t) (a.1 * b.2) (a.2 * b.1)
  | _, _ => .nan

private def signedUnits (s : Bool) (m : Nat) (shift : Nat) : Int :=
  let units : Int := m * twoTo shift
  if s then -units else units

/-- The rounded sum of two finite numbers; an exact zero is negative only if both terms are. -/
def add (f : Format) : Binary → Binary → Binary
  | .finite s m e, .finite t n d =>
    let low := min e d
    let total := signedUnits s m (e - low).toNat + signedUnits t n (d - low).toNat
    let r := ratioOf total.natAbs low
    ofRatio f (if total = 0 then s && t else decide (total < 0)) r.1 r.2
  | _, _ => .nan

/-- Whether the first of two finite numbers is the larger. -/
def gt : Binary → Binary → Bool
  | .finite s m e, .finite t n d =>
    let low := min e d
    signedUnits t n (d - low).toNat < signedUnits s m (e - low).toNat
  | _, _ => false

/-- The nearest whole number, halves away from zero. -/
def roundHalfAway (f : Format) : Binary → Binary
  | .finite s m e =>
    if 0 ≤ e then .finite s m e
    else
      let den := twoTo (-e).toNat
      ofRatio f s ((2 * m + den) / (2 * den)) 1
  | other => other

/-- The next smaller magnitude of the format, for a finite number. -/
def stepToZero (f : Format) : Binary → Binary
  | .finite s m e =>
    if m = 0 then .finite s 0 e
    else if m = twoTo (f.precision - 1) ∧ f.minExponent < e then .finite s (twoTo f.precision - 1) (e - 1)
    else .finite s (m - 1) e
  | other => other

/-- The whole part, clamped to the signed 64-bit range; zero for a NaN. -/
def toInt64 : Binary → Int
  | .finite s m e =>
    let r := ratioOf m e
    let whole := r.1 / r.2
    if s then -(min whole (twoTo 63) : Nat) else (min whole (twoTo 63 - 1) : Nat)
  | .infinite s => if s then -(twoTo 63 : Int) else twoTo 63 - 1
  | .nan => 0

/-- Equality of values: the zeros are equal, a NaN equals nothing. -/
def same : Binary → Binary → Bool
  | .finite s m e, .finite t n d => (m == 0 && n == 0) || (s == t && m == n && e == d)
  | .infinite s, .infinite t => s == t
  | _, _ => false

end Binary

end SchemaSeed.Number
