import SchemaSeed.Number.Binary

/-!
The shortest decimal that reads back as a given binary number.

The reals that round to a number form an interval. On each decimal grid, from the coarsest, the two
neighbours of the value are tried; the first grid with a neighbour inside the interval gives the
fewest digits, and of two neighbours the nearer is taken.
-/

set_option autoImplicit false
set_option relaxedAutoImplicit false

namespace SchemaSeed.Number

/-- The decimal `digits * 10 ^ exponent`. -/
structure Decimal where
  digits : Nat
  exponent : Int
  deriving DecidableEq, Repr

/-- The reals that round to one number, in quarters of its unit: `low / den` to `high / den` around
`value / den`, with the ends included or not. -/
structure RoundingInterval where
  low : Nat
  value : Nat
  high : Nat
  den : Nat
  closed : Bool
  deriving DecidableEq, Repr

namespace RoundingInterval

/-- The interval of `significand * 2 ^ exponent`. Below a power of two the gap is half as wide. -/
def of (f : Format) (significand : Nat) (exponent : Int) : RoundingInterval :=
  let narrow := significand = twoTo (f.precision - 1) ∧ f.minExponent < exponent
  let low := if narrow then 4 * significand - 1 else 4 * significand - 2
  let scale : Nat × Nat := Binary.ratioOf 1 (exponent - 2)
  ⟨low * scale.1, 4 * significand * scale.1, (4 * significand + 2) * scale.1, scale.2,
    significand % 2 == 0⟩

/-- Whether `num / den` of a grid point lies in the interval. -/
def contains (i : RoundingInterval) (num den : Nat) : Bool :=
  let x := num * i.den
  if i.closed then i.low * den ≤ x && x ≤ i.high * den else i.low * den < x && x < i.high * den

/-- A neighbour of the value on the grid of step `10 ^ exponent` that lies in the interval. -/
def onGrid? (i : RoundingInterval) (exponent : Int) : Option Nat :=
  let up := tenTo exponent.toNat
  let down := tenTo (-exponent).toNat
  let below := i.value * down / (i.den * up)
  let above := below + 1
  let inBelow := 0 < below && i.contains (below * up) down
  let inAbove := i.contains (above * up) down
  if inBelow && inAbove then
    let twice := 2 * (i.value * down)
    let middle := (below + above) * up * i.den
    if twice < middle then some below
    else if middle < twice then some above
    else if below % 2 = 0 then some below else some above
  else if inBelow then some below
  else if inAbove then some above
  else none

/-- The first grid, from `exponent` downwards, that has a point in the interval. -/
def search (i : RoundingInterval) : Nat → Int → Decimal
  | 0, exponent => ⟨i.value * tenTo (-exponent).toNat / (i.den * tenTo exponent.toNat), exponent⟩
  | fuel + 1, exponent =>
    match i.onGrid? exponent with
    | some digits => ⟨digits, exponent⟩
    | none => search i fuel (exponent - 1)

end RoundingInterval

/-- The decimal with the fewest digits that rounds to `significand * 2 ^ exponent`, and among those
the nearest. The search starts above the value and ends within the digits that always suffice. -/
def shortest (f : Format) (significand : Nat) (exponent : Int) : Decimal :=
  let bits : Int := (Nat.log2 significand : Int) + exponent
  let start := bits * 30103 / 100000 + 2
  (RoundingInterval.of f significand exponent).search 24 start

end SchemaSeed.Number
