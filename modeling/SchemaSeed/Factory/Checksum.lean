import SchemaSeed.Number.Printed

/-!
Numbers written as decimal digits, and the digits that are added to them so that a slip of the pen
is found: the check digit of payment cards and the two check digits of bank account numbers.
-/

set_option autoImplicit false
set_option relaxedAutoImplicit false

namespace SchemaSeed.Factory

/-- Decimal digits from the first to the last. -/
abbrev Digits := List (Fin 10)

namespace Digits

/-- The number that some digits denote. -/
def value (ds : Digits) : Nat := ds.foldl (fun n d => 10 * n + d.val) 0

/-- The digits as text. -/
def print (ds : Digits) : String := String.ofList (ds.map fun d => Char.ofNat (48 + d.val))

/-- The remainder by 97, digit by digit. -/
def remainder97 (ds : Digits) : Nat := ds.foldl (fun r d => (10 * r + d.val) % 97) 0

/-- A digit doubled, its two digits added where there are two. -/
def doubled (d : Fin 10) : Nat := if 9 < 2 * d.val then 2 * d.val - 9 else 2 * d.val

/-- The sum of some digits, every second of them doubled, the first one if so asked. -/
def weightedSum : Bool → Digits → Nat
  | _, [] => 0
  | true, d :: ds => doubled d + weightedSum false ds
  | false, d :: ds => d.val + weightedSum true ds

/-- The digit to be appended to the number of a card: with it, the sum from the right with every
second digit doubled is a multiple of ten. -/
def cardCheckDigit (ds : Digits) : Fin 10 :=
  ⟨(10 - weightedSum true ds.reverse % 10) % 10, Nat.mod_lt _ (by decide)⟩

/-- The digit that card numbers start with. -/
def cardStart : Fin 10 := 4

/-- The digits of the letters `DE`, as thirteen and fourteen, and of two open check digits. -/
def germanTail : Digits := [1, 3, 1, 4, 0, 0]

/-- The number from which the check digits of a German account are told. -/
def accountCheck (ds : Digits) : Nat := 98 - remainder97 (ds ++ germanTail)

/-- A German account number: the country, two check digits, bank and account. -/
def printAccount (ds : Digits) : String :=
  "DE" ++ Number.padded 2 (accountCheck ds) ++ ds.print

end Digits

end SchemaSeed.Factory
