/-!
Powers of two, the numbers of words of so many bits, and powers of ten, the weights of decimal places.
-/

set_option autoImplicit false
set_option relaxedAutoImplicit false

namespace SchemaSeed.Number

/-- The number of words of so many bits. -/
def twoTo (bits : Nat) : Nat := Nat.pow 2 bits

/-- The number of texts of so many decimal digits. -/
def tenTo (digits : Nat) : Nat := Nat.pow 10 digits

/-- One more bit doubles the number of words. -/
theorem twoTo_succ (bits : Nat) : twoTo (bits + 1) = twoTo bits * 2 := rfl

/-- One more digit makes ten texts of each. -/
theorem tenTo_succ (digits : Nat) : tenTo (digits + 1) = tenTo digits * 10 := rfl

/-- There is a word of any width. -/
theorem twoTo_pos (bits : Nat) : 0 < twoTo bits := Nat.pow_pos (by decide)

/-- There is a text of any number of digits. -/
theorem tenTo_pos (digits : Nat) : 0 < tenTo digits := Nat.pow_pos (by decide)

end SchemaSeed.Number
