import SchemaSeed.Number.Power

/-!
Texts written with letters, digits and hyphens alone. The basic characters of a text come first; the
others follow as numbers that tell, in the order of their codes, where each of them is to be put in.
The numbers have digits of base 36 and end by a threshold that follows the numbers before.
-/

set_option autoImplicit false
set_option relaxedAutoImplicit false

namespace SchemaSeed.Url

open SchemaSeed.Number

namespace Punycode

/-- The number of digits. -/
def base : Nat := 36

/-- The first code that is not basic. -/
def firstCode : Nat := 0x80

/-- The bias before the first number. -/
def firstBias : Nat := 72

/-- Numbers stay below this. -/
def limit : Nat := twoTo 32

/-- The value of a digit: letters in any case come before the decimal digits. -/
def digitValue? (c : Char) : Option Nat :=
  if 'a' ≤ c ∧ c ≤ 'z' then some (c.toNat - 97)
  else if 'A' ≤ c ∧ c ≤ 'Z' then some (c.toNat - 65)
  else if c.isDigit then some (c.toNat - 48 + 26)
  else none

/-- The digit of a value. -/
def digitChar (n : Nat) : Char := if n < 26 then Char.ofNat (97 + n) else Char.ofNat (22 + n)

/-- The threshold at a place of a number, which counts in steps of the base. -/
def threshold (place bias : Nat) : Nat :=
  if place ≤ bias then 1 else if bias + 26 ≤ place then 26 else place - bias

private def shrink : Nat → Nat → Nat → Nat × Nat
  | 0, delta, steps => (delta, steps)
  | fuel + 1, delta, steps => if 455 < delta then shrink fuel (delta / 35) (steps + base) else (delta, steps)

/-- The bias after a number of a size, when so many characters are written. -/
def adapt (delta count : Nat) (isFirst : Bool) : Nat :=
  let delta := if isFirst then delta / 700 else delta / 2
  let (delta, steps) := shrink 32 (delta + delta / count) 0
  steps + base * delta / (delta + 38)

/-- What is known while numbers are read. -/
structure Reading where
  text : List Nat
  code : Nat := firstCode
  index : Nat := 0
  bias : Nat := firstBias

/-- What is known in the middle of a number: where it began to count, the weight of the next digit and
its place. -/
structure Digits where
  start : Nat
  weight : Nat := 1
  place : Nat := base

private def isCode (n : Nat) : Bool := n < 0xD800 || (0xDFFF < n && n < 0x110000)

/-- Puts in the next character when a number has ended. -/
def Reading.put (r : Reading) (start : Nat) : Option Reading :=
  let count := r.text.length + 1
  let code := r.code + r.index / count
  let place := r.index % count
  if isCode code then
    some ⟨r.text.insertIdx place code, code, place + 1, adapt (r.index - start) count (start = 0)⟩
  else none

/-- Reads digits. A text cannot end in the middle of a number. -/
def readDigits (r : Reading) (d : Option Digits) : List Char → Option (List Nat)
  | [] => if d.isNone then some r.text else none
  | c :: rest => do
    let d := d.getD ⟨r.index, 1, base⟩
    let digit ← digitValue? c
    let r := { r with index := r.index + digit * d.weight }
    if limit ≤ r.index then none
    else
      let t := threshold d.place r.bias
      if digit < t then readDigits (← r.put d.start) none rest
      else
        let weight := d.weight * (base - t)
        if limit ≤ weight then none
        else readDigits r (some ⟨d.start, weight, d.place + base⟩) rest

/-- The text that a written form stands for. The last hyphen that is not the first character ends the
basic characters. -/
def decode? (written : List Char) : Option (List Char) :=
  let digits := (written.reverse.takeWhile (· ≠ '-')).reverse
  let basic := written.take (written.length - digits.length - 1)
  if !basic.all fun c => c.toNat < firstCode then none
  else
    let digits := if basic.isEmpty then written else digits
    (readDigits { text := basic.map Char.toNat } none digits).map fun cs => cs.map Char.ofNat

/-- The digits of a number. -/
def writeNumber : Nat → Nat → Nat → Nat → List Char
  | 0, _, _, _ => []
  | fuel + 1, n, place, bias =>
    let t := threshold place bias
    if n < t then [digitChar n]
    else
      digitChar (t + (n - t) % (base - t)) ::
        writeNumber fuel ((n - t) / (base - t)) (place + base) bias

/-- What is known while numbers are written. -/
structure Writing where
  written : List Char
  delta : Nat := 0
  bias : Nat := firstBias
  /-- The number of characters that are written. -/
  count : Nat

private def passOver (isFirst : Bool) (code : Nat) (w : Writing) (c : Nat) : Writing :=
  if c < code then { w with delta := w.delta + 1 }
  else if c = code then
    ⟨w.written ++ writeNumber (w.delta + 1) w.delta base w.bias, 0,
      adapt w.delta (w.count + 1) (isFirst && w.written.isEmpty), w.count + 1⟩
  else w

private def writeCodes (text : List Nat) (next : Nat) (w : Writing) : List Nat → Writing
  | [] => w
  | code :: rest =>
    let w := { w with delta := w.delta + (code - next) * (w.count + 1) }
    let w := text.foldl (passOver (next = firstCode) code) w
    writeCodes text (code + 1) { w with delta := w.delta + 1 } rest

/-- The written form of a text. -/
def encode (text : List Char) : List Char :=
  let basic := text.filter fun c => c.toNat < firstCode
  let codes := ((text.filter fun c => firstCode ≤ c.toNat).map Char.toNat).mergeSort.eraseDups
  let start : Writing := { written := [], count := basic.length }
  (if basic.isEmpty then [] else basic ++ ['-']) ++
    (writeCodes (text.map Char.toNat) firstCode start codes).written

end Punycode

end SchemaSeed.Url
