import SchemaSeed.Number.Binary

/-!
A reproducible source of random words: the ChaCha stream with twelve rounds, under a key that a
64-bit seed is spread to.

The state of the cipher is a square of sixteen words. Its rows are kept as such, so that one
operation on rows is the same operation on four columns at a time, and a diagonal round is a column
round between two turns of the rows.
-/

set_option autoImplicit false
set_option relaxedAutoImplicit false

namespace SchemaSeed.Factory

open SchemaSeed.Number

/-- Four words of the cipher's square. -/
structure WordRow where
  w0 : UInt32
  w1 : UInt32
  w2 : UInt32
  w3 : UInt32
  deriving DecidableEq, Repr

namespace WordRow

/-- The words in order. -/
def toList (r : WordRow) : List UInt32 := [r.w0, r.w1, r.w2, r.w3]

/-- Works on two rows word by word. -/
def zip (f : UInt32 → UInt32 → UInt32) (r s : WordRow) : WordRow :=
  ⟨f r.w0 s.w0, f r.w1 s.w1, f r.w2 s.w2, f r.w3 s.w3⟩

/-- The row that starts one word later. -/
def turn (r : WordRow) : WordRow := ⟨r.w1, r.w2, r.w3, r.w0⟩

private def rotateLeft (n : UInt32) (w : UInt32) : UInt32 := (w <<< n) ||| (w >>> (32 - n))

/-- Mixes the words of one row into those of another and rotates them. -/
def mix (n : UInt32) (r s : WordRow) : WordRow := zip (fun a b => rotateLeft n (a ^^^ b)) r s

/-- Adds the words of two rows. -/
def add (r s : WordRow) : WordRow := zip (· + ·) r s

end WordRow

/-- The cipher's square. -/
structure WordSquare where
  r0 : WordRow
  r1 : WordRow
  r2 : WordRow
  r3 : WordRow
  deriving DecidableEq, Repr

namespace WordSquare

/-- The words in order. -/
def toList (s : WordSquare) : List UInt32 :=
  s.r0.toList ++ s.r1.toList ++ s.r2.toList ++ s.r3.toList

/-- Stirs the four columns. -/
def columnRound (s : WordSquare) : WordSquare :=
  let a := s.r0.add s.r1
  let d := s.r3.mix 16 a
  let c := s.r2.add d
  let b := s.r1.mix 12 c
  let a := a.add b
  let d := d.mix 8 a
  let c := c.add d
  let b := b.mix 7 c
  ⟨a, b, c, d⟩

/-- Moves the diagonals into the columns. -/
def slant (s : WordSquare) : WordSquare :=
  ⟨s.r0, s.r1.turn, s.r2.turn.turn, s.r3.turn.turn.turn⟩

/-- Moves the columns back into the diagonals. -/
def unslant (s : WordSquare) : WordSquare :=
  ⟨s.r0, s.r1.turn.turn.turn, s.r2.turn.turn, s.r3.turn⟩

/-- Stirs the columns and then the diagonals. -/
def doubleRound (s : WordSquare) : WordSquare := s.columnRound.slant.columnRound.unslant

/-- Stirs so many times. -/
def stir : Nat → WordSquare → WordSquare
  | 0, s => s
  | n + 1, s => stir n s.doubleRound

/-- The block that a square yields. -/
def block (s : WordSquare) : List UInt32 :=
  let t := stir 6 s
  (WordSquare.mk (s.r0.add t.r0) (s.r1.add t.r1) (s.r2.add t.r2) (s.r3.add t.r3)).toList

end WordSquare

/-- A random source: the key, the number of the next block, and the words of the current block that
have not been drawn yet. -/
structure RandomSource where
  key : WordRow × WordRow
  nextBlock : UInt64 := 0
  pending : List UInt32 := []
  deriving DecidableEq, Repr

namespace RandomSource

private def seedStep (state : UInt64) : UInt64 := state * 6364136223846793005 + 11634580027462260723

private def seedWord (state : UInt64) : UInt32 :=
  let folded := (((state >>> 18) ^^^ state) >>> 27).toUInt32
  let turns := (state >>> 59).toUInt32
  (folded >>> turns) ||| (folded <<< ((32 - turns) % 32))

private def seedWords : Nat → UInt64 → List UInt32
  | 0, _ => []
  | n + 1, state => seedWord (seedStep state) :: seedWords n (seedStep state)

/-- The source of a seed. -/
def seeded (seed : UInt64) : RandomSource :=
  match seedWords 8 seed with
  | [a, b, c, d, e, f, g, h] => { key := (⟨a, b, c, d⟩, ⟨e, f, g, h⟩) }
  | _ => { key := (⟨0, 0, 0, 0⟩, ⟨0, 0, 0, 0⟩) }

/-- The square of a block: a constant, the key and the number of the block. -/
def square (s : RandomSource) : WordSquare :=
  ⟨⟨0x61707865, 0x3320646e, 0x79622d32, 0x6b206574⟩, s.key.1, s.key.2,
    ⟨s.nextBlock.toUInt32, (s.nextBlock >>> 32).toUInt32, 0, 0⟩⟩

/-- The next word and the source after it. -/
def next (s : RandomSource) : UInt32 × RandomSource :=
  match s.pending with
  | w :: rest => (w, { s with pending := rest })
  | [] =>
    match s.square.block with
    | w :: rest => (w, { s with nextBlock := s.nextBlock + 1, pending := rest })
    | [] => (0, s)

end RandomSource

/-- A value that is drawn from a random source. -/
abbrev Draw := StateM RandomSource

namespace Draw

/-- A word of 32 bits. -/
def word : Draw UInt32 := RandomSource.next

/-- A word of 64 bits, the low half first. -/
def wideWord : Draw UInt64 := do
  let low ← word
  let high ← word
  return low.toUInt64 ||| (high.toUInt64 <<< 32)

/-- A word of 32 bits as a number. -/
def bits32 : Draw (BitVec 32) := do return (← word).toBitVec

/-- A word of 64 bits as a number. -/
def bits64 : Draw (BitVec 64) := do return (← wideWord).toBitVec

/-- A byte. -/
def byte : Draw UInt8 := do return (← word).toUInt8

/-- A truth value. -/
def coin : Draw Bool := do return (← bits32).msb

/-- So many values one after another. -/
def times {α : Type} : Nat → Draw α → Draw (List α)
  | 0, _ => return []
  | n + 1, draw => do
    let first ← draw
    return first :: (← times n draw)

/-- A number below `n`: the high half of a word times `n`. The word is drawn again as long as the low
half is above the zone, which makes the numbers equally likely; each draw is accepted with a chance
of at least one half, and the bound on their number is never met in practice. -/
def scaled {w : Nat} (bits : Draw (BitVec w)) (n zone : Nat) (h : 0 < n) : Nat → Draw (Fin n)
  | 0 => return ⟨0, h⟩
  | tries + 1 => do
    let v ← bits
    if v.toNat * n % twoTo w ≤ zone then
      return ⟨v.toNat * n / twoTo w,
        Nat.div_lt_of_lt_mul (Nat.mul_lt_mul_of_pos_right v.isLt h)⟩
    else scaled bits n zone h tries

/-- How often a draw is repeated at most. -/
def maxTries : Nat := 1000

/-- The zone that is a power of two times `n`. -/
def shiftedZone (width n : Nat) : Nat := n * twoTo (width - 1 - Nat.log2 n) - 1

/-- A number below `n`, from words of 32 bits. -/
def below (n : Nat) (h : 0 < n := by decide) : Draw (Fin n) :=
  scaled bits32 n (shiftedZone 32 n) h maxTries

/-- A number below `n`, from words of 64 bits. -/
def belowWide (n : Nat) (h : 0 < n := by decide) : Draw (Fin n) :=
  scaled bits64 n (shiftedZone 64 n) h maxTries

/-- A number below `n`, which is at most 256, with the largest zone there is. -/
def belowSmall (n : Nat) (h : 0 < n := by decide) : Draw (Fin n) :=
  scaled bits32 n (twoTo 32 - 1 - (twoTo 32 - n) % n) h maxTries

/-- The number of integers between two bounds is positive. -/
theorem span_pos {lo hi : Int} (h : lo ≤ hi) : 0 < (hi - lo + 1).toNat := by omega

/-- An integer between two bounds. -/
def between (lo hi : Int) (h : lo ≤ hi := by decide) : Draw Int := do
  return lo + ((← below (hi - lo + 1).toNat (span_pos h)).val : Int)

/-- An integer between two bounds, from words of 64 bits. -/
def betweenWide (lo hi : Int) (h : lo ≤ hi := by decide) : Draw Int := do
  return lo + ((← belowWide (hi - lo + 1).toNat (span_pos h)).val : Int)

/-- One of the members of a list. -/
def pick {α : Type} (l : List α) (h : 0 < l.length := by decide) : Draw α := do
  return l.get (← belowWide l.length h)

/-- The letters in upper case, those in lower case and the digits, counted from zero. -/
def letterOrDigit (n : Nat) : Char :=
  if n < 26 then Char.ofNat (65 + n)
  else if n < 52 then Char.ofNat (71 + n)
  else Char.ofNat (n - 4)

/-- A letter or digit, drawn so many times at most. -/
def alphanumericWithin : Nat → Draw Char
  | 0 => return 'A'
  | tries + 1 => do
    let n := ((← word) >>> 26).toNat
    if n < 62 then return letterOrDigit n else alphanumericWithin tries

/-- A letter or digit: the top six bits of a word, drawn again when they are too large. -/
def alphanumeric : Draw Char := alphanumericWithin maxTries

/-- The largest fraction that is drawn: all 52 bits set. -/
def largestFraction : Binary := .ofRatio .double false (twoTo 52 - 1) (twoTo 52)

/-- A fraction of 52 bits. -/
def fraction : Draw Binary := do
  return .ofRatio .double false ((← wideWord) >>> 12).toNat (twoTo 52)

/-- `f * scale + lo`, each step rounded. -/
def along (lo scale f : Binary) : Binary := (f.mul .double scale).add .double lo

/-- The largest scale, downwards from a first one, with which no fraction leads beyond `hi`. -/
def fittingScale (lo hi : Binary) : Nat → Binary → Binary
  | 0, scale => scale
  | tries + 1, scale =>
    if (along lo scale largestFraction).gt hi then fittingScale lo hi tries (scale.stepToZero .double)
    else scale

/-- A number between two bounds. -/
def betweenReal (lo hi : Int) : Draw Binary := do
  let low := Binary.ofInt .double lo
  let high := Binary.ofInt .double hi
  let scale := (high.add .double low.neg).div .double largestFraction
  return along low (fittingScale low high maxTries scale) (← fraction)

end Draw

end SchemaSeed.Factory
