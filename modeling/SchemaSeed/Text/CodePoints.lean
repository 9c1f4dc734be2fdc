/-!
Sets of code points, held as ascending inclusive ranges, and the compact written form in which the
property tables of this library store them.
-/

set_option autoImplicit false
set_option relaxedAutoImplicit false

namespace SchemaSeed.Text

/-- A set of code points: disjoint inclusive ranges in ascending order. -/
structure CodePoints where
  ranges : List (Nat × Nat)
  deriving DecidableEq, Repr, Inhabited

namespace CodePoints

/-- The set without members. -/
def empty : CodePoints := ⟨[]⟩

/-- The single range from `lo` to `hi`, both included. -/
def range (lo hi : Nat) : CodePoints := ⟨[(lo, hi)]⟩

/-- Every code point that a character can have: surrogates are none. -/
def all : CodePoints := ⟨[(0, 0xD7FF), (0xE000, 0x10FFFF)]⟩

private def memRanges (c : Nat) : List (Nat × Nat) → Bool
  | [] => false
  | (lo, hi) :: rest => if c < lo then false else if c ≤ hi then true else memRanges c rest

/-- Membership; the search ends at the first range that lies above `c`. -/
def contains (s : CodePoints) (c : Nat) : Bool := memRanges c s.ranges

private def insertRange (r : Nat × Nat) : List (Nat × Nat) → List (Nat × Nat)
  | [] => [r]
  | q :: rest => if r.1 ≤ q.1 then r :: q :: rest else q :: insertRange r rest

private def mergeFrom (r : Nat × Nat) : List (Nat × Nat) → List (Nat × Nat)
  | [] => [r]
  | q :: rest =>
    if q.1 ≤ r.2 + 1 then mergeFrom (r.1, max r.2 q.2) rest else r :: mergeFrom q rest

/-- The canonical set that has the members of all `ranges`, given in any order. -/
def ofRanges (ranges : List (Nat × Nat)) : CodePoints :=
  match (ranges.filter fun r => r.1 ≤ r.2).mergeSort (fun a b => a.1 ≤ b.1) with
  | [] => empty
  | r :: rest => ⟨mergeFrom r rest⟩

/-- Members of either set. -/
def union (s t : CodePoints) : CodePoints := ofRanges (s.ranges ++ t.ranges)

private def interFuel : Nat → List (Nat × Nat) → List (Nat × Nat) → List (Nat × Nat)
  | 0, _, _ => []
  | _ + 1, [], _ => []
  | _ + 1, _, [] => []
  | fuel + 1, a :: as, b :: bs =>
    let lo := max a.1 b.1
    let hi := min a.2 b.2
    let tail := if a.2 < b.2 then interFuel fuel as (b :: bs) else interFuel fuel (a :: as) bs
    if lo ≤ hi then (lo, hi) :: tail else tail

/-- Members of both sets. -/
def inter (s t : CodePoints) : CodePoints :=
  ⟨interFuel (s.ranges.length + t.ranges.length + 1) s.ranges t.ranges⟩

private def gaps (start : Nat) : List (Nat × Nat) → List (Nat × Nat)
  | [] => if start ≤ 0x10FFFF then [(start, 0x10FFFF)] else []
  | (lo, hi) :: rest =>
    if start < lo then (start, lo - 1) :: gaps (hi + 1) rest else gaps (hi + 1) rest

/-- Characters outside the set. -/
def complement (s : CodePoints) : CodePoints := inter ⟨gaps 0 s.ranges⟩ all

/-- Members of the first set that the second lacks. -/
def diff (s t : CodePoints) : CodePoints := inter s t.complement

/-- Members of exactly one of the two sets. -/
def symmDiff (s t : CodePoints) : CodePoints := union (diff s t) (diff t s)

/-- The number of members. -/
def size (s : CodePoints) : Nat := s.ranges.foldl (fun n r => n + (r.2 - r.1 + 1)) 0

/-- The value of a digit in base 36, zero for anything else. -/
def digit36 (c : Char) : Nat :=
  if c.isDigit then c.toNat - '0'.toNat else if c.isLower then c.toNat - 'a'.toNat + 10 else 0

private def readNumbers (pending : Option Nat) : List Char → List Nat
  | [] => pending.toList
  | c :: rest =>
    if c = ' ' then pending.toList ++ readNumbers none rest
    else readNumbers (some (pending.getD 0 * 36 + digit36 c)) rest

/-- The blank-separated base-36 numbers of a table. -/
def numbers (table : String) : List Nat := readNumbers none table.toList

private def runsFrom (start : Nat) : List Nat → List (Nat × Nat)
  | gap :: length :: rest =>
    (start + gap, start + gap + length - 1) :: runsFrom (start + gap + length) rest
  | _ => []

/-- The set written as alternating counts of missing and present code points. -/
def ofRuns (table : String) : CodePoints := ⟨runsFrom 0 (numbers table)⟩

end CodePoints

end SchemaSeed.Text
