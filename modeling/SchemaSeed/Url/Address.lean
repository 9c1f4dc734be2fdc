import SchemaSeed.Number.Decimal
import SchemaSeed.Number.Printed
import SchemaSeed.Url.Domain

/-!
Numeric addresses of hosts, in their versions four and six.
-/

set_option autoImplicit false
set_option relaxedAutoImplicit false

namespace SchemaSeed.Url

open SchemaSeed.Number

namespace Ipv6

/-- The 16-bit pieces of an address, eight of them. -/
abbrev Pieces := List Nat

/-- A piece from its hexadecimal digits, at most four. -/
def hexPiece? (cs : List Char) : Option Nat :=
  if cs.isEmpty || 4 < cs.length then none
  else cs.foldlM (fun n c => (hexValue? c).map (16 * n + ·)) 0

/-- A part of a dotted address. -/
def octet? (cs : List Char) : Option Nat :=
  if cs.length ≠ 1 ∧ cs.head? = some '0' then none else (natOfChars? cs).filter (· < 256)

/-- The two pieces of a dotted address. -/
def dotted? (cs : List Char) : Option (List Nat) :=
  match (splitChars '.' cs).map octet? with
  | [some a, some b, some c, some d] => some [256 * a + b, 256 * c + d]
  | _ => none

/-- The pieces of groups between colons; the last group may be a dotted address, which is two. -/
def groups? (mayEndDotted : Bool) : List (List Char) → Option (List Nat)
  | [] => some []
  | [cs] => if mayEndDotted && cs.contains '.' then dotted? cs else (hexPiece? cs).map ([·])
  | cs :: rest => do return (← hexPiece? cs) :: (← groups? mayEndDotted rest)

/-- The groups before and after the first double colon. -/
def cutAtGap : List Char → Option (List Char × List Char)
  | ':' :: ':' :: rest => some ([], rest)
  | c :: rest => (cutAtGap rest).map fun (before, after) => (c :: before, after)
  | [] => none

/-- The groups of a text between colons. -/
def groupsOf (cs : List Char) : List (List Char) :=
  if cs.isEmpty then [] else splitChars ':' cs

/-- Reads an address. A double colon stands for one or more zero pieces. -/
def parse? (cs : List Char) : Option Pieces :=
  match cutAtGap cs with
  | none => (groups? true (groupsOf cs)).filter (·.length = 8)
  | some (before, after) => do
    let left ← groups? false (groupsOf before)
    let right ← groups? true (groupsOf after)
    if 7 < left.length + right.length then none
    else some (left ++ List.replicate (8 - left.length - right.length) 0 ++ right)

/-- How many zero pieces come first. -/
def zeroRun (pieces : List Nat) : Nat := (pieces.takeWhile (· = 0)).length

/-- The start and the length of the first longest run of zeros. -/
def longestRun (pieces : Pieces) : Nat × Nat :=
  (List.range pieces.length).foldl (fun best i =>
    let length := zeroRun (pieces.drop i)
    if best.2 < length then (i, length) else best) (0, 0)

/-- Pieces as groups of digits with colons between. -/
def joined (pieces : List Nat) : List Char :=
  (":".intercalate (pieces.map fun n => hexPadded 1 n)).toList

/-- The written form: the longest run of at least two zero pieces becomes a double colon. -/
def print (pieces : Pieces) : List Char :=
  let run := longestRun pieces
  if run.2 < 2 then joined pieces
  else joined (pieces.take run.1) ++ [':', ':'] ++ joined (pieces.drop (run.1 + run.2))

end Ipv6

namespace Ipv4

/-- Why a part of an address is not a usable number. -/
inductive PartFault where
  | notNumber
  | tooLarge
  deriving DecidableEq, Repr

private def isOctal (c : Char) : Bool := '0' ≤ c && c ≤ '7'

private def numberIn (base : Nat) (valid : Char → Bool) (cs : List Char) : Except PartFault Nat :=
  if !cs.all valid then .error .notNumber
  else
    let n := cs.foldl (fun n c => base * n + (hexValue? c).getD 0) 0
    if n < twoTo 32 then .ok n else .error .tooLarge

/-- A part of an address: hexadecimal after `0x`, octal after `0`, else decimal. -/
def part (cs : List Char) : Except PartFault Nat :=
  match cs with
  | [] => .error .notNumber
  | '0' :: 'x' :: rest => numberIn 16 (fun c => (hexValue? c).isSome) rest
  | '0' :: 'X' :: rest => numberIn 16 (fun c => (hexValue? c).isSome) rest
  | '0' :: d :: rest => numberIn 8 isOctal (d :: rest)
  | _ => numberIn 10 Char.isDigit cs

private def withoutEmptyEnd (parts : List (List Char)) : List (List Char) :=
  if parts.getLast? = some [] then parts.dropLast else parts

/-- Whether a name ends in a number, so that it can only be an address. -/
def isMeant (cs : List Char) : Bool :=
  match (withoutEmptyEnd (splitChars '.' cs)).getLast? with
  | none => false
  | some last =>
    (!last.isEmpty && last.all Char.isDigit) ||
      (match part last with
        | .ok _ => true
        | .error .tooLarge => true
        | .error .notNumber => false)

/-- Whether the parts of an address are numbers in their bounds: the last part fills what the others
leave of 32 bits. -/
def isValid (cs : List Char) : Bool :=
  let parts := withoutEmptyEnd (splitChars '.' cs)
  match parts.mapM part with
  | .error _ => false
  | .ok numbers =>
    numbers.length ≤ 4 && numbers.dropLast.all (· < 256) &&
      (match numbers.getLast? with
        | some last => last < twoTo (8 * (5 - numbers.length))
        | none => false)

end Ipv4

end SchemaSeed.Url
