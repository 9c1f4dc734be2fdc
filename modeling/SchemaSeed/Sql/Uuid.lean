import SchemaSeed.Number.Printed
import SchemaSeed.Number.Decimal

/-!
Universally unique identifiers.
-/

set_option autoImplicit false
set_option relaxedAutoImplicit false

namespace SchemaSeed.Sql

open SchemaSeed.Number

/-- A 128-bit identifier. -/
structure Uuid where
  bits : BitVec 128
  deriving DecidableEq, Repr

namespace Uuid

/-- Groups of 8, 4, 4, 4 and 12 lower-case hexadecimal digits, joined by hyphens. -/
def print (u : Uuid) : String :=
  let ds := (hexPadded 32 u.bits.toNat).toList
  "-".intercalate [String.ofList (ds.take 8), String.ofList ((ds.drop 8).take 4),
    String.ofList ((ds.drop 12).take 4), String.ofList ((ds.drop 16).take 4),
    String.ofList (ds.drop 20)]

/-- The number written by hexadecimal digits of either case. -/
def hexNumber? (cs : List Char) : Option Nat :=
  cs.foldlM (fun n c => (hexValue? c).map (16 * n + ·)) 0

/-- The identifier of 32 hexadecimal digits. -/
def ofDigits? (cs : List Char) : Option Uuid :=
  if cs.length = 32 then (hexNumber? cs).map fun n => ⟨BitVec.ofNat 128 n⟩ else none

/-- An identifier written with or without its hyphens, in any case. -/
def ofBare? (bare : String) : Option Uuid :=
  let groups := (bare.split '-').toList.map fun group => group.copy
  if groups.length = 1 then ofDigits? bare.toList
  else if groups.map String.length = [8, 4, 4, 4, 12] then
    ofDigits? (groups.flatMap String.toList)
  else none

/-- An identifier as such, in braces or as the name `urn:uuid:`. -/
def ofText? (s : String) : Option Uuid :=
  ofBare?
    (if s.startsWith "urn:uuid:" then (s.drop 9).toString
    else if s.startsWith "\x7b" && s.endsWith "\x7d" then ((s.drop 1).dropEnd 1).toString
    else s)

/-- The identifier of sixteen bytes drawn at random: its version is 4, its variant the standard
one. -/
def ofRandomBytes (bytes : List Nat) : Uuid :=
  let marked := (List.range bytes.length).zip bytes |>.map fun (i, b) =>
    if i = 6 then b % 16 + 64 else if i = 8 then b % 64 + 128 else b
  ⟨BitVec.ofNat 128 (marked.foldl (fun n b => 256 * n + b) 0)⟩

end Uuid

end SchemaSeed.Sql
