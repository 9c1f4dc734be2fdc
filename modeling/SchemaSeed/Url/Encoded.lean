import SchemaSeed.Number.Printed

/-!
Percent encoding: a character that a part of a URL cannot hold is written as the bytes of its UTF-8
form, each as a percent sign and two upper-case hexadecimal digits.
-/

set_option autoImplicit false
set_option relaxedAutoImplicit false

namespace SchemaSeed.Url

open SchemaSeed.Number

/-- The characters that a part of a URL does not hold as they are. -/
abbrev EncodeSet := Char → Bool

/-- What no part holds: control characters and everything beyond ASCII. -/
def controlSet : EncodeSet := fun c => c.toNat < 0x20 || 0x7E < c.toNat

/-- What a query does not hold. -/
def querySet : EncodeSet := fun c => controlSet c || [' ', '"', '#', '<', '>'].contains c

/-- What a fragment does not hold. -/
def fragmentSet : EncodeSet := fun c => controlSet c || [' ', '"', '<', '>', '`'].contains c

/-- What a path does not hold. -/
def pathSet : EncodeSet := fun c => fragmentSet c || ['#', '?', '{', '}'].contains c

/-- What user names and passwords do not hold. -/
def userinfoSet : EncodeSet := fun c =>
  pathSet c || ['/', ':', ';', '=', '@', '[', '\\', ']', '^', '|'].contains c

/-- The upper-case hexadecimal digit of a number below 16. -/
def upperHexDigit (n : Nat) : Char :=
  if n < 10 then Char.ofNat (48 + n) else Char.ofNat (55 + n)

/-- The written form of a byte. -/
def encodeByte (b : UInt8) : List Char :=
  ['%', upperHexDigit (b.toNat / 16), upperHexDigit (b.toNat % 16)]

/-- The written form of a character. -/
def encodeChar (set : EncodeSet) (c : Char) : List Char :=
  if set c then (String.utf8EncodeChar c).flatMap encodeByte else [c]

/-- The written form of some characters. -/
def encode (set : EncodeSet) (cs : List Char) : List Char := cs.flatMap (encodeChar set)

/-- The bytes that a written form stands for; a percent sign without two digits stands for
itself. -/
def decode : List Char → List UInt8
  | [] => []
  | '%' :: a :: b :: rest =>
    match hexValue? a, hexValue? b with
    | some hi, some lo => UInt8.ofNat (16 * hi + lo) :: decode rest
    | _, _ => String.utf8EncodeChar '%' ++ decode (a :: b :: rest)
  | c :: rest => String.utf8EncodeChar c ++ decode rest

/-- The text that a written form stands for, if its bytes are one. -/
def decodeText? (cs : List Char) : Option String :=
  String.fromUTF8? ⟨(decode cs).toArray⟩

end SchemaSeed.Url
