import SchemaSeed.Factory.Checksum
import SchemaSeed.Factory.Random
import SchemaSeed.Factory.Tag
import SchemaSeed.Factory.Vocabulary
import SchemaSeed.Sql.Value

/-!
Made-up values: for every kind, what is drawn from the random source and in which order.
-/

set_option autoImplicit false
set_option relaxedAutoImplicit false

namespace SchemaSeed.Factory

open SchemaSeed.Sql SchemaSeed.Number SchemaSeed.Calendar SchemaSeed.Text
open Draw Vocabulary

namespace Draw

/-- So many words, joined by blanks. -/
def phrase (count : Nat) : Draw String := do
  return " ".intercalate (← times count (pick words))

/-- A text with its first letter in upper case and a full stop. -/
def asSentence (s : String) : String :=
  match s.toList with
  | [] => s
  | c :: cs => String.ofList (upperChar c ++ cs ++ ['.'])

/-- Five to ten words as a sentence. -/
def sentence : Draw String := do
  let count ← betweenWide 5 10
  return asSentence (← phrase count.toNat)

/-- Three to six sentences. -/
def paragraph : Draw String := do
  let count ← between 3 6
  return " ".intercalate (← times count.toNat sentence)

/-- So many letters and digits. -/
def alphanumerics (count : Nat) : Draw String := do
  return String.ofList (← times count alphanumeric)

/-- So many decimal digits. -/
def digits (count : Nat) : Draw Digits := times count (belowSmall 10)

/-- Groups of hexadecimal digits, joined by colons. -/
def hexGroups (groups width : Nat) : Draw String := do
  let numbers ← times groups (below (twoTo (4 * width)) (twoTo_pos _))
  return ":".intercalate (numbers.map fun n => hexPadded width n.val)

/-- A number between two bounds, rounded to so many places. -/
def rounded (lo hi : Int) (places : Nat) : Draw Binary := do
  let factor := Binary.ofInt .double (tenTo places)
  let x ← betweenReal lo hi
  return ((x.mul .double factor).roundHalfAway .double).div .double factor

/-- A first and a last name in lower case with a number. -/
def username : Draw String := do
  let first ← pick firstNames
  let last ← pick lastNames
  let n ← between 1 99
  return lowercase first ++ "." ++ lowercase last ++ toString n

/-- A mail address. -/
def email : Draw String := do
  let user ← username
  return user ++ "@" ++ (← pick domains)

/-- A web address. -/
def webAddress : Draw String := do
  let word ← pick words
  return "https://" ++ word ++ "." ++ (← pick domains)

/-- A telephone number. -/
def phone : Draw String := do
  let area ← between 200 999
  let exchange ← digits 3
  let line ← digits 4
  return "+1-" ++ toString area ++ "-" ++ exchange.print ++ "-" ++ line.print

/-- A house number and a street. -/
def address : Draw String := do
  let house ← between 1 9999
  return toString house ++ " " ++ (← pick streets)

/-- Four octets, the first and the last within the bounds of hosts. -/
def ipv4 : Draw String := do
  let a ← between 1 223
  let b ← byte
  let c ← byte
  let d ← between 1 254
  return ".".intercalate [toString a, toString b.toNat, toString c.toNat, toString d]

/-- A company. -/
def company : Draw String := do
  let stem ← pick companyStems
  return stem ++ " " ++ (← pick companySuffixes)

/-- A first and a last name. -/
def fullName : Draw String := do
  let first ← pick firstNames
  return first ++ " " ++ (← pick lastNames)

/-- The number of a payment card: sixteen digits, of which the first is that of the kind of card and
the last is the check digit. -/
def creditCard : Draw Digits := do
  let body := Digits.cardStart :: (← digits 14)
  return body ++ [Digits.cardCheckDigit body]

/-- A bank code: four letters, a country and two letters or digits. -/
def bankCode : Draw String := do
  let bank ← times 4 (belowSmall 26)
  let country ← pick bankCountries
  let place ← alphanumerics 2
  return String.ofList (bank.map fun n => Char.ofNat (65 + n.val)) ++ country ++ uppercase place

/-- An instant up to so many days before another. -/
def before (now : Instant) (days : Int) (h : 1 ≤ days * 86400 := by decide) : Draw Instant := do
  return now.addSeconds (-(← betweenWide 1 (days * 86400) h))

/-- An instant up to so many days after another. -/
def after (now : Instant) (days : Int) (h : 1 ≤ days * 86400 := by decide) : Draw Instant := do
  return now.addSeconds (← betweenWide 1 (days * 86400) h)

/-- A time of day without its fraction. -/
def wholeSeconds (t : Time) : Time := { t with nanosecond := 0 }

/-- A value of a kind, made at a time. -/
def ofTag (now : Instant) : Tag → Draw Value
  | .number => return .int32 (← between 0 2147483647)
  | .integer => return .int32 (← bits32).toInt
  | .smallInteger => return .int32 (← between (-32768) 32767)
  | .mediumInteger => return .int32 (← between (-8388608) 8388607)
  | .bigInteger => return .int64 (← bits64).toInt
  | .tinyInteger => return .int32 (← between 1 127)
  | .float => return .float64 (← rounded (-1000) 1000 2)
  | .double => return .float64 (← rounded (-1000000) 1000000 4)
  | .decimal => return .float64 (← rounded (-9999999999) 9999999999 2)
  | .boolean => return .bool (← coin)
  | .uuid => return .uuid (.ofRandomBytes ((← times 16 byte).map UInt8.toNat))
  | .string => return .text (← phrase 3)
  | .char => return .text (← alphanumerics 1)
  | .varchar => return .text (← phrase 5)
  | .longText => return .text (← paragraph)
  | .alphanumeric => return .text (← alphanumerics 10)
  | .email => return .text (← email)
  | .url => return .text (← webAddress)
  | .username => return .text (← username)
  | .password => return .text (← alphanumerics 15)
  | .phone => return .text (← phone)
  | .address => return .text (← address)
  | .city => return .text (← pick cities)
  | .state => return .text (← pick states)
  | .country => return .text (← pick countries)
  | .zip => return .text (← digits 5).print
  | .ipv4 => return .text (← ipv4)
  | .ipv6 => return .text (← hexGroups 8 4)
  | .mac => return .text (← hexGroups 6 2)
  | .company => return .text (← company)
  | .companySuffix => return .text (← pick companySuffixes)
  | .color => return .text (← pick colors)
  | .hexColor => return .text ("#" ++ hexPadded 6 (← below (twoTo 24)).val)
  | .jobTitle => return .text (← pick jobTitles)
  | .name => return .text (← fullName)
  | .firstName => return .text (← pick firstNames)
  | .lastName => return .text (← pick lastNames)
  | .pastDate => return .date (← before now 365).date
  | .futureDate => return .date (← after now 365).date
  | .time => return .time (wholeSeconds (← before now 2).time)
  | .instant => return .instant (← before now 2)
  | .creditCard => return .text (← creditCard).print
  | .currency => return .text (← pick currencies)
  | .iban => return .text (Digits.printAccount (← digits 18))
  | .bic => return .text (← bankCode)

end Draw

/-- A party that is asked for values by the words for their kinds, and that has a state. -/
abbrev Generator (γ : Type) := String → StateM γ Value

/-- The generator that draws from a random source; what it has no kind for is missing. -/
def generator (now : Instant) : Generator RandomSource := fun word =>
  match Tag.ofText? word with
  | some tag => ofTag now tag
  | none => return .null

end SchemaSeed.Factory
