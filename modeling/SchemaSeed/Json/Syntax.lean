import SchemaSeed.Json.Value
import SchemaSeed.Number.Decimal

/-!
Reading JSON text into a tree that keeps everything a typed reader may still need: members in their
order with repeated keys, and every fault at the place where it stands.

A fault is not raised while the tree is built. A reader that walks the tree in text order meets the
faults exactly where it would meet them in the text, so a wrong type that stands before a broken
bracket is what gets reported. A value that nobody reads is only skipped, and a skipper is content
with less: it neither decodes escapes nor evaluates numbers nor counts nesting.
-/

set_option autoImplicit false
set_option relaxedAutoImplicit false

namespace SchemaSeed

open SchemaSeed.Number

/-- What can be wrong with a JSON text. -/
inductive SyntaxFault where
  | endInValue
  | endInObject
  | endInList
  | endInString
  | noValue
  | noLiteral
  | noColon
  | noListSeparator
  | noObjectSeparator
  | trailingComma
  | trailingText
  | keyNotString
  | badNumber
  | numberTooLarge
  | badEscape
  | controlCharacter
  | loneSurrogate
  | unfinishedSurrogate
  | tooDeep
  deriving DecidableEq, Repr

/-- The text of a fault. -/
def SyntaxFault.message : SyntaxFault → String
  | .endInValue => "EOF while parsing a value"
  | .endInObject => "EOF while parsing an object"
  | .endInList => "EOF while parsing a list"
  | .endInString => "EOF while parsing a string"
  | .noValue => "expected value"
  | .noLiteral => "expected ident"
  | .noColon => "expected `:`"
  | .noListSeparator => "expected `,` or `]`"
  | .noObjectSeparator => "expected `,` or `\x7d`"
  | .trailingComma => "trailing comma"
  | .trailingText => "trailing characters"
  | .keyNotString => "key must be a string"
  | .badNumber => "invalid number"
  | .numberTooLarge => "number out of range"
  | .badEscape => "invalid escape"
  | .controlCharacter => "control character (\\u0000-\\u001F) found while parsing a string"
  | .loneSurrogate => "lone leading surrogate in hex escape"
  | .unfinishedSurrogate => "unexpected end of hex escape"
  | .tooDeep => "recursion limit exceeded"

/-- A place where the text ends to make sense: what a reader reports there and what a skipper. -/
structure Break where
  read : SyntaxFault
  skipped : SyntaxFault
  deriving DecidableEq, Repr

/-- The break that readers and skippers report alike. -/
def Break.both (fault : SyntaxFault) : Break := ⟨fault, fault⟩

/-- A JSON text as a tree. -/
inductive JsonTree where
  | null
  | bool (value : Bool)
  | number (value : Except SyntaxFault JsonNumber)
  | string (value : Except SyntaxFault String)
  | array (depth : Nat) (items : List JsonTree) (ending : Option Break)
  | object (depth : Nat) (members : List (Except SyntaxFault String × JsonTree))
      (ending : Option Break)
  | broken (reason : Break)
  deriving Inhabited

namespace JsonTree

/-- Arrays and objects may be nested this deep. -/
def maxDepth : Nat := 127

/-- The text without the white space at its start. -/
def skipSpace : List Char → List Char
  | c :: rest => if c = ' ' || c = '\n' || c = '\t' || c = '\r' then skipSpace rest else c :: rest
  | [] => []

/-- Four hexadecimal digits and the text after them. The digits are looked for in the next four bytes
of the text, so a text that ends before is one that ends too early, whatever stands in it. -/
def hexQuad (text : List Char) : Except SyntaxFault (Nat × List Char) :=
  match text with
  | a :: b :: c :: d :: rest =>
    match hexValue a, hexValue b, hexValue c, hexValue d with
    | some w, some x, some y, some z => .ok (((w * 16 + x) * 16 + y) * 16 + z, rest)
    | _, _, _, _ => .error .badEscape
  | _ => .error (if (String.ofList text).utf8ByteSize < 4 then .endInString else .badEscape)
where
  /-- The value of a hexadecimal digit. -/
  hexValue (c : Char) : Option Nat :=
    if c.isDigit then some (c.toNat - 48)
    else if 'a' ≤ c ∧ c ≤ 'f' then some (c.toNat - 87)
    else if 'A' ≤ c ∧ c ≤ 'F' then some (c.toNat - 55)
    else none

/-- The character of an escape that is written as one letter. -/
def letterEscape? : Char → Option Char
  | '"' => some '"'
  | '\\' => some '\\'
  | '/' => some '/'
  | 'b' => some (Char.ofNat 8)
  | 'f' => some (Char.ofNat 12)
  | 'n' => some '\n'
  | 'r' => some '\r'
  | 't' => some '\t'
  | _ => none

/-- The character of a numeric escape, which may need a second half; the text after the first half
is given. A fault here troubles readers only. -/
def codeEscape (code : Nat) (rest : List Char) : Except SyntaxFault (Char × List Char) :=
  if 0xDC00 ≤ code ∧ code ≤ 0xDFFF then .error .loneSurrogate
  else if code < 0xD800 ∨ 0xDBFF < code then .ok (Char.ofNat code, rest)
  else
    match rest with
    | [] => .error .endInString
    | '\\' :: 'u' :: more =>
      match hexQuad more with
      | .error fault => .error fault
      | .ok (low, after) =>
        if 0xDC00 ≤ low ∧ low ≤ 0xDFFF then
          .ok (Char.ofNat (0x10000 + (code - 0xD800) * 0x400 + (low - 0xDC00)), after)
        else .error .loneSurrogate
    | ['\\'] => .error .endInString
    | _ => .error .unfinishedSurrogate

/-- What is known of a string so far: its characters, latest first, or the fault a reader met. -/
abbrev StringSoFar := Except SyntaxFault (List Char)

private def addChar (c : Char) (soFar : StringSoFar) : StringSoFar := soFar.map (c :: ·)

private def breakAfter (soFar : StringSoFar) (fault : SyntaxFault) : Break :=
  match soFar with
  | .ok _ => .both fault
  | .error first => ⟨first, fault⟩

/-- The string whose opening quote has been passed, with the text after its closing quote. -/
def readString (fuel : Nat) (soFar : StringSoFar) (text : List Char) :
    Except Break (Except SyntaxFault String × List Char) :=
  match fuel, text with
  | 0, _ => .error (breakAfter soFar .endInString)
  | _ + 1, [] => .error (breakAfter soFar .endInString)
  | fuel + 1, c :: rest =>
    if c = '"' then .ok (soFar.map fun cs => String.ofList cs.reverse, rest)
    else if c = '\\' then
      match rest with
      | [] => .error (breakAfter soFar .endInString)
      | e :: more =>
        if e = 'u' then
          match hexQuad more with
          | .error fault => .error (breakAfter soFar fault)
          | .ok (code, after) =>
            match codeEscape code after with
            | .ok (ch, after') => readString fuel (addChar ch soFar) after'
            | .error fault => readString fuel (soFar.bind fun _ => .error fault) after
        else
          match letterEscape? e with
          | some ch => readString fuel (addChar ch soFar) more
          | none => .error (breakAfter soFar .badEscape)
    else if c.toNat < 32 then .error (breakAfter soFar .controlCharacter)
    else readString fuel (addChar c soFar) rest

/-- Integers up to here are kept; longer significands lose their last digits. -/
def maxSignificand : Nat := twoTo 64 - 1

/-- The leading digits of a run that fit into 64 bits after `start`, and how many do not. -/
def takeSignificand (start : Nat) : List Char → Nat × Nat
  | [] => (start, 0)
  | c :: rest =>
    let next := start * 10 + (c.toNat - 48)
    if maxSignificand < next then (start, rest.length + 1) else takeSignificand next rest

/-- A power of ten as a floating-point number. -/
def powerOfTen (n : Nat) : Binary := .ofDecimal .double false 1 n

/-- A number times a power of ten. A large negative exponent takes several divisions, a large positive
one is beyond the format unless the number is zero. -/
def scaleDown : Nat → Binary → Int → Option Binary
  | 0, b, _ => some b
  | fuel + 1, b, exponent =>
    if exponent.natAbs ≤ 308 then
      if 0 ≤ exponent then
        match b.mul .double (powerOfTen exponent.toNat) with
        | .infinite _ => none
        | product => some product
      else some (b.div .double (powerOfTen exponent.natAbs))
    else
      match b with
      | .finite _ 0 _ => some b
      | _ =>
        if 0 ≤ exponent then none
        else scaleDown fuel (b.div .double (powerOfTen 308)) (exponent + 308)

/-- The floating-point number of a significand and a decimal exponent: the significand is rounded
first, then multiplied or divided by a power of ten, so the last bit may differ from a single
rounding. A product beyond the format is a fault. -/
def floatOfParts (negative : Bool) (significand : Nat) (exponent : Int) :
    Except SyntaxFault JsonNumber :=
  let start := Binary.ofRatio .double false significand 1
  if exponent < -700 then .ok (.float (.finite negative 0 Format.double.minExponent))
  else
    match scaleDown 4 start exponent with
    | some b => .ok (.float (if negative then b.neg else b))
    | none => .error .numberTooLarge

/-- The number of a text without fraction and exponent. -/
def integerNumber (negative : Bool) (n : Nat) : JsonNumber :=
  if negative then
    if n = 0 ∨ twoTo 63 < n then .float (Binary.ofRatio .double true n 1) else .integer (-(n : Int))
  else .integer n

/-- The exponent after its letter: its value, and the text after it. -/
def readExponent (text : List Char) : Except Break (Int × List Char) :=
  let (negative, digits) := match text with
    | '+' :: more => (false, more)
    | '-' :: more => (true, more)
    | other => (false, other)
  match digits with
  | [] => .error ⟨.endInValue, .badNumber⟩
  | c :: _ =>
    if c.isDigit then
      let n := digitsValue 0 (digits.takeWhile Char.isDigit)
      .ok (if negative then -(n : Int) else n, digits.dropWhile Char.isDigit)
    else .error (.both .badNumber)

/-- The rest of a number after its whole digits: `dropped` of them did not fit. -/
def finishNumber (negative : Bool) (significand dropped : Nat) (text : List Char) :
    Except Break (Except SyntaxFault JsonNumber × List Char) :=
  match text with
  | '.' :: more =>
    let fraction := more.takeWhile Char.isDigit
    let rest := more.dropWhile Char.isDigit
    if fraction.isEmpty then
      .error (if rest.isEmpty then ⟨.endInValue, .badNumber⟩ else .both .badNumber)
    else
      let (all, lost) := takeSignificand significand fraction
      let point : Int := dropped - ((fraction.length - lost : Nat) : Int)
      match rest with
      | c :: after =>
        if c = 'e' ∨ c = 'E' then
          (readExponent after).map fun (e, tail) => (floatOfParts negative all (point + e), tail)
        else .ok (floatOfParts negative all point, rest)
      | [] => .ok (floatOfParts negative all point, rest)
  | c :: after =>
    if c = 'e' ∨ c = 'E' then
      (readExponent after).map fun (e, tail) =>
        (floatOfParts negative significand (dropped + e), tail)
    else if dropped = 0 then .ok (.ok (integerNumber negative significand), text)
    else .ok (floatOfParts negative significand dropped, text)
  | [] =>
    if dropped = 0 then .ok (.ok (integerNumber negative significand), text)
    else .ok (floatOfParts negative significand dropped, text)

/-- The number at the start of a text that follows its sign. -/
def readNumber (negative : Bool) (text : List Char) :
    Except Break (Except SyntaxFault JsonNumber × List Char) :=
  match text with
  | [] => .error ⟨.endInValue, .badNumber⟩
  | '0' :: rest =>
    match rest with
    | c :: _ => if c.isDigit then .error (.both .badNumber) else finishNumber negative 0 0 rest
    | [] => finishNumber negative 0 0 rest
  | c :: _ =>
    if c.isDigit then
      let (significand, dropped) := takeSignificand 0 (text.takeWhile Char.isDigit)
      finishNumber negative significand dropped (text.dropWhile Char.isDigit)
    else .error (.both .badNumber)

/-- The rest of a literal, of which the first letter has been passed. -/
def readLiteral : List Char → List Char → Except Break (List Char)
  | [], rest => .ok rest
  | _ :: _, [] => .error (.both .endInValue)
  | e :: expected, c :: rest =>
    if c = e then readLiteral expected rest else .error (.both .noLiteral)

/-- What reading a piece of text gives: a tree, and the text after it unless the tree is broken. -/
abbrev Outcome := JsonTree × Option (List Char)

private def ofBreak (b : Break) : Outcome := (.broken b, none)

mutual

/-- The value at the start of a text, `depth` brackets deep. -/
def readValue (fuel depth : Nat) (text : List Char) : Outcome :=
  match fuel with
  | 0 => ofBreak (.both .noValue)
  | fuel + 1 =>
    match skipSpace text with
    | [] => ofBreak (.both .endInValue)
    | c :: rest =>
      if c = '"' then
        match readString (rest.length + 1) (.ok []) rest with
        | .ok (s, after) => (.string s, some after)
        | .error b => ofBreak b
      else if c = '[' then
        let (items, ending, after) := readItems fuel (depth + 1) true rest
        (.array (depth + 1) items ending, after)
      else if c = '\x7b' then
        let (members, ending, after) := readMembers fuel (depth + 1) true rest
        (.object (depth + 1) members ending, after)
      else if c = '-' then
        match readNumber true rest with
        | .ok (n, after) => (.number n, some after)
        | .error b => ofBreak b
      else if c.isDigit then
        match readNumber false (c :: rest) with
        | .ok (n, after) => (.number n, some after)
        | .error b => ofBreak b
      else if c = 'n' then
        match readLiteral ['u', 'l', 'l'] rest with
        | .ok after => (.null, some after)
        | .error b => ofBreak b
      else if c = 't' then
        match readLiteral ['r', 'u', 'e'] rest with
        | .ok after => (.bool true, some after)
        | .error b => ofBreak b
      else if c = 'f' then
        match readLiteral ['a', 'l', 's', 'e'] rest with
        | .ok after => (.bool false, some after)
        | .error b => ofBreak b
      else ofBreak (.both .noValue)

/-- The items of an array up to its closing bracket. -/
def readItems (fuel depth : Nat) (first : Bool) (text : List Char) :
    List JsonTree × Option Break × Option (List Char) :=
  match fuel with
  | 0 => ([], some (.both .endInList), none)
  | fuel + 1 =>
    match skipSpace text with
    | [] => ([], some (.both .endInList), none)
    | c :: rest =>
      if c = ']' then ([], none, some rest)
      else if !first && c ≠ ',' then ([], some (.both .noListSeparator), none)
      else
        let start := if first then c :: rest else skipSpace rest
        match start with
        | ']' :: _ =>
          ([], some ⟨.trailingComma, .noValue⟩, none)
        | start =>
          match readValue fuel depth start with
          | (item, none) => ([item], none, none)
          | (item, some after) =>
            let (items, ending, tail) := readItems fuel depth false after
            (item :: items, ending, tail)

/-- The members of an object up to its closing brace. -/
def readMembers (fuel depth : Nat) (first : Bool) (text : List Char) :
    List (Except SyntaxFault String × JsonTree) × Option Break × Option (List Char) :=
  match fuel with
  | 0 => ([], some (.both .endInObject), none)
  | fuel + 1 =>
    match skipSpace text with
    | [] => ([], some (.both .endInObject), none)
    | c :: rest =>
      if c = '\x7d' then ([], none, some rest)
      else if !first && c ≠ ',' then ([], some (.both .noObjectSeparator), none)
      else
        let start := if first then c :: rest else skipSpace rest
        match start with
        | [] => ([], some ⟨.endInValue, .endInObject⟩, none)
        | '\x7d' :: _ => ([], some ⟨.trailingComma, .keyNotString⟩, none)
        | '"' :: more =>
          match readString (more.length + 1) (.ok []) more with
          | .error b => ([], some b, none)
          | .ok (key, after) =>
            match skipSpace after with
            | ':' :: value =>
              match readValue fuel depth value with
              | (item, none) => ([(key, item)], none, none)
              | (item, some after') =>
                let (members, ending, tail) := readMembers fuel depth false after'
                ((key, item) :: members, ending, tail)
            | [] => ([(key, .broken (.both .endInObject))], none, none)
            | _ => ([(key, .broken (.both .noColon))], none, none)
        | _ => ([], some (.both .keyNotString), none)

end

/-- A whole text: its value, and the fault of anything that follows it. -/
structure Source where
  tree : JsonTree
  tail : Option SyntaxFault

/-- The tree of a text. -/
def ofText (text : String) : Source :=
  let cs := text.toList
  match readValue (2 * cs.length + 2) 0 cs with
  | (tree, none) => ⟨tree, none⟩
  | (tree, some rest) => ⟨tree, if (skipSpace rest).isEmpty then none else some .trailingText⟩

mutual

/-- The tree of a value that has already been read. -/
def ofJson : Json → JsonTree
  | .null => .null
  | .bool b => .bool b
  | .number n => .number (.ok n)
  | .string s => .string (.ok s)
  | .array items => .array 0 (ofItems items) none
  | .object members => .object 0 (ofMembers members) none

/-- The trees of the items of an array. -/
def ofItems : List Json → List JsonTree
  | [] => []
  | j :: rest => ofJson j :: ofItems rest

/-- The trees of the members of an object. -/
def ofMembers : List (String × Json) → List (Except SyntaxFault String × JsonTree)
  | [] => []
  | (k, v) :: rest => (.ok k, ofJson v) :: ofMembers rest

end

mutual

/-- Passes over a value without reading it. -/
def skip : JsonTree → Except SyntaxFault Unit
  | .array _ items ending => do
    skipItems items
    match ending with
    | some b => .error b.skipped
    | none => .ok ()
  | .object _ members ending => do
    skipMembers members
    match ending with
    | some b => .error b.skipped
    | none => .ok ()
  | .broken b => .error b.skipped
  | _ => .ok ()

/-- Passes over the items of an array. -/
def skipItems : List JsonTree → Except SyntaxFault Unit
  | [] => .ok ()
  | t :: rest => do skip t; skipItems rest

/-- Passes over the members of an object. -/
def skipMembers : List (Except SyntaxFault String × JsonTree) → Except SyntaxFault Unit
  | [] => .ok ()
  | (_, t) :: rest => do skip t; skipMembers rest

end

mutual

/-- Reads a whole value. -/
def read : JsonTree → Except SyntaxFault Json
  | .null => .ok .null
  | .bool b => .ok (.bool b)
  | .number n => n.map .number
  | .string s => s.map .string
  | .array depth items ending => do
    if maxDepth < depth then .error .tooDeep
    let items ← readAllItems items
    match ending with
    | some b => .error b.read
    | none => .ok (.array items)
  | .object depth members ending => do
    if maxDepth < depth then .error .tooDeep
    let members ← readAllMembers members
    match ending with
    | some b => .error b.read
    | none => .ok (Json.ofMembers members)
  | .broken b => .error b.read

/-- Reads the items of an array. -/
def readAllItems : List JsonTree → Except SyntaxFault (List Json)
  | [] => .ok []
  | t :: rest => do
    let j ← read t
    let js ← readAllItems rest
    .ok (j :: js)

/-- Reads the members of an object, in text order and with repeated keys. -/
def readAllMembers : List (Except SyntaxFault String × JsonTree) →
    Except SyntaxFault (List (String × Json))
  | [] => .ok []
  | (key, t) :: rest => do
    let k ← key
    let j ← read t
    let js ← readAllMembers rest
    .ok ((k, j) :: js)

end

end JsonTree

namespace Json

/-- Reads a JSON text. -/
def parse (text : String) : Except SyntaxFault Json := do
  let source := JsonTree.ofText text
  let value ← source.tree.read
  match source.tail with
  | some fault => .error fault
  | none => .ok value

end Json

end SchemaSeed
