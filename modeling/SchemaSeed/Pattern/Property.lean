import SchemaSeed.Pattern.Segmentation

/-!
The sets of characters that patterns can name: the short classes, the classes in brackets and
colons, and the properties of the character standard. Property names are compared loosely: case,
blanks, hyphens, underscores and a leading `is` do not count.
-/

set_option autoImplicit false
set_option relaxedAutoImplicit false

namespace SchemaSeed.Pattern

open SchemaSeed.Text

private def ranges (l : List (Nat × Nat)) : CodePoints := .ofRanges l

/-- The short classes. -/
inductive ShortClass where
  | digit
  | space
  | word
  deriving DecidableEq, Repr

/-- The characters of words: letters, marks, decimal digits, connectors and joiners. -/
def wordCharacters : CodePoints :=
  .ofRanges ((Edition.binary .alphabetic).ranges ++
    (Edition.categories (Category.marks ++ [.decimalNumber, .connectorPunctuation])).ranges ++
    (Edition.binary .joinControl).ranges)

private def asciiLetters : List (Nat × Nat) := [(0x41, 0x5A), (0x61, 0x7A)]

private def asciiDigits : List (Nat × Nat) := [(0x30, 0x39)]

/-- The characters of words among the first 128. -/
def asciiWordCharacters : CodePoints := ranges (asciiLetters ++ asciiDigits ++ [(0x5F, 0x5F)])

/-- The characters of a short class, of all or of the first 128. -/
def ShortClass.codePoints (unicode : Bool) : ShortClass → CodePoints
  | .digit => if unicode then Edition.category .decimalNumber else ranges asciiDigits
  | .space =>
    if unicode then Edition.binary .whiteSpace else ranges [(0x09, 0x0D), (0x20, 0x20)]
  | .word => if unicode then wordCharacters else asciiWordCharacters

/-- The class that stands between colons. -/
def namedClass? : String → Option CodePoints
  | "alnum" => some (ranges (asciiLetters ++ asciiDigits))
  | "alpha" => some (ranges asciiLetters)
  | "ascii" => some (.range 0 0x7F)
  | "blank" => some (ranges [(0x09, 0x09), (0x20, 0x20)])
  | "cntrl" => some (ranges [(0, 0x1F), (0x7F, 0x7F)])
  | "digit" => some (ranges asciiDigits)
  | "graph" => some (.range 0x21 0x7E)
  | "lower" => some (.range 0x61 0x7A)
  | "print" => some (.range 0x20 0x7E)
  | "punct" => some (ranges [(0x21, 0x2F), (0x3A, 0x40), (0x5B, 0x60), (0x7B, 0x7E)])
  | "space" => some (ranges [(0x09, 0x0D), (0x20, 0x20)])
  | "upper" => some (.range 0x41 0x5A)
  | "word" => some asciiWordCharacters
  | "xdigit" => some (ranges [(0x30, 0x39), (0x41, 0x46), (0x61, 0x66)])
  | _ => none

/-- The form in which names are compared. -/
def looseName (cs : List Char) : String :=
  let rest : List Char := match cs with
    | a :: b :: rest => if a.toLower = 'i' ∧ b.toLower = 's' then rest else cs
    | _ => cs
  let letters : List Char := (rest.filter fun c => c.toNat < 128 && c != ' ' && c != '_' && c != '-').map
    Char.toLower
  if letters = ['c'] ∧ rest.length < cs.length then "isc" else String.ofList letters

/-- The binary property of a loose name. -/
def binaryProperty? : String → Option BinaryProperty
  | "ahex" | "asciihexdigit" => some .asciiHexDigit
  | "alpha" | "alphabetic" => some .alphabetic
  | "bidic" | "bidicontrol" => some .bidiControl
  | "bidim" | "bidimirrored" => some .bidiMirrored
  | "ci" | "caseignorable" => some .caseIgnorable
  | "cased" => some .cased
  | "cwcf" | "changeswhencasefolded" => some .changesWhenCasefolded
  | "cwcm" | "changeswhencasemapped" => some .changesWhenCasemapped
  | "cwl" | "changeswhenlowercased" => some .changesWhenLowercased
  | "cwt" | "changeswhentitlecased" => some .changesWhenTitlecased
  | "cwu" | "changeswhenuppercased" => some .changesWhenUppercased
  | "dash" => some .dash
  | "di" | "defaultignorablecodepoint" => some .defaultIgnorableCodePoint
  | "dep" | "deprecated" => some .deprecated
  | "dia" | "diacritic" => some .diacritic
  | "emoji" => some .emoji
  | "ecomp" | "emojicomponent" => some .emojiComponent
  | "emod" | "emojimodifier" => some .emojiModifier
  | "ebase" | "emojimodifierbase" => some .emojiModifierBase
  | "epres" | "emojipresentation" => some .emojiPresentation
  | "extpict" | "extendedpictographic" => some .extendedPictographic
  | "ext" | "extender" => some .extender
  | "grbase" | "graphemebase" => some .graphemeBase
  | "grext" | "graphemeextend" => some .graphemeExtend
  | "grlink" | "graphemelink" => some .graphemeLink
  | "hex" | "hexdigit" => some .hexDigit
  | "hyphen" => some .hyphen
  | "idc" | "idcontinue" => some .idContinue
  | "ids" | "idstart" => some .idStart
  | "ideo" | "ideographic" => some .ideographic
  | "idsb" | "idsbinaryoperator" => some .idsBinaryOperator
  | "idst" | "idstrinaryoperator" => some .idsTrinaryOperator
  | "idsu" | "idsunaryoperator" => some .idsUnaryOperator
  | "idcompatmathcontinue" => some .idCompatMathContinue
  | "idcompatmathstart" => some .idCompatMathStart
  | "joinc" | "joincontrol" => some .joinControl
  | "loe" | "logicalorderexception" => some .logicalOrderException
  | "lower" | "lowercase" => some .lowercase
  | "math" => some .math
  | "mcm" | "modifiercombiningmark" => some .modifierCombiningMark
  | "nchar" | "noncharactercodepoint" => some .noncharacterCodePoint
  | "oalpha" | "otheralphabetic" => some .otherAlphabetic
  | "odi" | "otherdefaultignorablecodepoint" => some .otherDefaultIgnorableCodePoint
  | "ogrext" | "othergraphemeextend" => some .otherGraphemeExtend
  | "oidc" | "otheridcontinue" => some .otherIdContinue
  | "oids" | "otheridstart" => some .otherIdStart
  | "olower" | "otherlowercase" => some .otherLowercase
  | "omath" | "othermath" => some .otherMath
  | "oupper" | "otheruppercase" => some .otherUppercase
  | "patsyn" | "patternsyntax" => some .patternSyntax
  | "patws" | "patternwhitespace" => some .patternWhiteSpace
  | "pcm" | "prependedconcatenationmark" => some .prependedConcatenationMark
  | "qmark" | "quotationmark" => some .quotationMark
  | "radical" => some .radical
  | "ri" | "regionalindicator" => some .regionalIndicator
  | "sterm" | "sentenceterminal" => some .sentenceTerminal
  | "sd" | "softdotted" => some .softDotted
  | "term" | "terminalpunctuation" => some .terminalPunctuation
  | "uideo" | "unifiedideograph" => some .unifiedIdeograph
  | "upper" | "uppercase" => some .uppercase
  | "vs" | "variationselector" => some .variationSelector
  | "wspace" | "space" | "whitespace" => some .whiteSpace
  | "xidc" | "xidcontinue" => some .xidContinue
  | "xids" | "xidstart" => some .xidStart
  | _ => none

/-- The categories that a loose name stands for. -/
def categories? : String → Option (List Category)
  | "l" | "letter" => some Category.letters
  | "lc" | "casedletter" => some [.uppercaseLetter, .lowercaseLetter, .titlecaseLetter]
  | "lu" | "uppercaseletter" => some [.uppercaseLetter]
  | "ll" | "lowercaseletter" => some [.lowercaseLetter]
  | "lt" | "titlecaseletter" => some [.titlecaseLetter]
  | "lm" | "modifierletter" => some [.modifierLetter]
  | "lo" | "otherletter" => some [.otherLetter]
  | "m" | "mark" | "combiningmark" => some Category.marks
  | "mn" | "nonspacingmark" => some [.nonspacingMark]
  | "mc" | "spacingmark" => some [.spacingMark]
  | "me" | "enclosingmark" => some [.enclosingMark]
  | "n" | "number" => some Category.numberKinds
  | "nd" | "decimalnumber" | "digit" => some [.decimalNumber]
  | "nl" | "letternumber" => some [.letterNumber]
  | "no" | "othernumber" => some [.otherNumber]
  | "p" | "punctuation" | "punct" => some Category.punctuation
  | "pc" | "connectorpunctuation" => some [.connectorPunctuation]
  | "pd" | "dashpunctuation" => some [.dashPunctuation]
  | "ps" | "openpunctuation" => some [.openPunctuation]
  | "pe" | "closepunctuation" => some [.closePunctuation]
  | "pi" | "initialpunctuation" => some [.initialPunctuation]
  | "pf" | "finalpunctuation" => some [.finalPunctuation]
  | "po" | "otherpunctuation" => some [.otherPunctuation]
  | "s" | "symbol" => some Category.symbols
  | "sm" | "mathsymbol" => some [.mathSymbol]
  | "sc" | "currencysymbol" => some [.currencySymbol]
  | "sk" | "modifiersymbol" => some [.modifierSymbol]
  | "so" | "othersymbol" => some [.otherSymbol]
  | "z" | "separator" => some Category.separators
  | "zs" | "spaceseparator" => some [.spaceSeparator]
  | "zl" | "lineseparator" => some [.lineSeparator]
  | "zp" | "paragraphseparator" => some [.paragraphSeparator]
  | "c" | "other" => some Category.others
  | "cc" | "control" | "cntrl" => some [.control]
  | "cf" | "format" => some [.format]
  | "co" | "privateuse" => some [.privateUse]
  | "cn" | "unassigned" => some [.unassigned]
  | _ => none

/-- The characters of the general category of a loose name, or of a set that is named alike. -/
def generalCategory? (name : String) : Option CodePoints :=
  match name with
  | "any" => some .all
  | "assigned" => some (Edition.category .unassigned).complement
  | "ascii" => some (.range 0 0x7F)
  | _ => (categories? name).map Edition.categories

/-- The script of a loose name. -/
def script? (name : String) : Option Script :=
  match name with
  | "qaac" => find "coptic"
  | "qaai" => find "inherited"
  | _ => find name
where
  /-- Looks for a script by its short or long name. -/
  find (name : String) : Option Script :=
    Script.all.find? fun s =>
      looseName s.shortName.toList == name || looseName s.longName.toList == name

/-- The characters that had a meaning in the version of a loose name: `6.0`, or `v60` for the same. -/
def age? (name : String) : Option CodePoints :=
  (Version.additions.find? fun a =>
    a.1.isUpTo Edition.version &&
      (name == toString a.1.major ++ "." ++ toString a.1.minor ||
        name == "v" ++ toString a.1.major ++ toString a.1.minor)).map fun a => a.1.assigned

private def single? (name : String) : Option CodePoints :=
  ((binaryProperty? name).map Edition.binary) <|> generalCategory? name <|>
    (script? name).map Edition.script

private def valued? (property value : String) : Option CodePoints :=
  match property with
  | "gc" | "generalcategory" => generalCategory? value
  | "sc" | "script" => (script? value).map Edition.script
  | "scx" | "scriptextensions" => (script? value).map Edition.scriptExtensions
  | "age" => age? value
  | "gcb" | "graphemeclusterbreak" => (GraphemeBreak.ofName? value).map (·.codePoints)
  | "wb" | "wordbreak" => (WordBreak.ofName? value).map (·.codePoints)
  | "sb" | "sentencebreak" => (SentenceBreak.ofName? value).map (·.codePoints)
  | _ => none

/-- How a property is asked for: by one name, or by a name and a value that it has or lacks. -/
inductive PropertyQuery where
  | named (name : List Char)
  | valued (name value : List Char) (lacks : Bool)
  deriving DecidableEq, Repr

namespace PropertyQuery

private def splitUnequal (before : List Char) : List Char → Option (List Char × List Char)
  | '!' :: '=' :: rest => some (before.reverse, rest)
  | c :: rest => splitUnequal (c :: before) rest
  | [] => none

private def splitAt (mark : Char) (text : List Char) : Option (List Char × List Char) :=
  if text.contains mark then
    some (text.takeWhile (· != mark), (text.dropWhile (· != mark)).drop 1)
  else none

/-- The query of a text: the first `!=` parts a name from a value, or else the first colon, or else
the first `=`. -/
def ofText (text : List Char) : PropertyQuery :=
  match splitUnequal [] text with
  | some (name, value) => .valued name value true
  | none =>
    match splitAt ':' text <|> splitAt '=' text with
    | some (name, value) => .valued name value false
    | none => .named text

/-- Whether the characters outside the set are asked for. -/
def isNegated : PropertyQuery → Bool
  | .named _ => false
  | .valued _ _ lacks => lacks

/-- The characters that have the property or the value. -/
def codePoints? : PropertyQuery → Option CodePoints
  | .named name => single? (looseName name)
  | .valued name value _ => valued? (looseName name) (looseName value)

end PropertyQuery

/-- The set together with the counterparts of its members in other case. Small sets are walked member
by member, large ones by way of the characters that have counterparts. -/
def closeUnderCase (s : CodePoints) : CodePoints :=
  let varying :=
    if s.size ≤ 256 then s.ranges.flatMap fun r => (List.range (r.2 - r.1 + 1)).map (r.1 + ·)
    else caseVarying.filter s.contains
  .ofRanges (s.ranges ++ (varying.flatMap Edition.caseVariants).map fun c => (c, c))

/-- The set together with the counterparts of its basic Latin letters. -/
def closeUnderAsciiCase (s : CodePoints) : CodePoints :=
  let lower := s.inter (.range 0x61 0x7A)
  let upper := s.inter (.range 0x41 0x5A)
  .ofRanges (s.ranges ++ lower.ranges.map (fun r => (r.1 - 32, r.2 - 32)) ++
    upper.ranges.map fun r => (r.1 + 32, r.2 + 32))

end SchemaSeed.Pattern
