import SchemaSeed.Number.Decimal
import SchemaSeed.Pattern.Program
import SchemaSeed.Text.Alphanumeric
import SchemaSeed.Text.Blank

/-!
The directives of a report filter.

A directive is a level, or a target with an optional span in brackets and an optional level behind an
equals sign; a span may ask for a field in braces. Directives stand between commas. A directive is
walked without the blanks around it, but the texts of levels and fields are cut out of it with these
blanks, at the places that were counted without them; so a blank before a directive shifts what is
read as its level.
-/

set_option autoImplicit false
set_option relaxedAutoImplicit false

namespace SchemaSeed.Settings

/-- Why a text is no filter. -/
inductive DirectiveFault where
  | malformed
  | unknownLevel
  /-- The value that a field is compared with is neither a number nor a pattern. -/
  | invalidField (reason : String)
  deriving DecidableEq, Repr

namespace DirectiveFault

/-- The text of a fault. -/
def message : DirectiveFault → String
  | .malformed => "invalid filter directive"
  | .unknownLevel =>
    "error parsing level filter: expected one of \"off\", \"error\", \"warn\", \"info\", " ++
      "\"debug\", \"trace\", or a number 0-5"
  | .invalidField reason => "invalid field filter: " ++ reason

/-- The fault and the cause under it, the outer one first. The cause of a level that is none is told
in the same words again. -/
def causes : DirectiveFault → List String
  | .malformed => [message .malformed]
  | .unknownLevel => [message .unknownLevel, message .unknownLevel]
  | .invalidField reason => [message (.invalidField reason), reason]

end DirectiveFault

namespace Directive

/-- A part of a text by the places of its bytes: from one place to before another. -/
def bytes (first last : Nat) : List Char → List Char
  | [] => []
  | c :: rest =>
    if last = 0 then []
    else
      let more := bytes (first - c.utf8Size) (last - c.utf8Size) rest
      if first = 0 then c :: more else more

/-- Levels by their names, in any case, or by their numbers. -/
def isLevel (s : String) : Bool :=
  (Number.natBelow? 6 s).isSome ||
    ["off", "error", "warn", "info", "debug", "trace"].contains (s.map Char.toLower)

/-- Whether a condition asks for the edge of a word of any script. -/
def isWideEdge : Pattern.Look → Bool
  | .word _ unicode => unicode
  | _ => false

/-- Checks the value of a field. One that is no number has to be a pattern, and one in which the edges
of words are those of basic Latin. -/
def checkValue (value : String) : Except DirectiveFault Unit :=
  if (Number.Binary.ofText? .double value).isSome then .ok ()
  else
    match Pattern.Node.ofText? value with
    | none => .error (.invalidField "error building NFA")
    | some n =>
      if n.looks.any isWideEdge then
        .error (.invalidField
          ("unsupported regex feature for DFAs: cannot build DFAs for regexes with Unicode word " ++
            "boundaries; switch to ASCII word boundaries, or heuristically enable Unicode word " ++
            "boundaries or use a different regex engine"))
      else .ok ()

/-- A field is a name, or a name and a value behind an equals sign. -/
def checkField (field : String) : Except DirectiveFault Unit :=
  match field.splitOn "=" with
  | _ :: value :: _ => checkValue value
  | _ => .ok ()

/-- What a directive has been read up to. -/
inductive Stage where
  | start
  | levelOrTarget
  | span
  /-- The name or value of a field that starts at a place. -/
  | field (first : Nat)
  | afterField
  | afterSpan
  /-- The text of a level that starts at a place. -/
  | level (first : Nat)
  deriving DecidableEq, Repr

/-- Marks that a directive may start with, apart from letters and numbers. -/
def startMarks : List Char := ['-', ':', '_']

/-- Reads on over the character at a place. -/
def step (piece : List Char) (place : Nat) (c : Char) : Stage → Except DirectiveFault Stage
  | .start =>
    if c = '[' then .ok .span
    else if startMarks.contains c || Text.isAlphanumeric c then .ok .levelOrTarget
    else .error .malformed
  | .levelOrTarget =>
    if c = '=' then .ok (.level (place + 1)) else if c = '[' then .ok .span else .ok .levelOrTarget
  | .span =>
    if c = ']' then .ok .afterSpan else if c = '\x7b' then .ok (.field (place + 1)) else .ok .span
  | .field first =>
    if c = '\x7d' then
      if first = place then .error .malformed
      else do
        checkField (String.ofList (bytes first place piece))
        return .afterField
    else .ok (.field first)
  | .afterField => if c = ']' then .ok .afterSpan else .error .malformed
  | .afterSpan => if c = '=' then .ok (.level (place + 1)) else .error .malformed
  | .level first => .ok (.level first)

/-- Reads a text from a place on. -/
def walk (piece : List Char) (place : Nat) (stage : Stage) :
    List Char → Except DirectiveFault Stage
  | [] => .ok stage
  | c :: rest => do walk piece (place + c.utf8Size) (← step piece place c stage) rest

/-- Checks what was read when a directive has ended. A level that is left out is any level. -/
def finish (piece : List Char) : Stage → Except DirectiveFault Unit
  | .levelOrTarget => .ok ()
  | .afterSpan => .ok ()
  | .level first =>
    let level := String.ofList (bytes first (String.ofList piece).utf8ByteSize piece)
    if level = "" ∨ isLevel level then .ok () else .error .unknownLevel
  | _ => .error .malformed

/-- Checks a directive. -/
def check (piece : String) : Except DirectiveFault Unit := do
  finish piece.toList (← walk piece.toList 0 .start (Text.trimChars piece.toList))

/-- Checks a filter; nothing between two commas is no directive. -/
def checkFilter (filter : String) : Except DirectiveFault Unit :=
  ((filter.splitOn ",").filter (· ≠ "")).forM check

end Directive

end SchemaSeed.Settings
