import Mathlib
import SchemaSeed.Sql.Dialect

/-!
How a server takes a statement apart: into words, quoted names, string literals, placeholders and
single symbols. The reader goes from character to character, so what it makes of two texts one after
the other follows from what it makes of each of them.

Names stand between the quote marks of the dialect and literals between apostrophes, in both of
which the mark itself is doubled; in the literals of one dialect a backslash escapes as well.
-/

set_option autoImplicit false
set_option relaxedAutoImplicit false

namespace SchemaSeed.Sql

/-- What is written between marks. -/
inductive Quotation where
  | name
  | literal
  deriving DecidableEq, Repr

/-- The mark before and after a quotation. -/
def Quotation.mark (d : Dialect) : Quotation → Char
  | .name => d.quoteMark
  | .literal => '\''

/-- A part of a statement. -/
inductive Token where
  | word (text : String)
  | symbol (c : Char)
  | quoted (kind : Quotation) (text : String)
  /-- A placeholder, with its number in the dialect that counts them. -/
  | parameter (number : Option Nat)
  deriving DecidableEq, Repr

/-- What the reader of a statement is in the middle of, with the characters of it so far. -/
inductive Scan where
  | between
  | word (read : List Char)
  /-- After the sign of a numbered placeholder. -/
  | number (read : List Char)
  | inside (kind : Quotation) (read : List Char)
  /-- After a backslash in a literal. -/
  | escaped (read : List Char)
  /-- After a mark in a quotation: the quotation has ended unless the mark is doubled. -/
  | closing (kind : Quotation) (read : List Char)
  deriving DecidableEq, Repr

/-- A character that a word can start with. -/
def isWordStart (c : Char) : Bool := c.isAlphanum || c == '_' || 128 ≤ c.toNat

/-- A character that a word can go on with. -/
def isWordPart (c : Char) : Bool := isWordStart c || c == '$'

/-- What a backslash and a character stand for in a literal. -/
def unescape : Char → List Char
  | '0' => [Char.ofNat 0]
  | 'b' => [Char.ofNat 8]
  | 't' => ['\t']
  | 'n' => ['\n']
  | 'r' => ['\r']
  | 'Z' => [Char.ofNat 26]
  | '%' => ['\\', '%']
  | '_' => ['\\', '_']
  | c => [c]

namespace Scan

/-- The reader is between two tokens. -/
def Idle (r : Scan) : Prop := r = .between

/-- The reader is not inside a quotation, so a statement may end here. -/
def Settled : Scan → Prop
  | .inside _ _ => False
  | .escaped _ => False
  | _ => True

instance : DecidablePred Idle := fun r => inferInstanceAs (Decidable (r = .between))

instance : DecidablePred Settled := fun r =>
  match r with
  | .inside _ _ => isFalse id
  | .escaped _ => isFalse id
  | .between => isTrue trivial
  | .word _ => isTrue trivial
  | .number _ => isTrue trivial
  | .closing _ _ => isTrue trivial

theorem Idle.settled {r : Scan} (idle : r.Idle) : r.Settled := by
  rw [show r = .between from idle]
  trivial

/-- The token that has been read when nothing more belongs to it. -/
def pending : Scan → List Token
  | .word read => [.word (String.ofList read)]
  | .number read =>
    [if read = [] then .symbol '$' else .parameter (some (Nat.ofDigitChars 10 read 0))]
  | .closing kind read => [.quoted kind (String.ofList read)]
  | _ => []

/-- Reads the first character of a token, or one between two tokens. -/
def opening (d : Dialect) (c : Char) : Scan × List Token :=
  if c = d.quoteMark then (.inside .name [], [])
  else if c = '\'' then (.inside .literal [], [])
  else if c = '$' ∧ d = .postgres then (.number [], [])
  else if c = '?' ∧ d = .mysql then (.between, [.parameter none])
  else if isWordStart c then (.word [c], [])
  else if c.isWhitespace then (.between, [])
  else (.between, [.symbol c])

/-- Reads a character that does not belong to what was read before. -/
def next (d : Dialect) (r : Scan) (c : Char) : Scan × List Token :=
  ((opening d c).1, r.pending ++ (opening d c).2)

/-- Reads a character. -/
def step (d : Dialect) (r : Scan) (c : Char) : Scan × List Token :=
  match r with
  | .between => next d r c
  | .word read => if isWordPart c then (.word (read ++ [c]), []) else next d r c
  | .number read => if c.isDigit then (.number (read ++ [c]), []) else next d r c
  | .inside kind read =>
    if c = kind.mark d then (.closing kind read, [])
    else if c = '\\' ∧ kind = .literal ∧ d = .mysql then (.escaped read, [])
    else (.inside kind (read ++ [c]), [])
  | .escaped read => (.inside .literal (read ++ unescape c), [])
  | .closing kind read => if c = kind.mark d then (.inside kind (read ++ [c]), []) else next d r c

/-- Reads some characters. -/
def feed (d : Dialect) (r : Scan) : List Char → Scan × List Token
  | [] => (r, [])
  | c :: rest =>
    let one := step d r c
    let others := feed d one.1 rest
    (others.1, one.2 ++ others.2)

section

variable (d : Dialect) (r : Scan)

theorem feed_cons (c : Char) (rest : List Char) :
    feed d r (c :: rest) =
      ((feed d (step d r c).1 rest).1, (step d r c).2 ++ (feed d (step d r c).1 rest).2) := rfl

/-- Two texts are read one after the other. -/
theorem feed_append (first second : List Char) :
    feed d r (first ++ second) =
      ((feed d (feed d r first).1 second).1,
        (feed d r first).2 ++ (feed d (feed d r first).1 second).2) := by
  induction first generalizing r with
  | nil => rfl
  | cons c rest ih => rw [List.cons_append, feed_cons, ih, feed_cons, List.append_assoc]

end

end Scan

/-- The tokens of a statement; there are none if a quotation is left open. -/
def tokens? (d : Dialect) (text : String) : Option (List Token) :=
  let (r, tokens) := Scan.feed d .between text.toList
  if r.Settled then some (tokens ++ r.pending) else none

/-- A text gives some tokens wherever the reader is in a state of one kind, and leaves it in a state
of another kind. The token that the reader was in the middle of comes before them. -/
def Reads (d : Dialect) (P Q : Scan → Prop) (text : String) (tokens : List Token) : Prop :=
  ∀ ⦃r : Scan⦄, P r → ∃ r' out, Scan.feed d r text.toList = (r', out) ∧ Q r' ∧
    out ++ r'.pending = r.pending ++ tokens

/-- A character that ends every token that may end before it: it is no part of a word and no
mark. -/
def isBreak (c : Char) : Bool := !isWordPart c && c != '"' && c != '`' && c != '\''

namespace Reads

open Scan

variable {d : Dialect} {P Q M : Scan → Prop} {text text' : String} {tokens tokens' : List Token}

theorem empty : Reads d P P "" [] := fun r here => ⟨r, [], rfl, here, by simp⟩

/-- Two texts one after the other give the tokens of both. -/
theorem append (first : Reads d P M text tokens) (second : Reads d M Q text' tokens') :
    Reads d P Q (text ++ text') (tokens ++ tokens') := by
  intro r here
  obtain ⟨r₁, out, fed, there, same⟩ := first here
  obtain ⟨r₂, out', fed', end_, same'⟩ := second there
  refine ⟨r₂, out ++ out', ?_, end_, ?_⟩
  · rw [String.toList_append, feed_append, fed, fed']
  · calc out ++ out' ++ r₂.pending
        = out ++ (r₁.pending ++ tokens') := by rw [List.append_assoc, same']
      _ = r.pending ++ (tokens ++ tokens') := by
          rw [← List.append_assoc, same, List.append_assoc]

/-- After what leaves the reader between two tokens, it may be in the middle of one. -/
theorem settled (reads : Reads d P Idle text tokens) : Reads d P Settled text tokens := by
  intro r here
  obtain ⟨r', out, fed, idle, same⟩ := reads here
  exact ⟨r', out, fed, idle.settled, same⟩

theorem of_feed {r' : Scan} {out : List Token}
    (fed : feed d .between text.toList = (r', out)) (there : Q r') :
    Reads d Idle Q text (out ++ r'.pending) := by
  rintro _ rfl
  exact ⟨r', out, fed, there, rfl⟩

/-- A character that breaks off what was read before it is read as the first one. -/
private theorem step_of_isBreak {c : Char} (breaks : isBreak c = true) {r : Scan}
    (settled : r.Settled) : step d r c = next d r c := by
  obtain ⟨⟨⟨part, double⟩, back⟩, single⟩ :
      ((isWordPart c = false ∧ c ≠ '"') ∧ c ≠ '`') ∧ c ≠ '\'' := by
    simpa [isBreak] using breaks
  have digit : c.isDigit = false := by
    unfold isWordPart isWordStart Char.isAlphanum at part
    simp only [Bool.or_eq_false_iff] at part
    exact part.1.1.1.2
  have mark (kind : Quotation) : c ≠ kind.mark d := by
    cases kind with
    | literal => exact single
    | name =>
      cases d with
      | postgres => exact double
      | mysql => exact back
  cases r with
  | between => rfl
  | word read => simp [step, part]
  | number read => simp [step, digit]
  | closing kind read => simp [step, mark kind]
  | inside kind read => exact settled.elim
  | escaped read => exact settled.elim

/-- A text that starts with such a character may follow what leaves the reader in the middle of a
token. -/
theorem loosen {c : Char} {rest : List Char} (starts : text.toList = c :: rest)
    (breaks : isBreak c = true) (reads : Reads d Idle Q text tokens) :
    Reads d Settled Q text tokens := by
  intro r here
  obtain ⟨r', out, fed, there, same⟩ := reads (rfl : Idle .between)
  rw [starts, feed_cons, show step d .between c = opening d c from rfl] at fed
  obtain ⟨state, written⟩ := Prod.mk.inj fed
  refine ⟨r', r.pending ++ out, ?_, there, ?_⟩
  · rw [starts, feed_cons, step_of_isBreak breaks here]
    refine Prod.ext state ?_
    change r.pending ++ (opening d c).2 ++ _ = _
    rw [List.append_assoc]
    exact congrArg (r.pending ++ ·) written
  · rw [List.append_assoc, same]
    rfl

/-- Fixed words, after which nothing is pending. -/
theorem words (fed : feed d .between text.toList = (.between, tokens)) :
    Reads d Idle Idle text tokens := by
  have reads : Reads d Idle Idle text (tokens ++ []) := of_feed fed rfl
  rw [List.append_nil] at reads
  exact reads

/-- Fixed words that may follow the middle of a token. -/
theorem spaced (starts : text.toList.head?.any isBreak = true)
    (fed : feed d .between text.toList = (.between, tokens)) :
    Reads d Settled Idle text tokens := by
  cases characters : text.toList with
  | nil =>
    rw [characters] at starts
    cases starts
  | cons c rest =>
    rw [characters] at starts
    exact loosen characters starts (words fed)

end Reads

/-- The tokens of a statement are those that it gives from its first character to its last. -/
theorem tokens?_eq_some_iff {d : Dialect} {text : String} {tokens : List Token} :
    tokens? d text = some tokens ↔ Reads d Scan.Idle Scan.Settled text tokens := by
  unfold tokens?
  rcases fed : Scan.feed d .between text.toList with ⟨r, out⟩
  dsimp only
  constructor
  · intro found
    split_ifs at found with settled
    obtain rfl := Option.some.inj found
    exact Reads.of_feed fed settled
  · intro reads
    obtain ⟨r', out', fed', settled, same⟩ := reads (rfl : Scan.Idle .between)
    obtain ⟨rfl, rfl⟩ := Prod.mk.inj (fed.symm.trans fed')
    rw [if_pos settled]
    exact congrArg some same

end SchemaSeed.Sql
