import Mathlib
import SchemaSeed.Proofs.Sql.Quoting

/-!
The outline of a statement: its tokens without what is quoted in them. A text is compared with one
that is written from blank names and texts; the two have one outline if names and texts stand in
quotations only. What is quoted is taken from left to right, and no statement ends before its text
does.
-/

set_option autoImplicit false
set_option relaxedAutoImplicit false

namespace SchemaSeed.Sql

open Scan

/-- The quoted names among some tokens. -/
def quotedNames (tokens : List Token) : List String :=
  tokens.filterMap fun
    | .quoted .name text => some text
    | _ => none

/-- The string literals among some tokens. -/
def quotedTexts (tokens : List Token) : List String :=
  tokens.filterMap fun
    | .quoted .literal text => some text
    | _ => none

/-- A token without what is quoted in it. -/
def Token.erased : Token → Token
  | .quoted kind _ => .quoted kind ""
  | t => t

/-- The outline of a text; there is none if a quotation is left open. -/
def outline? (d : Dialect) (text : String) : Option (List Token) :=
  (tokens? d text).map (·.map Token.erased)

/-- A statement is complete: it consists of tokens, and no sign before the one at its end ends a
statement. The names and the texts that are quoted in it are these. -/
def Complete (d : Dialect) (statement : String) (names texts : List String) : Prop :=
  ∃ body tokens, statement = body ++ ";" ∧ tokens? d statement = some (tokens ++ [.symbol ';']) ∧
    .symbol ';' ∉ tokens ∧ quotedNames tokens = names ∧ quotedTexts tokens = texts

/-- What a complete statement quotes is read from it in one way. -/
theorem Complete.unique {d : Dialect} {statement : String} {names names' texts texts' : List String}
    (complete : Complete d statement names texts) (complete' : Complete d statement names' texts') :
    names = names' ∧ texts = texts' := by
  obtain ⟨-, tokens, -, read, -, rfl, rfl⟩ := complete
  obtain ⟨-, tokens', -, read', -, rfl, rfl⟩ := complete'
  have same : tokens = tokens' := List.append_cancel_right (Option.some.inj (read.symm.trans read'))
  rw [same]
  exact ⟨rfl, rfl⟩

/-- A text quotes some names and texts, and it has the outline of another text; no statement ends
in it. It may start where the reader is in a state of one kind, and leaves it in a state of another
kind. -/
def Quotes (d : Dialect) (P Q : Scan → Prop) (text blank : String) (names texts : List String) :
    Prop :=
  ∃ tokens tokens', Reads d P Q text tokens ∧ Reads d P Q blank tokens' ∧
    tokens.map Token.erased = tokens'.map Token.erased ∧ .symbol ';' ∉ tokens ∧
    quotedNames tokens = names ∧ quotedTexts tokens = texts

/-- A character that neither starts a quotation or a placeholder nor ends a statement. -/
def isHarmless (c : Char) : Bool :=
  !(['"', '`', '\'', ';', '$', '?'].contains c)

/-- A text of such characters. -/
def IsHarmless (s : String) : Prop := s.toList.all isHarmless = true

instance (s : String) : Decidable (IsHarmless s) :=
  inferInstanceAs (Decidable (s.toList.all isHarmless = true))

theorem IsHarmless.append {s t : String} (first : IsHarmless s) (second : IsHarmless t) :
    IsHarmless (s ++ t) := by
  unfold IsHarmless at first second ⊢
  rw [String.toList_append, List.all_append, first, second]
  rfl

theorem IsHarmless.intercalate {mark : String} (between : IsHarmless mark) :
    ∀ {parts : List String}, (∀ s ∈ parts, IsHarmless s) → IsHarmless (mark.intercalate parts)
  | [], _ => (by decide : IsHarmless "")
  | [s], each => by
    rw [String.intercalate_singleton]
    exact each s (by simp)
  | s :: t :: rest, each => by
    obtain ⟨first, others⟩ := List.forall_mem_cons.mp each
    rw [String.intercalate_cons_cons]
    exact (first.append between).append (IsHarmless.intercalate between others)

theorem IsHarmless.of_all {s : String} {p : Char → Bool} (all : s.toList.all p = true)
    (kind : ∀ c, p c = true → isHarmless c = true) : IsHarmless s :=
  List.all_eq_true.mpr fun c member => kind c (List.all_eq_true.mp all c member)

/-- The reader is between tokens or in a word. -/
private def Outside : Scan → Prop
  | .between => True
  | .word _ => True
  | _ => False

private def isBare : Token → Bool
  | .word _ => true
  | .symbol c => c != ';'
  | _ => false

section

variable {d : Dialect} {r : Scan} {c : Char}

private theorem ne_of_harmless (harmless : isHarmless c = true) :
    c ≠ '"' ∧ c ≠ '`' ∧ c ≠ '\'' ∧ c ≠ ';' ∧ c ≠ '$' ∧ c ≠ '?' := by
  simpa [isHarmless] using harmless

private theorem opening_harmless (harmless : isHarmless c = true) :
    (opening d c = (.word [c], []) ∧ isWordPart c = true) ∨ opening d c = (.between, []) ∨
      opening d c = (.between, [.symbol c]) := by
  obtain ⟨double, back, single, -, dollar, question⟩ := ne_of_harmless harmless
  have mark : c ≠ d.quoteMark := by
    cases d with
    | postgres => exact double
    | mysql => exact back
  unfold opening
  rw [if_neg mark, if_neg single, if_neg fun h => dollar h.1, if_neg fun h => question h.1]
  by_cases start : isWordStart c = true
  · rw [if_pos start]
    refine .inl ⟨rfl, ?_⟩
    unfold isWordPart
    rw [start, Bool.true_or]
  · rw [if_neg start]
    by_cases space : c.isWhitespace = true
    · exact .inr (.inl (if_pos space))
    · exact .inr (.inr (if_neg space))

private theorem step_harmless (harmless : isHarmless c = true) (outside : Outside r) :
    Outside (step d r c).1 ∧ ((step d r c).2.all isBare = true) ∧
      (isWordPart c = false → (step d r c).1 = .between) := by
  have bare : isBare (.symbol c) = true := by
    obtain ⟨-, -, -, sign, -, -⟩ := ne_of_harmless harmless
    exact bne_iff_ne.mpr sign
  have fresh (pending : List Token) (rest : pending.all isBare = true) :
      Outside (opening d c).1 ∧ ((pending ++ (opening d c).2).all isBare = true) ∧
        (isWordPart c = false → (opening d c).1 = .between) := by
    rw [List.all_append, rest]
    rcases opening_harmless (d := d) harmless with ⟨same, part⟩ | same | same
    · rw [same, part]
      exact ⟨trivial, rfl, Bool.noConfusion⟩
    · rw [same]
      exact ⟨trivial, rfl, fun _ => rfl⟩
    · rw [same]
      exact ⟨trivial, by simpa using bare, fun _ => rfl⟩
  cases r with
  | between => exact fresh [] rfl
  | word read =>
    unfold step
    dsimp only
    by_cases part : isWordPart c = true
    · rw [if_pos part]
      exact ⟨trivial, rfl, fun other => absurd (part.symm.trans other) Bool.noConfusion⟩
    · rw [if_neg part]
      exact fresh _ rfl
  | number read => exact outside.elim
  | inside kind read => exact outside.elim
  | escaped read => exact outside.elim
  | closing kind read => exact outside.elim

private theorem feed_harmless {cs : List Char} (harmless : cs.all isHarmless = true)
    (outside : Outside r) :
    Outside (feed d r cs).1 ∧ (feed d r cs).2.all isBare = true := by
  induction cs generalizing r with
  | nil => exact ⟨outside, rfl⟩
  | cons c rest ih =>
    obtain ⟨first, others⟩ : isHarmless c = true ∧ rest.all isHarmless = true := by
      simpa using harmless
    obtain ⟨there, bare, -⟩ := step_harmless (d := d) first outside
    obtain ⟨end_, bare'⟩ := ih others there
    rw [feed_cons]
    refine ⟨end_, ?_⟩
    rw [List.all_append, bare, bare']
    rfl

/-- What is read outside is settled, and leaves bare tokens. -/
private theorem Outside.settled (outside : Outside r) :
    r.Settled ∧ r.pending.all isBare = true := by
  cases r with
  | between => exact ⟨trivial, rfl⟩
  | word read => exact ⟨trivial, rfl⟩
  | number read => exact outside.elim
  | inside kind read => exact outside.elim
  | escaped read => exact outside.elim
  | closing kind read => exact outside.elim

end

/-- Bare tokens quote nothing and end no statement. -/
private theorem of_bare {tokens : List Token} (bare : tokens.all isBare = true) :
    .symbol ';' ∉ tokens ∧ quotedNames tokens = [] ∧ quotedTexts tokens = [] := by
  rw [List.all_eq_true] at bare
  refine ⟨fun member => Bool.noConfusion (bare _ member), ?_, ?_⟩
  · refine List.filterMap_eq_nil_iff.mpr fun t member => ?_
    have here := bare t member
    cases t with
    | quoted kind text => cases here
    | _ => rfl
  · refine List.filterMap_eq_nil_iff.mpr fun t member => ?_
    have here := bare t member
    cases t with
    | quoted kind text => cases here
    | _ => rfl

/-- Whether a text starts with a character that ends whatever is before it. -/
def startsApart (text : String) : Bool := text.toList.head?.any isBreak

/-- Whether a text ends with a character that ends every word before it. -/
def endsApart (text : String) : Bool := text.toList.getLast?.all fun c => !isWordPart c

namespace Quotes

variable {d : Dialect} {P Q M : Scan → Prop} {text text' blank blank' : String}
  {names names' texts texts' : List String}

theorem empty : Quotes d P P "" "" [] [] :=
  ⟨[], [], .empty, .empty, rfl, by simp, rfl, rfl⟩

theorem append (first : Quotes d P M text blank names texts)
    (second : Quotes d M Q text' blank' names' texts') :
    Quotes d P Q (text ++ text') (blank ++ blank') (names ++ names') (texts ++ texts') := by
  obtain ⟨tokens₁, tokens₁', reads₁, reads₁', same₁, inside₁, rfl, rfl⟩ := first
  obtain ⟨tokens₂, tokens₂', reads₂, reads₂', same₂, inside₂, rfl, rfl⟩ := second
  refine ⟨tokens₁ ++ tokens₂, tokens₁' ++ tokens₂', reads₁.append reads₂, reads₁'.append reads₂',
    ?_, ?_, List.filterMap_append, List.filterMap_append⟩
  · rw [List.map_append, List.map_append, same₁, same₂]
  · simp [inside₁, inside₂]

/-- After what leaves the reader between two tokens, it may be in the middle of one. -/
theorem settled (quotes : Quotes d P Idle text blank names texts) :
    Quotes d P Settled text blank names texts := by
  obtain ⟨tokens, tokens', reads, reads', rest⟩ := quotes
  exact ⟨tokens, tokens', reads.settled, reads'.settled, rest⟩

theorem renamed (name name' : String) :
    Quotes d Idle Settled (d.quoteName name) (d.quoteName name') [name] [] :=
  ⟨_, _, .quoteName name, .quoteName name', rfl, by simp, rfl, rfl⟩

theorem ofName (name : String) :
    Quotes d Idle Settled (d.quoteName name) (d.quoteName "") [name] [] := renamed name ""

theorem ofText (text : String) :
    Quotes d Idle Settled (d.quoteText text) (d.quoteText "") [] [text] :=
  ⟨_, _, .quoteText text, .quoteText "", rfl, by simp, rfl, rfl⟩

private theorem of_reads {tokens : List Token} (reads : Reads d P Q text tokens)
    (bare : tokens.all isBare = true) : Quotes d P Q text text [] [] := by
  obtain ⟨inside, names, texts⟩ := of_bare bare
  exact ⟨tokens, tokens, reads, reads, rfl, inside, names, texts⟩

/-- A harmless text quotes nothing. -/
theorem harmless (plain : IsHarmless text) : Quotes d Idle Settled text text [] [] := by
  obtain ⟨outside, bare⟩ := feed_harmless (d := d) (r := .between) plain trivial
  rcases fed : feed d .between text.toList with ⟨r, out⟩
  rw [fed] at outside bare
  obtain ⟨settled, pending⟩ := outside.settled
  refine of_reads (Reads.of_feed fed settled) ?_
  rw [List.all_append, bare, pending]
  rfl

/-- Words with a gap after them. -/
theorem words (text : String) (apart : IsHarmless text ∧ endsApart text = true) :
    Quotes d Idle Idle text text [] [] := by
  obtain ⟨plain, ends⟩ := apart
  obtain ⟨-, bare⟩ := feed_harmless (d := d) (r := .between) plain trivial
  have idle : (feed d .between text.toList).1 = .between := by
    rcases List.eq_nil_or_concat text.toList with nothing | ⟨init, c, parts⟩
    · rw [nothing]
      rfl
    · unfold IsHarmless at plain
      unfold endsApart at ends
      rw [parts] at plain ends ⊢
      obtain ⟨before, last⟩ : init.all isHarmless = true ∧ isHarmless c = true := by
        simpa using plain
      have apart : isWordPart c = false := by simpa using ends
      obtain ⟨outside, -⟩ := feed_harmless (d := d) (r := .between) before trivial
      rw [List.concat_eq_append, feed_append]
      exact (step_harmless last outside).2.2 apart
  exact of_reads (Reads.words (Prod.ext idle rfl)) bare

/-- A text that starts apart from what is before it may follow the middle of a token. -/
theorem loosen (quotes : Quotes d Idle Q text text [] [])
    (starts : startsApart text = true) : Quotes d Settled Q text text [] [] := by
  obtain ⟨tokens, tokens', reads, reads', rest⟩ := quotes
  unfold startsApart at starts
  cases characters : text.toList with
  | nil =>
    rw [characters] at starts
    cases starts
  | cons c others =>
    rw [characters] at starts
    exact ⟨tokens, tokens', reads.loosen characters starts, reads'.loosen characters starts, rest⟩

/-- Words that start apart from what is before them, with a gap after them. -/
theorem gap (text : String)
    (apart : IsHarmless text ∧ startsApart text = true ∧ endsApart text = true) :
    Quotes d Settled Idle text text [] [] :=
  (words text ⟨apart.1, apart.2.2⟩).loosen apart.2.1

/-- Words that start apart from what is before them. -/
theorem tail (text : String) (apart : IsHarmless text ∧ startsApart text = true) :
    Quotes d Settled Settled text text [] [] :=
  (harmless apart.1).loosen apart.2

/-- The same names and texts, however they are grouped. -/
theorem congr (quotes : Quotes d P Q text blank names texts) (same : names' = names)
    (same' : texts' = texts) : Quotes d P Q text blank names' texts' := by
  rw [same, same']
  exact quotes

/-- A statement that ends where its text does. -/
theorem complete (quotes : Quotes d Idle Settled text blank names texts) :
    Complete d (text ++ ";") names texts ∧
      outline? d (text ++ ";") = outline? d (blank ++ ";") := by
  obtain ⟨tokens, tokens', reads, reads', same, inside, found, found'⟩ := quotes
  have sign : Reads d Settled Settled ";" [.symbol ';'] :=
    (Reads.spaced (by decide) (by cases d <;> decide)).settled
  have whole := tokens?_eq_some_iff.mpr (reads.append sign)
  have whole' := tokens?_eq_some_iff.mpr (reads'.append sign)
  refine ⟨⟨text, tokens, rfl, whole, inside, found, found'⟩, ?_⟩
  unfold outline?
  rw [whole, whole', Option.map_some, Option.map_some, List.map_append, List.map_append, same]

end Quotes

/-- Texts, each of which quotes its share of some names and texts. -/
inductive QuotesAll (d : Dialect) :
    List String → List String → List String → List String → Prop
  | nil : QuotesAll d [] [] [] []
  | cons {text blank : String} {parts blanks names texts names' texts' : List String}
    (first : Quotes d Idle Settled text blank names texts)
    (rest : QuotesAll d parts blanks names' texts') :
    QuotesAll d (text :: parts) (blank :: blanks) (names ++ names') (texts ++ texts')

namespace QuotesAll

variable {d : Dialect} {parts parts' blanks blanks' names names' texts texts' : List String}

theorem append (first : QuotesAll d parts blanks names texts)
    (second : QuotesAll d parts' blanks' names' texts') :
    QuotesAll d (parts ++ parts') (blanks ++ blanks') (names ++ names') (texts ++ texts') := by
  induction first with
  | nil => exact second
  | cons one _ ih =>
    rw [List.append_assoc, List.append_assoc]
    exact .cons one ih

theorem each {ι : Type} {items : List ι} {text blank : ι → String} {names texts : ι → List String}
    (one : ∀ i ∈ items, Quotes d Idle Settled (text i) (blank i) (names i) (texts i)) :
    QuotesAll d (items.map text) (items.map blank) (items.flatMap names)
      (items.flatMap texts) := by
  induction items with
  | nil => exact .nil
  | cons i rest ih =>
    obtain ⟨first, others⟩ := List.forall_mem_cons.mp one
    exact .cons first (ih others)

/-- The texts of some things, beside the texts of the same things with less in them. -/
theorem map {ι : Type} {items : List ι} (text : ι → String) (less : ι → ι)
    {names texts : ι → List String}
    (one : ∀ i ∈ items, Quotes d Idle Settled (text i) (text (less i)) (names i) (texts i)) :
    QuotesAll d (items.map text) ((items.map less).map text) (items.flatMap names)
      (items.flatMap texts) := by
  rw [List.map_map]
  exact each one

theorem congr (all : QuotesAll d parts blanks names texts) (same : names' = names)
    (same' : texts' = texts) : QuotesAll d parts blanks names' texts' := by
  rw [same, same']
  exact all

theorem eq_nil_iff (all : QuotesAll d parts blanks names texts) : blanks = [] ↔ parts = [] := by
  cases all with
  | nil => rfl
  | cons one rest => simp

/-- Texts with a comma between them quote what each of them does. -/
theorem listed (all : QuotesAll d parts blanks names texts) :
    Quotes d Idle Settled (", ".intercalate parts) (", ".intercalate blanks) names texts := by
  induction all with
  | nil => exact Quotes.empty.settled
  | cons one rest ih =>
    cases rest with
    | nil =>
      rw [String.intercalate_singleton, String.intercalate_singleton, List.append_nil,
        List.append_nil]
      exact one
    | cons second others =>
      rw [String.intercalate_cons_cons, String.intercalate_cons_cons]
      refine ((one.append (.gap ", " (by decide))).append ih).congr ?_ ?_
      · rw [List.append_nil]
      · rw [List.append_nil]

end QuotesAll

end SchemaSeed.Sql
