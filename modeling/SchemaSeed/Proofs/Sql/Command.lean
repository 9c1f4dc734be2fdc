import Mathlib
import SchemaSeed.Proofs.Sql.Quoting
import SchemaSeed.Sql.Session

/-!
What a statement asks for. Its tokens are taken, its placeholders are replaced by the parameters in
order, and the insertion, the replacement or the count that stands there is read off.
-/

set_option autoImplicit false
set_option relaxedAutoImplicit false

namespace SchemaSeed.Sql

/-- The numbers of the placeholders, in order. -/
def placeholders (tokens : List Token) : List (Option Nat) :=
  tokens.filterMap fun
    | .parameter number => some number
    | _ => none

/-- A token of a statement in which values stand for the placeholders. -/
inductive Lexeme where
  | token (t : Token)
  | value (v : Value)

/-- Puts the parameters in the places of the placeholders, in order; there must be just as many. -/
def fill : List Token → List Value → Option (List Lexeme)
  | [], [] => some []
  | [], _ :: _ => none
  | t :: rest, params =>
    match t, params with
    | .parameter _, [] => none
    | .parameter _, v :: others => (.value v :: ·) <$> fill rest others
    | t, params => (.token t :: ·) <$> fill rest params

/-- A comparison in a condition. -/
inductive Comparison where
  | isNull (column : String)
  | equals (column : String) (value : Value)

/-- The comparison of a column with a value; missing values are told by `IS NULL`. -/
def Comparison.of (column : String) (value : Value) : Comparison :=
  if value.isNull then .isNull column else .equals column value

/-- A condition: all comparisons of one of its parts hold. -/
abbrev Condition := List (List Comparison)

/-- What a statement asks for. -/
inductive Command where
  /-- To add a row with these cells. -/
  | insert (table : String) (cells : List (String × Value))
  /-- To put these cells into the rows that meet a condition. -/
  | update (table : String) (cells : List (String × Value)) (condition : Condition)
  /-- To count the rows that meet a condition. -/
  | count (table : String) (condition : Condition)

namespace Lexeme

def isSymbol (c : Char) : Lexeme → Bool
  | .token (.symbol c') => c' == c
  | _ => false

def isWord (text : String) : Lexeme → Bool
  | .token (.word text') => text' == text
  | _ => false

/-- A value that is written where a value may be written. -/
def operand? : List Lexeme → Option Value
  | [.value v] => some v
  | [.token (.quoted .literal text)] => some (.untyped text)
  | [.token (.word "NULL")] => some .null
  | _ => none

/-- The name of a column. -/
def column? : List Lexeme → Option String
  | [.token (.quoted .name column)] => some column
  | _ => none

/-- A column and the value that it gets. -/
def assignment? : List Lexeme → Option (String × Value)
  | .token (.quoted .name column) :: .token (.symbol '=') :: operand =>
    (column, ·) <$> operand? operand
  | _ => none

/-- A comparison. A value that is compared must be there: nothing equals a missing value. -/
def comparison? : List Lexeme → Option Comparison
  | [.token (.quoted .name column), .token (.word "IS"), .token (.word "NULL")] =>
    some (.isNull column)
  | .token (.quoted .name column) :: .token (.symbol '=') :: operand =>
    .equals column <$> operand? operand
  | _ => none

/-- Things with a separator between them. -/
def separated? {α : Type} (separator : Lexeme → Bool) (item? : List Lexeme → Option α)
    (lexemes : List Lexeme) : Option (List α) :=
  (lexemes.splitOnP separator).mapM item?

/-- A condition, in which `AND` binds more tightly than `OR`. -/
def condition? : List Lexeme → Option Condition :=
  separated? (isWord "OR") (separated? (isWord "AND") comparison?)

/-- The cells of a row: as many values as columns. -/
def cells? : List Lexeme → List Lexeme → Option (List (String × Value))
  | [], [] => some []
  | columns, values => do
    let columns ← separated? (isSymbol ',') column? columns
    let values ← separated? (isSymbol ',') operand? values
    if columns.length = values.length then some (columns.zip values) else none

end Lexeme

namespace Command

open Lexeme

/-- What an insertion into a table adds. -/
def insertion? : List Lexeme → Option (List (String × Value))
  | [.token (.word "DEFAULT"), .token (.word "VALUES")] => some []
  | .token (.symbol '(') :: rest =>
    match rest.splitOnP (isSymbol ')') with
    | [columns, .token (.word "VALUES") :: .token (.symbol '(') :: values, []] =>
      cells? columns values
    | _ => none
  | _ => none

/-- The command that some lexemes are, if they are one. -/
def ofLexemes? : List Lexeme → Option Command
  | .token (.word "INSERT") :: .token (.word "INTO") :: .token (.quoted .name table) :: rest =>
    .insert table <$> insertion? rest
  | .token (.word "UPDATE") :: .token (.quoted .name table) :: .token (.word "SET") :: rest =>
    match rest.splitOnP (isWord "WHERE") with
    | [assignments, condition] => do
      let cells ← separated? (isSymbol ',') assignment? assignments
      .update table cells <$> condition? condition
    | _ => none
  | .token (.word "SELECT") :: .token (.word "COUNT") :: .token (.symbol '(') ::
      .token (.symbol '*') :: .token (.symbol ')') :: .token (.word "AS") ::
      .token (.word "count") :: .token (.word "FROM") :: .token (.quoted .name table) ::
      .token (.word "WHERE") :: rest => .count table <$> condition? rest
  | _ => none

/-- The command that a call is, if it is one. -/
def of? (d : Dialect) (call : Call) : Option Command := do
  let lexemes ← fill (← tokens? d call.sql) call.params
  ofLexemes? lexemes

end Command

/-- A call asks a server of a dialect for a command. The placeholders in its statement are as many
as its parameters; where they are counted, they are the numbers from one upwards in order. -/
def Denotes (d : Dialect) (call : Call) (command : Command) : Prop :=
  (∃ tokens, tokens? d call.sql = some tokens ∧
    placeholders tokens = (List.range' 1 call.params.length).map d.parameterNumber) ∧
    Command.of? d call = some command

section

variable {tokens tokens' : List Token} {params params' : List Value}
  {lexemes lexemes' : List Lexeme}

theorem placeholders_append :
    placeholders (tokens ++ tokens') = placeholders tokens ++ placeholders tokens' :=
  List.filterMap_append

private theorem fill_parameter (number : Option Nat) (v : Value) :
    fill (.parameter number :: tokens) (v :: params) = (.value v :: ·) <$> fill tokens params := rfl

private theorem fill_other {t : Token} (other : ∀ number, t ≠ .parameter number) :
    fill (t :: tokens) params = (.token t :: ·) <$> fill tokens params := by
  cases t with
  | parameter number => exact absurd rfl (other number)
  | _ => cases params <;> rfl

/-- Tokens without placeholders take no parameter. -/
theorem fill_plain (plain : placeholders tokens = []) :
    fill tokens [] = some (tokens.map .token) := by
  induction tokens with
  | nil => rfl
  | cons t rest ih =>
    unfold placeholders at ih plain
    cases t with
    | parameter number => simp at plain
    | _ =>
      rw [fill_other (by simp), ih plain]
      rfl

/-- Two rows of tokens are filled one after the other. -/
theorem fill_append (first : fill tokens params = some lexemes)
    (second : fill tokens' params' = some lexemes') :
    fill (tokens ++ tokens') (params ++ params') = some (lexemes ++ lexemes') := by
  induction tokens generalizing params lexemes with
  | nil =>
    cases params with
    | nil =>
      obtain rfl : [] = lexemes := Option.some.inj first
      exact second
    | cons v rest => cases first
  | cons t rest ih =>
    by_cases parameter : ∃ number, t = .parameter number
    · obtain ⟨number, rfl⟩ := parameter
      cases params with
      | nil => cases first
      | cons v others =>
        rw [fill_parameter] at first
        obtain ⟨filled, whole, rfl⟩ := Option.map_eq_some_iff.mp first
        rw [List.cons_append, List.cons_append, fill_parameter, ih whole]
        rfl
    · have other : ∀ number, t ≠ .parameter number := fun number same => parameter ⟨number, same⟩
      rw [fill_other other] at first
      obtain ⟨filled, whole, rfl⟩ := Option.map_eq_some_iff.mp first
      rw [List.cons_append, fill_other other, ih whole]
      rfl

end

namespace Lexeme

variable {ι α : Type} {separator : Lexeme → Bool} {mark : Lexeme} {part : ι → List Lexeme}
  {items : List ι}

/-- A row of parts with a separator between them falls apart into them again. -/
private theorem splitOnP_intercalate (marks : separator mark = true) {parts : List (List Lexeme)}
    (something : parts ≠ []) (inside : ∀ part ∈ parts, ∀ l ∈ part, separator l = false) :
    ([mark].intercalate parts).splitOnP separator = parts := by
  induction parts with
  | nil => exact absurd rfl something
  | cons first rest ih =>
    obtain ⟨plain, others⟩ := List.forall_mem_cons.mp inside
    cases rest with
    | nil => rw [List.intercalate_singleton, List.splitOnP_eq_singleton plain]
    | cons second rest =>
      rw [List.intercalate_cons_cons, List.append_assoc, List.singleton_append,
        List.splitOnP_append_cons_of_forall_mem plain mark marks, ih (by simp) others]

/-- What stands in parts with a separator between them is the separator, or stands in a part. -/
theorem forall_mem_intercalate {R : Lexeme → Prop} {parts : List (List Lexeme)} (between : R mark)
    (each : ∀ part ∈ parts, ∀ l ∈ part, R l) : ∀ l ∈ [mark].intercalate parts, R l := by
  induction parts with
  | nil => simp
  | cons first rest ih =>
    obtain ⟨one, others⟩ := List.forall_mem_cons.mp each
    cases rest with
    | nil =>
      rw [List.intercalate_singleton]
      exact one
    | cons second rest =>
      rw [List.intercalate_cons_cons]
      refine List.forall_mem_append.mpr ⟨List.forall_mem_append.mpr ⟨one, ?_⟩, ih others⟩
      exact List.forall_mem_singleton.mpr between

/-- One thing without a separator is read as it is. -/
theorem separated?_single {item? : List Lexeme → Option α} {lexemes : List Lexeme} {a : α}
    (inside : ∀ l ∈ lexemes, separator l = false) (read : item? lexemes = some a) :
    separated? separator item? lexemes = some [a] := by
  unfold separated?
  rw [List.splitOnP_eq_singleton inside, List.mapM_cons, read]
  rfl

/-- Things that are joined by a separator, which none of them has inside, are read one by one. -/
theorem separated?_intercalate {item? : List Lexeme → Option α} {item : ι → α}
    (marks : separator mark = true) (something : items ≠ [])
    (inside : ∀ i ∈ items, ∀ l ∈ part i, separator l = false)
    (read : ∀ i ∈ items, item? (part i) = some (item i)) :
    separated? separator item? ([mark].intercalate (items.map part)) = some (items.map item) := by
  have parts : items.map part ≠ [] := by simpa using something
  unfold separated?
  rw [splitOnP_intercalate marks parts (List.forall_mem_map.mpr inside)]
  clear something inside parts
  induction items with
  | nil => rfl
  | cons i rest ih =>
    obtain ⟨first, others⟩ := List.forall_mem_cons.mp read
    rw [List.map_cons, List.mapM_cons, first, ih others]
    rfl

theorem cells?_eq {columns values : List Lexeme} {cells : List (String × Value)}
    (names : separated? (isSymbol ',') column? columns = some (cells.map Prod.fst))
    (operands : separated? (isSymbol ',') operand? values = some (cells.map Prod.snd)) :
    cells? columns values = some cells := by
  cases columns with
  | nil => cases names
  | cons first rest =>
    have opened : cells? (first :: rest) values = (do
        let columns ← separated? (isSymbol ',') column? (first :: rest)
        let values ← separated? (isSymbol ',') operand? values
        if columns.length = values.length then some (columns.zip values) else none) := rfl
    rw [opened, names, operands]
    dsimp only [Option.bind_eq_bind, Option.bind_some]
    rw [if_pos (by simp), ← List.zip_of_prod rfl rfl]

end Lexeme

namespace Command

open Lexeme

/-- The lexemes of an insertion, its columns and its values in parentheses. -/
def insertion (table : String) (columns values : List Lexeme) : List Lexeme :=
  token (.word "INSERT") :: token (.word "INTO") :: token (.quoted .name table) ::
    token (.symbol '(') :: (columns ++ token (.symbol ')') :: token (.word "VALUES") ::
      token (.symbol '(') :: (values ++ [token (.symbol ')')]))

/-- The lexemes of an update, a word before its condition. -/
def updating (table : String) (assignments condition : List Lexeme) : List Lexeme :=
  token (.word "UPDATE") :: token (.quoted .name table) :: token (.word "SET") ::
    (assignments ++ token (.word "WHERE") :: condition)

/-- The lexemes of a count of the rows that meet a condition. -/
def counting (table : String) (condition : List Lexeme) : List Lexeme :=
  token (.word "SELECT") :: token (.word "COUNT") :: token (.symbol '(') :: token (.symbol '*') ::
    token (.symbol ')') :: token (.word "AS") :: token (.word "count") :: token (.word "FROM") ::
      token (.quoted .name table) :: token (.word "WHERE") :: condition

/-- An insertion is taken apart at its closing parentheses. -/
theorem ofLexemes?_insertion {table : String} {columns values : List Lexeme}
    (plain : ∀ l ∈ columns, l.isSymbol ')' = false)
    (plain' : ∀ l ∈ values, l.isSymbol ')' = false) :
    ofLexemes? (insertion table columns values) = .insert table <$> cells? columns values := by
  have tail : ∀ l ∈ token (.word "VALUES") :: token (.symbol '(') :: values,
      l.isSymbol ')' = false :=
    List.forall_mem_cons.mpr ⟨rfl, List.forall_mem_cons.mpr ⟨rfl, plain'⟩⟩
  have opened (rest : List Lexeme) : insertion? (token (.symbol '(') :: rest) =
      match rest.splitOnP (isSymbol ')') with
      | [columns, .token (.word "VALUES") :: .token (.symbol '(') :: values, []] =>
        cells? columns values
      | _ => none := rfl
  change Command.insert table <$> insertion? (token (.symbol '(') :: (columns ++ token (.symbol ')') ::
    ((token (.word "VALUES") :: token (.symbol '(') :: values) ++ [token (.symbol ')')]))) = _
  rw [opened, List.splitOnP_append_cons_of_forall_mem plain _ rfl,
    List.splitOnP_append_cons_of_forall_mem tail _ rfl, List.splitOnP_nil]
  rfl

/-- An update is taken apart at the word before its condition. -/
theorem ofLexemes?_updating {table : String} {assignments condition : List Lexeme}
    (plain : ∀ l ∈ assignments, l.isWord "WHERE" = false)
    (plain' : ∀ l ∈ condition, l.isWord "WHERE" = false) :
    ofLexemes? (updating table assignments condition) =
      (do
        let cells ← separated? (isSymbol ',') assignment? assignments
        .update table cells <$> condition? condition) := by
  have opened (rest : List Lexeme) : ofLexemes? (token (.word "UPDATE") ::
      token (.quoted .name table) :: token (.word "SET") :: rest) =
      match rest.splitOnP (isWord "WHERE") with
      | [assignments, condition] => do
        let cells ← separated? (isSymbol ',') assignment? assignments
        .update table cells <$> condition? condition
      | _ => none := rfl
  unfold updating
  rw [opened, List.splitOnP_append_cons_of_forall_mem plain _ rfl,
    List.splitOnP_eq_singleton plain']

theorem ofLexemes?_counting {table : String} (condition : List Lexeme) :
    ofLexemes? (counting table condition) = .count table <$> condition? condition := rfl

end Command

end SchemaSeed.Sql
