import Mathlib
import SchemaSeed.Seed.Statement
import SchemaSeed.Proofs.Sql.Command
import SchemaSeed.Proofs.Traversal

/-!
What the statements that write a row ask a server for. A text is written together with the values
that it binds, so each piece of it is taken with its share of them, and the pieces are put together.
-/

set_option autoImplicit false
set_option relaxedAutoImplicit false

namespace SchemaSeed.Seed

open SchemaSeed.Sql SchemaSeed.Sql.Scan

/-- A text that is written binds some values, and gives some lexemes if they stand in the places of
its placeholders. It may start where the reader is in a state of one kind, and leaves it in a state
of another kind. -/
def Writes (d : Dialect) (P Q : Scan → Prop) (text : Binding String) (lexemes : List Lexeme)
    (bound : List Value) : Prop :=
  ∀ params, ∃ sql tokens, text.run params = (sql, params ++ bound) ∧ Reads d P Q sql tokens ∧
    placeholders tokens = (List.range' (params.length + 1) bound.length).map d.parameterNumber ∧
    fill tokens bound = some lexemes

/-- Texts that are written one by one and then joined. -/
private def joined {ι : Type} (separator : String) (items : List ι) (text : ι → Binding String) :
    Binding String := do
  return separator.intercalate (← items.mapM text)

private theorem joined_singleton {ι : Type} (separator : String) (i : ι)
    (text : ι → Binding String) : joined separator [i] text = text i := by
  simp [joined]

private theorem joined_cons {ι : Type} (separator : String) (i j : ι) (rest : List ι)
    (text : ι → Binding String) :
    joined separator (i :: j :: rest) text = (do
      return (← text i) ++ (separator ++ (← joined separator (j :: rest) text))) := by
  simp [joined, String.append_assoc]

namespace Writes

variable {ι : Type} {d : Dialect} {P Q M : Scan → Prop} {text text' : Binding String}
  {lexemes lexemes' : List Lexeme} {bound bound' : List Value}

/-- A fixed text binds nothing. -/
theorem pure {sql : String} {tokens : List Token} (reads : Reads d P Q sql tokens)
    (plain : placeholders tokens = []) :
    Writes d P Q (Pure.pure sql) (tokens.map .token) [] := by
  intro params
  refine ⟨sql, tokens, ?_, reads, plain, fill_plain plain⟩
  rw [List.append_nil]
  rfl

/-- The same text, however it is grouped, and the same values. -/
theorem congr (writes : Writes d P Q text lexemes bound) (same : text' = text)
    (shares : bound' = bound) : Writes d P Q text' lexemes bound' := by
  rw [same, shares]
  exact writes

/-- After what leaves the reader between two tokens, it may be in the middle of one. -/
theorem settled (writes : Writes d P Idle text lexemes bound) :
    Writes d P Settled text lexemes bound := by
  intro params
  obtain ⟨sql, tokens, written, reads, rest⟩ := writes params
  exact ⟨sql, tokens, written, reads.settled, rest⟩

/-- Two texts are written one after the other, and the second one counts on from the first. -/
theorem append (first : Writes d P M text lexemes bound)
    (second : Writes d M Q text' lexemes' bound') :
    Writes d P Q (do return (← text) ++ (← text')) (lexemes ++ lexemes') (bound ++ bound') := by
  intro params
  obtain ⟨sql, tokens, written, reads, numbers, filled⟩ := first params
  obtain ⟨sql', tokens', written', reads', numbers', filled'⟩ := second (params ++ bound)
  refine ⟨sql ++ sql', tokens ++ tokens', ?_, reads.append reads', ?_, fill_append filled filled'⟩
  · have both : (do return (← text) ++ (← text') : Binding String).run params =
        ((text.run params).1 ++ (text'.run (text.run params).2).1,
          (text'.run (text.run params).2).2) := rfl
    rw [both, written, written', List.append_assoc]
  · rw [placeholders_append, numbers, numbers', List.length_append, List.length_append,
      ← List.range'_append_1, List.map_append, Nat.add_right_comm]

/-- Texts that are joined by a separator are written one by one. -/
private theorem joined {separator : String} {mark : Token} {items : List ι}
    {part : ι → List Lexeme} {share : ι → List Value} {text : ι → Binding String}
    (something : items ≠ []) (separates : Reads d Q P separator [mark])
    (plain : placeholders [mark] = [])
    (each : ∀ i ∈ items, Writes d P Q (text i) (part i) (share i)) :
    Writes d P Q (Seed.joined separator items text)
      ([Lexeme.token mark].intercalate (items.map part)) (items.flatMap share) := by
  induction items with
  | nil => exact absurd rfl something
  | cons i rest ih =>
    obtain ⟨one, others⟩ := List.forall_mem_cons.mp each
    cases rest with
    | nil =>
      rw [joined_singleton, List.map_singleton, List.intercalate_singleton, List.flatMap_singleton]
      exact one
    | cons j rest =>
      have tail := append (pure separates plain) (ih (by simp) others)
      rw [joined_cons, List.map_cons, List.map_cons, List.intercalate_cons_cons, List.flatMap_cons,
        List.append_assoc]
      exact append one tail

/-- What is written from the start has tokens, in which the values that it binds fill the places of
the placeholders. -/
theorem fills (writes : Writes d Idle Settled text lexemes bound) :
    ∃ tokens, tokens? d (text.run []).1 = some tokens ∧
      fill tokens (text.run []).2 = some lexemes := by
  obtain ⟨sql, tokens, written, reads, -, filled⟩ := writes []
  rw [written, List.nil_append]
  exact ⟨tokens, tokens?_eq_some_iff.mpr reads, filled⟩

/-- What is written from the start asks a server for a command, with the values that it binds. -/
theorem denotes {command : Command} (writes : Writes d Idle Settled text lexemes bound)
    (means : Command.ofLexemes? lexemes = some command) :
    Denotes d ⟨(text.run []).1, (text.run []).2⟩ command ∧ (text.run []).2 = bound := by
  obtain ⟨sql, tokens, written, reads, numbers, filled⟩ := writes []
  have found := tokens?_eq_some_iff.mpr reads
  rw [written, List.nil_append]
  refine ⟨⟨⟨tokens, found, numbers⟩, ?_⟩, rfl⟩
  unfold Command.of?
  rw [found]
  dsimp only [Option.bind_eq_bind, Option.bind_some]
  rw [filled]
  exact means

end Writes

/-- Whether a value is bound to a statement. A missing value is not, and text without a declared
type is not where the dialect has a notation for it. -/
def isBound (d : Dialect) : Value → Bool
  | .null => false
  | .untyped s => (d.untypedLiteral? s).isNone
  | _ => true

/-- The values of some cells that are bound to a statement, in order. -/
def boundValues (d : Dialect) (cells : SeedRow) : List Value :=
  (cells.map Prod.snd).filter (isBound d)

/-- What a value is in a statement that is filled. -/
def operandLexeme (d : Dialect) : Value → Lexeme
  | .null => .token (.word "NULL")
  | .untyped s =>
    match d with
    | .postgres => .token (.quoted .literal s)
    | .mysql => .value (.untyped s)
  | v => .value v

/-- Comparisons, joined by an operator. -/
def joinedBy (operator : MatchOperator) (comparisons : List Comparison) : Condition :=
  match operator with
  | .and => [comparisons]
  | .or => comparisons.map fun comparison => [comparison]

/-- The first cells of a row in some columns. -/
def cellsIn (row : SeedRow) (columns : List String) : SeedRow :=
  columns.map fun column => (column, (row.lookup column).getD .null)

/-- The condition for the rows that have the values of a row in its match columns: one comparison
with the first value of each column, joined by the operator. -/
def Upsert.condition (u : Upsert) (row : SeedRow) : Condition :=
  joinedBy (u.operator.getD .and)
    ((cellsIn row u.columns).map fun cell => Comparison.of cell.1 cell.2)

/-- A row can be compared: there are columns to compare it by, the row has all of them, and there is
an operator if there are several. -/
structure Upsert.Fits (u : Upsert) (row : SeedRow) : Prop where
  something : u.columns ≠ []
  inRow : ∀ column ∈ u.columns, column ∈ row.map Prod.fst
  operator : 1 < u.columns.length → u.operator.isSome = true

section

variable {u : Upsert} {row : SeedRow} (fits : u.Fits row)
include fits

/-- A row that can be compared is not empty. -/
theorem Upsert.Fits.row_ne_nil : row ≠ [] := by
  rintro rfl
  obtain ⟨column, member⟩ := List.exists_mem_of_ne_nil _ fits.something
  cases fits.inRow column member

theorem Upsert.Fits.cellsIn_ne_nil : cellsIn row u.columns ≠ [] := by
  simpa [cellsIn] using fits.something

/-- Its condition has comparisons, in each of its parts. -/
theorem Upsert.Fits.condition_ne_nil :
    u.condition row ≠ [] ∧ ∀ part ∈ u.condition row, part ≠ [] := by
  have comparisons : ((cellsIn row u.columns).map fun cell => Comparison.of cell.1 cell.2) ≠ [] :=
    mt List.map_eq_nil_iff.mp fits.cellsIn_ne_nil
  unfold Upsert.condition joinedBy
  cases u.operator.getD .and with
  | and => exact ⟨List.cons_ne_nil _ _, List.forall_mem_singleton.mpr comparisons⟩
  | or =>
    exact ⟨mt List.map_eq_nil_iff.mp comparisons,
      List.forall_mem_map.mpr fun _ _ => List.cons_ne_nil _ _⟩

end

/-- A row with the columns of its factory can be compared if its job has passed the check. -/
theorem Upsert.Fits.of_validate {spec : Spec} {factory : Factory.Document} {u : Upsert}
    {row : SeedRow} (valid : spec.validate (some factory) = .ok ()) (upserts : spec.upsert = some u)
    (listed : row.map Prod.fst = factory.rules.map Prod.fst) : u.Fits row := by
  have something : u.columns ≠ [] := by
    have kept := (Option.filter_eq_some_iff.mp upserts).2
    simpa using kept
  have checked : spec.checkUpsert (some factory) u = .ok () := by
    unfold Spec.validate at valid
    split at valid
    · cases valid
    · rw [upserts] at valid
      exact valid
  unfold Spec.checkUpsert at checked
  split at checked
  · cases checked
  · rename_i joined
    refine ⟨something, fun column member => ?_, fun several => ?_⟩
    · split at checked
      · rename_i none
        have among := List.find?_eq_none.mp none column member
        rw [listed]
        simpa [Factory.Document.hasColumn] using among
      · cases checked
    · cases operator : u.operator with
      | some o => rfl
      | none =>
        rw [operator] at joined
        simp [several] at joined

section

variable (d : Dialect)

private theorem operand?_operandLexeme (v : Value) :
    Lexeme.operand? [operandLexeme d v] = some v := by
  cases v with
  | untyped s => cases d <;> rfl
  | _ => rfl

private theorem operandLexeme_plain (v : Value) :
    (∀ c, (operandLexeme d v).isSymbol c = false) ∧
      ∀ text, text ≠ "NULL" → (operandLexeme d v).isWord text = false := by
  cases v with
  | null =>
    refine ⟨fun _ => rfl, fun text other => ?_⟩
    simpa [operandLexeme, Lexeme.isWord] using other.symm
  | untyped s => cases d <;> exact ⟨fun _ => rfl, fun _ _ => rfl⟩
  | _ => exact ⟨fun _ => rfl, fun _ _ => rfl⟩

private theorem writes_placeholder (v : Value) :
    Writes d Idle Settled (Statement.placeholder d v) [.value v] [v] := fun params =>
  ⟨d.placeholder (params.length + 1), _, rfl, Reads.placeholder _, rfl, rfl⟩

private theorem boundValues_cons (cell : String × Value) (rest : SeedRow) :
    boundValues d (cell :: rest) = boundValues d [cell] ++ boundValues d rest :=
  List.filter_append [cell.2] _

private theorem flatMap_boundValues (cells : SeedRow) :
    (cells.flatMap fun cell => boundValues d [cell]) = boundValues d cells := by
  induction cells with
  | nil => rfl
  | cons cell rest ih => rw [List.flatMap_cons, ih, ← boundValues_cons]

private theorem writes_operand (cell : String × Value) :
    Writes d Idle Settled (Statement.operand d cell.2) [operandLexeme d cell.2]
      (boundValues d [cell]) := by
  rcases cell with ⟨column, v⟩
  cases v with
  | null =>
    have word : Scan.feed d .between "NULL".toList = (.word "NULL".toList, []) := by
      cases d <;> decide
    exact .pure (Reads.of_feed word trivial) rfl
  | untyped s =>
    cases d with
    | postgres => exact .pure (Reads.quoteText s) rfl
    | mysql => exact writes_placeholder .mysql (.untyped s)
  | _ => exact writes_placeholder d _

/-- The name of the column of a cell. -/
def nameLexeme (cell : String × Value) : Lexeme := .token (.quoted .name cell.1)

/-- What a column and the value that it gets are in a statement that is filled. -/
private def assignmentLexemes (cell : String × Value) : List Lexeme :=
  [nameLexeme cell, .token (.symbol '='), operandLexeme d cell.2]

/-- What the comparison of a column is in a statement that is filled. -/
private def comparisonLexemes (cell : String × Value) : List Lexeme :=
  if cell.2.isNull then [nameLexeme cell, .token (.word "IS"), .token (.word "NULL")]
  else assignmentLexemes d cell

private theorem writes_assignment (cell : String × Value) :
    Writes d Idle Settled (Statement.assignment d cell) (assignmentLexemes d cell)
      (boundValues d [cell]) := by
  have equals : Reads d Settled Idle " = " [.symbol '='] :=
    Reads.spaced (by decide) (by cases d <;> decide)
  have column := Writes.pure ((Reads.quoteName cell.1).append equals) rfl
  exact column.append (writes_operand d cell)

private theorem writes_comparison (cell : String × Value) :
    Writes d Idle Settled (Statement.comparison d cell) (comparisonLexemes d cell)
      (boundValues d [cell]) := by
  unfold Statement.comparison comparisonLexemes
  by_cases missing : cell.2.isNull = true
  · rw [if_pos missing, if_pos missing]
    have isNull : Reads d Settled Settled " IS NULL" [.word "IS", .word "NULL"] := by
      have fed : Scan.feed d .between " IS NULL".toList = (.word "NULL".toList, [.word "IS"]) := by
        cases d <;> decide
      exact Reads.loosen rfl (by decide) (Reads.of_feed fed trivial)
    have share : boundValues d [cell] = [] := by
      rcases cell with ⟨column, v⟩
      cases v <;> first | rfl | cases missing
    rw [share]
    exact .pure ((Reads.quoteName cell.1).append isNull) rfl
  · rw [if_neg missing, if_neg missing]
    exact writes_assignment d cell

private theorem comma : Reads d Settled Idle ", " [.symbol ','] :=
  Reads.spaced (by decide) (by cases d <;> decide)

/-- The lexemes of some parts with a sign between them. -/
def listed (mark : Token) (row : SeedRow) (part : String × Value → List Lexeme) :
    List Lexeme :=
  [Lexeme.token mark].intercalate (row.map part)

/-- The lexemes of the insertion of a row. -/
def insertionOf (table : String) (row : SeedRow) : List Lexeme :=
  Command.insertion table (listed (.symbol ',') row fun cell => [nameLexeme cell])
    (listed (.symbol ',') row fun cell => [operandLexeme d cell.2])

section

variable {row : SeedRow} (table : String) (something : row ≠ [])
include something

private theorem writes_insert :
    Writes d Idle Idle (do
      let values ← row.mapM fun cell => Statement.operand d cell.2
      return "INSERT INTO " ++ d.quoteName table ++ " (" ++
        ", ".intercalate (row.map fun cell => d.quoteName cell.1) ++ ") VALUES (" ++
        ", ".intercalate values ++ ")")
      (insertionOf d table row) (boundValues d row) := by
  have insert : Reads d Idle Idle "INSERT INTO " [.word "INSERT", .word "INTO"] :=
    Reads.words (by cases d <;> decide)
  have opens : Reads d Settled Idle " (" [.symbol '('] :=
    Reads.spaced (by decide) (by cases d <;> decide)
  have between : Reads d Settled Idle ") VALUES (" [.symbol ')', .word "VALUES", .symbol '('] :=
    Reads.spaced (by decide) (by cases d <;> decide)
  have closes : Reads d Settled Idle ")" [.symbol ')'] :=
    Reads.spaced (by decide) (by cases d <;> decide)
  have columns := Writes.joined something (comma d) rfl fun cell (_ : cell ∈ row) =>
    Writes.pure (Reads.quoteName (d := d) cell.1) rfl
  have values := Writes.joined something (comma d) rfl fun cell (_ : cell ∈ row) =>
    writes_operand d cell
  have whole := (Writes.pure ((insert.append (Reads.quoteName table)).append opens) rfl).append
    (columns.append ((Writes.pure between rfl).append (values.append (.pure closes rfl))))
  refine whole.congr (by simp [Seed.joined, String.append_assoc]) ?_
  rw [flatMap_boundValues]
  simp

/-- The assignments of an update. -/
private theorem writes_update {condition : Binding String} {lexemes : List Lexeme}
    {bound : List Value} (writes : Writes d Idle Settled condition lexemes bound) :
    Writes d Idle Settled (do
      let assignments ← row.mapM (Statement.assignment d)
      return "UPDATE " ++ d.quoteName table ++ " SET " ++ ", ".intercalate assignments ++ " WHERE " ++
        (← condition))
      (Command.updating table (listed (.symbol ',') row (assignmentLexemes d)) lexemes)
      (boundValues d row ++ bound) := by
  have update : Reads d Idle Idle "UPDATE " [.word "UPDATE"] := Reads.words (by cases d <;> decide)
  have set : Reads d Settled Idle " SET " [.word "SET"] :=
    Reads.spaced (by decide) (by cases d <;> decide)
  have filters : Reads d Settled Idle " WHERE " [.word "WHERE"] :=
    Reads.spaced (by decide) (by cases d <;> decide)
  have assignments := Writes.joined something (comma d) rfl fun cell (_ : cell ∈ row) =>
    writes_assignment d cell
  have whole := (Writes.pure ((update.append (Reads.quoteName table)).append set) rfl).append
    (assignments.append ((Writes.pure filters rfl).append writes))
  refine whole.congr (by simp [Seed.joined, String.append_assoc]) ?_
  rw [flatMap_boundValues, List.nil_append, List.nil_append]

private theorem writes_predicate (operator : MatchOperator) :
    Writes d Idle Settled (do
      return (" " ++ operator.toSql ++ " ").intercalate (← row.mapM (Statement.comparison d)))
      (listed (.word operator.toSql) row (comparisonLexemes d)) (boundValues d row) := by
  have separates : Reads d Settled Idle (" " ++ operator.toSql ++ " ") [.word operator.toSql] := by
    cases operator <;> exact Reads.spaced (by decide) (by cases d <;> decide)
  have comparisons := Writes.joined something separates rfl fun cell (_ : cell ∈ row) =>
    writes_comparison d cell
  exact comparisons.congr rfl (flatMap_boundValues d row).symm

end

private theorem writes_count (table : String) {condition : Binding String} {lexemes : List Lexeme}
    {bound : List Value} (writes : Writes d Idle Settled condition lexemes bound) :
    Writes d Idle Settled (do
      return "SELECT COUNT(*) AS count FROM " ++ d.quoteName table ++ " WHERE " ++ (← condition))
      (Command.counting table lexemes) bound := by
  have select : Reads d Idle Idle "SELECT COUNT(*) AS count FROM " [.word "SELECT", .word "COUNT",
      .symbol '(', .symbol '*', .symbol ')', .word "AS", .word "count", .word "FROM"] :=
    Reads.words (by cases d <;> decide)
  have filters : Reads d Settled Idle " WHERE " [.word "WHERE"] :=
    Reads.spaced (by decide) (by cases d <;> decide)
  exact (Writes.pure ((select.append (Reads.quoteName table)).append filters) rfl).append writes

end

section

variable {d : Dialect} {row : SeedRow} {table : String}

private theorem listed_plain {mark : Token} {part : String × Value → List Lexeme}
    {separator : Lexeme → Bool} (between : separator (.token mark) = false)
    (each : ∀ cell, ∀ l ∈ part cell, separator l = false) :
    ∀ l ∈ listed mark row part, separator l = false :=
  Lexeme.forall_mem_intercalate between (List.forall_mem_map.mpr fun cell _ => each cell)

/-- An insertion of some cells is the insertion of these cells. -/
private theorem ofLexemes?_insert (something : row ≠ []) :
    Command.ofLexemes? (insertionOf d table row) = some (.insert table row) := by
  have name (c : Char) (cell : String × Value) : ∀ l ∈ [nameLexeme cell], l.isSymbol c = false :=
    List.forall_mem_singleton.mpr rfl
  have operand (c : Char) (cell : String × Value) :
      ∀ l ∈ [operandLexeme d cell.2], l.isSymbol c = false :=
    List.forall_mem_singleton.mpr ((operandLexeme_plain d cell.2).1 c)
  have columns : Lexeme.separated? (Lexeme.isSymbol ',') Lexeme.column?
      (listed (.symbol ',') row (fun cell => [nameLexeme cell])) = some (row.map Prod.fst) :=
    Lexeme.separated?_intercalate rfl something (fun cell _ => name ',' cell) fun _ _ => rfl
  have values : Lexeme.separated? (Lexeme.isSymbol ',') Lexeme.operand?
      (listed (.symbol ',') row (fun cell => [operandLexeme d cell.2])) =
        some (row.map Prod.snd) :=
    Lexeme.separated?_intercalate rfl something (fun cell _ => operand ',' cell)
      fun cell _ => operand?_operandLexeme d cell.2
  unfold insertionOf
  rw [Command.ofLexemes?_insertion (listed_plain rfl (name ')')) (listed_plain rfl (operand ')')),
    Lexeme.cells?_eq columns values]
  rfl

private theorem comparison?_comparisonLexemes (cell : String × Value) :
    Lexeme.comparison? (comparisonLexemes d cell) = some (Comparison.of cell.1 cell.2) := by
  unfold comparisonLexemes Comparison.of
  by_cases missing : cell.2.isNull = true
  · rw [if_pos missing, if_pos missing]
    rfl
  · rw [if_neg missing, if_neg missing]
    change Comparison.equals cell.1 <$> Lexeme.operand? [operandLexeme d cell.2] = _
    rw [operand?_operandLexeme]
    rfl

private theorem assignmentLexemes_plain {text : String} (other : text ≠ "NULL")
    (cell : String × Value) : ∀ l ∈ assignmentLexemes d cell, l.isWord text = false := by
  have operand := (operandLexeme_plain d cell.2).2 text other
  exact List.forall_mem_cons.mpr ⟨rfl, List.forall_mem_cons.mpr ⟨rfl,
    List.forall_mem_singleton.mpr operand⟩⟩

private theorem assignments?_listed (something : row ≠ []) :
    Lexeme.separated? (Lexeme.isSymbol ',') Lexeme.assignment?
      (listed (.symbol ',') row (assignmentLexemes d)) = some row := by
  have plain (cell : String × Value) : ∀ l ∈ assignmentLexemes d cell, l.isSymbol ',' = false :=
    List.forall_mem_cons.mpr ⟨rfl, List.forall_mem_cons.mpr ⟨rfl,
      List.forall_mem_singleton.mpr ((operandLexeme_plain d cell.2).1 ',')⟩⟩
  have read (cell : String × Value) :
      Lexeme.assignment? (assignmentLexemes d cell) = some cell := by
    change (cell.1, ·) <$> Lexeme.operand? [operandLexeme d cell.2] = _
    rw [operand?_operandLexeme]
    rfl
  calc Lexeme.separated? (Lexeme.isSymbol ',') Lexeme.assignment?
        (listed (.symbol ',') row (assignmentLexemes d))
      = some (row.map fun cell => cell) := Lexeme.separated?_intercalate rfl something
        (fun cell _ => plain cell) fun cell _ => read cell
    _ = some row := by rw [List.map_id']

private theorem comparisonLexemes_plain {text : String} (other : text ≠ "NULL")
    (other' : text ≠ "IS") (cell : String × Value) : ∀ l ∈ comparisonLexemes d cell, l.isWord text = false := by
  unfold comparisonLexemes
  by_cases missing : cell.2.isNull = true
  · rw [if_pos missing]
    simp [nameLexeme, Lexeme.isWord, other.symm, other'.symm]
  · rw [if_neg missing]
    exact assignmentLexemes_plain other cell

private theorem condition?_listed (operator : MatchOperator) (something : row ≠ []) :
    Lexeme.condition? (listed (.word operator.toSql) row (comparisonLexemes d)) =
      some (joinedBy operator (row.map fun cell => Comparison.of cell.1 cell.2)) := by
  unfold Lexeme.condition?
  cases operator with
  | and =>
    refine Lexeme.separated?_single (listed_plain rfl ?_) ?_
    · exact comparisonLexemes_plain (by decide) (by decide)
    · exact Lexeme.separated?_intercalate rfl something
        (fun cell _ => comparisonLexemes_plain (by decide) (by decide) cell)
        fun cell _ => comparison?_comparisonLexemes cell
  | or =>
    have each (cell : String × Value) : Lexeme.separated? (Lexeme.isWord "AND") Lexeme.comparison?
        (comparisonLexemes d cell) = some [Comparison.of cell.1 cell.2] :=
      Lexeme.separated?_single (comparisonLexemes_plain (by decide) (by decide) cell)
        (comparison?_comparisonLexemes cell)
    unfold joinedBy
    rw [List.map_map]
    exact Lexeme.separated?_intercalate rfl something
      (fun cell _ => comparisonLexemes_plain (by decide) (by decide) cell) fun cell _ => each cell

end

private theorem find?_eq_lookup {row : SeedRow} {column : String}
    (inRow : column ∈ row.map Prod.fst) :
    row.find? (·.1 == column) = some (column, (row.lookup column).getD .null) := by
  induction row with
  | nil => cases inRow
  | cons cell rest ih =>
    rcases cell with ⟨name, v⟩
    by_cases same : name = column
    · subst same
      simp
    · have later : column ∈ rest.map Prod.fst := by
        rcases List.mem_cons.mp inRow with here | later
        · exact absurd here.symm same
        · exact later
      rw [List.find?_cons_of_neg (by simpa using same), ih later, List.lookup_cons,
        beq_eq_false_iff_ne.mpr (Ne.symm same)]

section

variable {d : Dialect} {row : SeedRow} {u : Upsert} (table : String) (fits : u.Fits row)
include fits

private theorem matchCells_eq :
    Statement.matchCells table row u.columns = .ok (cellsIn row u.columns) := by
  refine Traversal.mapM_eq_ok_iff.mpr ?_
  refine List.forall₂_map_right_iff.mpr (List.forall₂_same.mpr fun column member => ?_)
  rw [find?_eq_lookup (fits.inRow column member)]

private theorem predicate_eq :
    Statement.predicate d table row u = .ok (do
      return (" " ++ (u.operator.getD .and).toSql ++ " ").intercalate
        (← (cellsIn row u.columns).mapM (Statement.comparison d))) := by
  have joiner : Statement.joiner table u = .ok (" " ++ (u.operator.getD .and).toSql ++ " ") := by
    unfold Statement.joiner
    cases operator : u.operator with
    | some o => rfl
    | none =>
      have few : ¬ 1 < u.columns.length := fun several => by
        have given := fits.operator several
        rw [operator] at given
        cases given
      dsimp only
      rw [if_neg few]
      rfl
  unfold Statement.predicate
  rw [joiner, matchCells_eq table fits]
  rfl

end

private theorem insertDefaults_denotes (d : Dialect) (table : String) :
    Denotes d ⟨d.insertDefaults table, []⟩ (.insert table []) := by
  have insert : Reads d Idle Idle "INSERT INTO " [.word "INSERT", .word "INTO"] :=
    Reads.words (by cases d <;> decide)
  have start := insert.append (Reads.quoteName table)
  cases d with
  | postgres =>
    have fed : Scan.feed .postgres .between " DEFAULT VALUES".toList =
        (.word "VALUES".toList, [.word "DEFAULT"]) := by decide
    have defaults : Reads .postgres Settled Settled " DEFAULT VALUES"
        [.word "DEFAULT", .word "VALUES"] :=
      Reads.loosen rfl (by decide) (Reads.of_feed fed trivial)
    exact (Writes.denotes (.pure (start.append defaults) rfl) rfl).1
  | mysql =>
    have defaults : Reads .mysql Settled Idle " () VALUES ()"
        [.symbol '(', .symbol ')', .word "VALUES", .symbol '(', .symbol ')'] :=
      Reads.spaced (by decide) (by decide)
    exact (Writes.denotes (.pure (start.append defaults).settled rfl) rfl).1

/-- An insertion adds the cells of the row. -/
theorem insert_denotes (d : Dialect) (table : String) (row : SeedRow) :
    Denotes d (Statement.insert d table row) (.insert table row) ∧
      (Statement.insert d table row).params = boundValues d row := by
  by_cases empty : row = []
  · subst empty
    exact ⟨insertDefaults_denotes d table, rfl⟩
  · have written := (writes_insert d table empty).settled.denotes (ofLexemes?_insert empty)
    have same : row.isEmpty = false := by simpa using empty
    unfold Statement.insert
    rw [same]
    exact written

/-- What stands in the insertion of a row that is not empty. -/
theorem insert_fills (d : Dialect) (table : String) {row : SeedRow} (something : row ≠ []) :
    ∃ tokens, tokens? d (Statement.insert d table row).sql = some tokens ∧
      fill tokens (Statement.insert d table row).params =
        some (insertionOf d table row) := by
  have same : row.isEmpty = false := by simpa using something
  unfold Statement.insert
  rw [same]
  exact (writes_insert d table something).settled.fills

section

variable (d : Dialect) {row : SeedRow} {u : Upsert} (table : String) (fits : u.Fits row)
include fits

private theorem condition?_predicate :
    Lexeme.condition? (listed (.word (u.operator.getD .and).toSql) (cellsIn row u.columns)
      (comparisonLexemes d)) = some (u.condition row) :=
  condition?_listed _ fits.cellsIn_ne_nil

/-- A count counts the rows that a new row is to replace. -/
theorem count_denotes : ∃ count, Statement.count d table row u = .ok count ∧
    Denotes d count (.count table (u.condition row)) ∧
    count.params = boundValues d (cellsIn row u.columns) := by
  have condition := writes_predicate d fits.cellsIn_ne_nil (u.operator.getD .and)
  have counting : Command.ofLexemes? (Command.counting table
      (listed (.word (u.operator.getD .and).toSql) (cellsIn row u.columns) (comparisonLexemes d))) =
      some (.count table (u.condition row)) := by
    rw [Command.ofLexemes?_counting, condition?_predicate d fits]
    rfl
  obtain ⟨asks, binds⟩ := (writes_count d table condition).denotes counting
  refine ⟨_, ?_, asks, binds⟩
  unfold Statement.count
  rw [predicate_eq table fits]
  rfl

/-- An update puts the cells of the row into the rows that it is to replace. -/
theorem update_denotes : ∃ update, Statement.update d table row u = .ok update ∧
    Denotes d update (.update table row (u.condition row)) ∧
    update.params = boundValues d row ++ boundValues d (cellsIn row u.columns) := by
  have condition := writes_predicate d fits.cellsIn_ne_nil (u.operator.getD .and)
  have plain : ∀ l ∈ listed (.word (u.operator.getD .and).toSql) (cellsIn row u.columns)
      (comparisonLexemes d), l.isWord "WHERE" = false := by
    refine listed_plain ?_ (comparisonLexemes_plain (by decide) (by decide))
    cases u.operator.getD .and <;> rfl
  have updating : Command.ofLexemes? (Command.updating table
      (listed (.symbol ',') row (assignmentLexemes d))
      (listed (.word (u.operator.getD .and).toSql) (cellsIn row u.columns) (comparisonLexemes d))) =
      some (.update table row (u.condition row)) := by
    rw [Command.ofLexemes?_updating (listed_plain rfl (assignmentLexemes_plain (by decide))) plain,
      assignments?_listed fits.row_ne_nil, condition?_predicate d fits]
    rfl
  obtain ⟨asks, binds⟩ := (writes_update d table fits.row_ne_nil condition).denotes updating
  refine ⟨_, ?_, asks, binds⟩
  unfold Statement.update
  rw [predicate_eq table fits]
  rfl

end

/-- A statement that writes a row asks for just that: an insertion adds the cells of the row, an
update puts them into the rows that meet a condition, and a count counts the rows that meet the same
condition. The condition compares each match column with the first value that the row has for it.
Only missing values and text with a notation of its own are not bound. -/
theorem statements_denote (d : Dialect) (table : String) (row : SeedRow) :
    (Denotes d (Statement.insert d table row) (.insert table row) ∧
      (Statement.insert d table row).params = boundValues d row) ∧
    ∀ u : Upsert, u.Fits row → ∃ count update,
      Statement.count d table row u = .ok count ∧
      Denotes d count (.count table (u.condition row)) ∧
      count.params = boundValues d (cellsIn row u.columns) ∧
      Statement.update d table row u = .ok update ∧
      Denotes d update (.update table row (u.condition row)) ∧
      update.params = boundValues d row ++ boundValues d (cellsIn row u.columns) := by
  refine ⟨insert_denotes d table row, fun u fits => ?_⟩
  obtain ⟨count, counted, asksCount, bindsCount⟩ := count_denotes d table fits
  obtain ⟨update, updated, asksUpdate, bindsUpdate⟩ := update_denotes d table fits
  exact ⟨count, update, counted, asksCount, bindsCount, updated, asksUpdate, bindsUpdate⟩

/-- A mark in a name, a placeholder in a text and a missing value do no harm. -/
theorem marks_stay_quoted :
    let row : SeedRow := [("a\"b", .untyped "it's $9"), ("gone", .null), ("n", .int32 5)]
    let u : Upsert := ⟨["n", "gone"], some .or⟩
    u.Fits row ∧ ∃ count update,
      Statement.count .postgres "t" row u = .ok count ∧
      Statement.update .postgres "t" row u = .ok update ∧
      update.sql = "UPDATE \"t\" SET \"a\"\"b\" = 'it''s $9', \"gone\" = NULL, \"n\" = $1 " ++
        "WHERE \"n\" = $2 OR \"gone\" IS NULL" ∧
      update.params = [.int32 5, .int32 5] ∧
      Denotes .postgres count (.count "t" [[.equals "n" (.int32 5)], [.isNull "gone"]]) ∧
      Denotes .postgres update (.update "t" row [[.equals "n" (.int32 5)], [.isNull "gone"]]) := by
  intro row u
  have fits : u.Fits row := ⟨by decide, by decide, by decide⟩
  obtain ⟨count, update, counted, asksCount, -, updated, asksUpdate, binds⟩ :=
    (statements_denote .postgres "t" row).2 u fits
  have text : update.sql = _ := congrArg Call.sql (Except.ok.inj updated).symm
  exact ⟨fits, count, update, counted, updated, text.trans (by decide), binds, asksCount,
    asksUpdate⟩

end SchemaSeed.Seed
