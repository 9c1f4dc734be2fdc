import Mathlib
import SchemaSeed.Proofs.Seed.Exchanges
import SchemaSeed.Proofs.Server.Datum
import SchemaSeed.Proofs.Server.LostConnection

/-!
Values that are taken from other tables are written back unchanged. The cell that answers the query
of a lookup is read, loses its declared type, is written into an insertion, and reaches the server as
one piece of the statement, which stands for what the cell held.
-/

set_option autoImplicit false
set_option relaxedAutoImplicit false

namespace SchemaSeed.Server

open SchemaSeed.Sql SchemaSeed.Seed

/-- What the answer to the query of a lookup holds in the first cell of its first row. There may be no
row, or the cell may be missing. -/
inductive Sampled (d : Dialect) : Reply → Content → Prop
  | cell {name type s : String} {columns : List (String × String)} {cells : List (Option String)}
      {rows : List (List (Option String))} {kind : Kind} {datum : Datum} :
      Kind.ofType? d (Text.uppercase type) = some kind → kind.read? s = some datum →
        Sampled d (.rows ⟨(name, type) :: columns, (some s :: cells) :: rows⟩) (some (kind, datum))
  | missing {name type : String} {columns : List (String × String)} {cells : List (Option String)}
      {rows : List (List (Option String))} :
      Sampled d (.rows ⟨(name, type) :: columns, (none :: cells) :: rows⟩) none
  | empty {columns : List (String × String)} : Sampled d (.rows ⟨columns, []⟩) none
  | rowless {count : Nat} : Sampled d (.affected count) none

theorem Sampled.read {d : Dialect} {reply : Reply} {content : Content}
    (sampled : Sampled d reply content) : ∃ rows, Remote.tableOf d reply = .ok rows := by
  cases sampled <;> exact ⟨_, rfl⟩

/-- The pieces of an insertion that gives columns their values. -/
def insertion (table : String) (columns : List String) (values : List Piece) : List Piece :=
  [.token (.word "INSERT"), .token (.word "INTO"), .token (.quoted .name table),
      .token (.symbol '(')] ++
    ([Piece.token (.symbol ',')].intercalate
        (columns.map fun column => [.token (.quoted .name column)]) ++
      ([.token (.symbol ')'), .token (.word "VALUES"), .token (.symbol '(')] ++
        ([Piece.token (.symbol ',')].intercalate (values.map fun value => [value]) ++
          [.token (.symbol ')')])))

end SchemaSeed.Server

namespace SchemaSeed.Factory

open SchemaSeed.Sql SchemaSeed.Server

variable {r : Reference} {outcome : Except Failure Value}

/-- A lookup takes the first cell of the first row. -/
theorem Reference.Resolved.of_row {row : Row} {rows : List Row} {v : Value}
    (resolved : r.Resolved (.ok (row :: rows)) outcome) (here : row.byIndex 0 = .ok v) :
    outcome = .ok v := by
  cases resolved with
  | found result =>
    generalize same : (Except.ok _ : Except Failure Value) = given at result
    cases result
    exact here
  | survived result _ | failed result _ =>
    generalize same : (Except.error _ : Except Failure Value) = given at result
    cases result
    cases same.trans here

/-- A lookup in a table without rows gives the missing value. -/
theorem Reference.Resolved.of_empty (resolved : r.Resolved (.ok []) outcome) :
    outcome = .ok .null := by
  cases resolved with
  | found result => cases result
  | survived result _ => rfl
  | failed result fatal =>
    cases result
    cases fatal

/-- A lookup gives a value that reaches the server as what it stood for in the answer. -/
theorem Reference.Resolved.carries {d : Dialect} {reply : Reply} {content : Content}
    {rows : List Row} (sampled : Sampled d reply content) (read : Remote.tableOf d reply = .ok rows)
    (resolved : r.Resolved (.ok rows) outcome) :
    ∃ v, outcome = .ok v ∧ (Piece.ofValue d v).Carries d content := by
  cases sampled with
  | cell known held =>
    cases read
    obtain ⟨v, value, carries⟩ := cell_survives known held
    exact ⟨v, resolved.of_row (by simp [Row.byIndex, value]), carries⟩
  | missing =>
    cases read
    exact ⟨.null, resolved.of_row rfl, carries_null⟩
  | empty | rowless =>
    cases read
    exact ⟨.null, resolved.of_empty, carries_null⟩

end SchemaSeed.Factory

namespace SchemaSeed.Seed

open SchemaSeed.Sql SchemaSeed.Factory SchemaSeed.Server

section

variable (d : Dialect)

private theorem map_sent_intercalate (parts : List (List Lexeme)) (t : Token) :
    ([Lexeme.token t].intercalate parts).map (sent d) =
      [Piece.token t].intercalate (parts.map (List.map (sent d))) := by
  induction parts with
  | nil => rfl
  | cons first rest ih =>
    cases rest with
    | nil => simp
    | cons second rest =>
      rw [List.intercalate_cons_cons, List.map_append, List.map_append, ih]
      simp only [List.map_cons, List.map_nil, List.intercalate_cons_cons]
      rfl

/-- The piece by which the value of a cell reaches a server. -/
def cellPiece (cell : String × Value) : Piece := sent d (operandLexeme d cell.2)

/-- What a server gets for the insertion of a row that is not empty: the names of its columns and one
piece for each of its values. -/
theorem insert_pieces (table : String) {row : SeedRow} (something : row ≠ []) :
    (ReceivedStatement.mk (Statement.insert d table row).sql
        ((Statement.insert d table row).params.map (Parameter.ofValue d))).pieces? d =
      some (insertion table (row.map Prod.fst)
        (row.map (cellPiece d))) := by
  obtain ⟨tokens, read, filled⟩ := insert_fills d table something
  unfold ReceivedStatement.pieces?
  rw [read, Option.bind_some, place_of_fill filled]
  unfold insertion insertionOf Command.insertion listed
  simp only [List.map_append, map_sent_intercalate, List.map_map, List.map_cons, List.map_nil]
  rfl

end

/-- The value of a rule that looks something up comes from the answer to one query. -/
theorem Obtains.of_lookup {γ : Type} {e : Engine γ} {rule : Rule} {ref : Reference} {c c' : γ}
    {exchanges : List Exchange} {outcome : Except Failure Value}
    (obtains : Obtains e rule c exchanges outcome c') (lookup : rule.reference? = some ref) :
    ∃ answer resolved, exchanges = [.fetched (ref.query e.dialect) answer] ∧ c = c' ∧
      ref.Resolved answer resolved ∧ outcome = resolved.map fun v => rule.replaced v.toUntyped := by
  unfold Rule.reference? at lookup
  split at lookup
  · cases lookup
  · rename_i other
    cases obtains with
    | made fake => exact absurd fake other
    | literal _ known | nothing _ known | malformed _ known =>
      rw [known] at lookup
      cases lookup
    | lookedUp _ known result =>
      rw [known] at lookup
      obtain rfl := Option.some.inj lookup
      exact ⟨_, _, rfl, rfl, result, rfl⟩

/-- What the engine makes of the answer to a lookup, before the row is written. -/
private theorem cell_carries {γ : Type} {e : Engine γ} {rule : Rule} {ref : Reference}
    (lookup : rule.reference? = some ref) (plain : rule.manipulation = none) {r r₁ : Remote}
    (opened : r.link = .opened) (same : r.dialect = e.dialect) {reply : Reply} {content : Content}
    (replied : r.reply (ref.query e.dialect).sql [] = (reply, r₁))
    (sampled : Sampled e.dialect reply content) (state : γ) :
    ∃ v, Work.runOn Remote.server (e.cell rule) state r = ((.ok v.toUntyped, state), r₁) ∧
      (Piece.ofValue e.dialect v).Carries e.dialect content := by
  rcases ran : Work.runOn Remote.server (e.cell rule) state r with ⟨⟨outcome, state'⟩, r'⟩
  obtain ⟨exchanges, tells, answers⟩ := Work.of_runOn ran
  obtain ⟨answer, resolved, rfl, rfl, result, rfl⟩ := (cell_tells tells).of_lookup lookup
  cases answers with
  | fetched answered rest =>
    cases rest
    obtain ⟨rows, read⟩ := sampled.read
    obtain ⟨rfl, rfl⟩ : Except.ok rows = answer ∧ r₁ = r' := by
      have fetched : Remote.send "Query fetch failed: " (Remote.tableOf r.dialect)
          (ref.query e.dialect).sql [] r = (answer, r') := answered
      rw [Remote.send_opened opened replied, same, read] at fetched
      exact Prod.mk.inj fetched
    obtain ⟨v, rfl, carries⟩ := result.carries sampled read
    refine ⟨v, ?_, carries⟩
    unfold Rule.replaced
    rw [plain]
    rfl

/-- A value that is taken from another table is written back unchanged: the cell that was read and the
piece of the insertion by which it reaches the server stand for the same integer, text, identifier or
bytes. A missing cell, and an answer without rows, reach it as a missing value. -/
theorem sampled_value_arrives {γ : Type} {e : Engine γ} {rule : Rule} {ref : Reference}
    (lookup : rule.reference? = some ref) (plain : rule.manipulation = none) {r r₁ : Remote}
    (opened : r.link = .opened) (same : r.dialect = e.dialect) {reply : Reply} {content : Content}
    (replied : r.reply (ref.query e.dialect).sql [] = (reply, r₁))
    (sampled : Sampled e.dialect reply content) (state : γ) :
    ∃ v, Work.runOn Remote.server (e.cell rule) state r = ((.ok v, state), r₁) ∧
      ∀ (table column : String) (before after : SeedRow) (r₂ : Remote), r₂.link = .opened →
        r₂.dialect = e.dialect →
        let call := Statement.insert e.dialect table (before ++ (column, v) :: after)
        ∃ (statement : ReceivedStatement) (front back : List Piece) (piece : Piece),
          (Remote.server.execute call.sql call.params r₂).2.received =
              r₂.received ++ [statement] ∧
            statement.pieces? e.dialect = some (insertion table
              (before.map Prod.fst ++ column :: after.map Prod.fst) (front ++ piece :: back)) ∧
            front.length = before.length ∧ back.length = after.length ∧
            piece.Carries e.dialect content := by
  obtain ⟨v, obtained, carries⟩ := cell_carries lookup plain opened same replied sampled state
  refine ⟨v.toUntyped, obtained, ?_⟩
  intro table column before after r₂ opened₂ same₂ call
  have something : before ++ (column, v.toUntyped) :: after ≠ [] := by simp
  have pieces := insert_pieces e.dialect table something
  rw [List.map_append, List.map_append, List.map_cons, List.map_cons] at pieces
  refine ⟨_, before.map (cellPiece e.dialect), after.map (cellPiece e.dialect),
    cellPiece e.dialect (column, v.toUntyped), Remote.received_execute opened₂ _ _, ?_,
    List.length_map _, List.length_map _, carries⟩
  rw [same₂]
  exact pieces

/-- A key that no signed integer holds arrives as a text, which the column reads as the same key. -/
theorem largest_unsigned_key_arrives :
    let site : Json := .ofMembers [("table", .string "sites"), ("column", .string "id")]
    let rule : Factory.Rule := { custom := some (.ofMembers [("reference_table", site)]) }
    let table : CellTable := ⟨[("id", "bigint unsigned")], [[some "18446744073709551615"]]⟩
    let r : Remote :=
      { dialect := .mysql, rules := [{ text := "RAND()", answer := { reply := .rows table } }] }
    let e : Engine Unit := ⟨.mysql, fun _ => pure .null⟩
    ∃ v r₁, Work.runOn Remote.server (e.cell rule) () r = ((.ok v, ()), r₁) ∧
      let call := Statement.insert .mysql "users" [("site", v)]
      ∃ statement piece,
        (Remote.server.execute call.sql call.params r₁).2.received = r₁.received ++ [statement] ∧
          statement.pieces? .mysql = some (insertion "users" ["site"] [piece]) ∧
          piece.Carries .mysql (some (.unsigned 64, .integer 18446744073709551615)) := by
  intro site rule table r e
  have lookup : rule.reference? = some ⟨"sites", "id"⟩ := by decide
  have upper : Text.uppercase "bigint unsigned" = "BIGINT UNSIGNED" := by decide
  have known : Kind.ofType? .mysql (Text.uppercase "bigint unsigned") = some (.unsigned 64) := by
    rw [upper]
    rfl
  have held : (Kind.unsigned 64).read? "18446744073709551615" =
      some (.integer 18446744073709551615) := by decide
  let query := (Reference.mk "sites" "id").query .mysql
  let r₁ : Remote := { r with reversed := [⟨query.sql, []⟩] }
  have answered : Rule.answer? query.sql r.rules = some ({ reply := .rows table }, r.rules) :=
    if_pos (by decide)
  have replied : r.reply query.sql [] = (.rows table, r₁) := by
    unfold Remote.reply
    dsimp only
    rw [answered]
    rfl
  obtain ⟨v, ran, arrives⟩ := sampled_value_arrives (e := e) lookup rfl rfl rfl replied
    (.cell known held) ()
  obtain ⟨statement, front, back, piece, received, pieces, before, after, carries⟩ :=
    arrives "users" "site" [] [] r₁ rfl rfl
  obtain rfl := List.eq_nil_of_length_eq_zero before
  obtain rfl := List.eq_nil_of_length_eq_zero after
  exact ⟨v, r₁, ran, statement, piece, received, pieces, carries⟩

end SchemaSeed.Seed
