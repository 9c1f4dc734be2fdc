import Mathlib
import SchemaSeed.Proofs.Migration.SchemaStatement

/-!
Servers with transactions. Of what such a server holds two things matter here: the changes of the
schema that were executed, and the rows of the ledger. It keeps them committed, and while a
transaction is open it has a working copy besides. `Transactional` says what is known of any such
server, whichever calls it refuses; `Scheduled` is one that refuses calls as it is told beforehand.
-/

set_option autoImplicit false
set_option relaxedAutoImplicit false

namespace SchemaSeed.Server

open SchemaSeed.Sql SchemaSeed.Migration

/-- What a database holds: the changes of its schema, in order, and the names and batches in its
ledger. -/
structure Contents where
  executed : List String := []
  rows : List (String × Int) := []
  deriving DecidableEq, Repr

namespace Contents

/-- The contents after some changes of the schema. -/
def withSchema (d : Contents) (statements : List String) : Contents :=
  { d with executed := d.executed ++ statements }

/-- The contents with one more row of the ledger. -/
def withRow (d : Contents) (name : String) (batch : Int) : Contents :=
  { d with rows := d.rows ++ [(name, batch)] }

/-- The contents without the rows of a name. -/
def withoutRows (d : Contents) (name : String) : Contents :=
  { d with rows := d.rows.filter (·.1 ≠ name) }

/-- The contents after a file was applied in a batch. -/
def withApplied (batch : Int) (d : Contents) (file : String × Script) : Contents :=
  (d.withSchema file.2.statements).withRow file.1 batch

/-- The contents after a file was rolled back. -/
def withRolledBack (d : Contents) (file : String × Script) : Contents :=
  (d.withSchema file.2.statements).withoutRows file.1

@[simp] theorem withSchema_nil (d : Contents) : d.withSchema [] = d := by
  simp [withSchema]

@[simp] theorem withSchema_withSchema (d : Contents) (first second : List String) :
    (d.withSchema first).withSchema second = d.withSchema (first ++ second) := by
  simp [withSchema]

@[simp] theorem rows_withSchema (d : Contents) (statements : List String) :
    (d.withSchema statements).rows = d.rows := rfl

end Contents

/-- What an accepted statement makes of the contents that it is executed on. -/
inductive Effect (l : Ledger) : String → List Value → (Contents → Contents) → Prop
  | schema {sql : String} : IsSchemaStatement sql → Effect l sql [] (·.withSchema [sql])
  | record (name : String) (batch : Int) :
    Effect l l.recordStatement [.text name, .int64 batch] (·.withRow name batch)
  | forget (name : String) : Effect l l.forgetStatement [.text name] (·.withoutRows name)

/-- A server with transactions: the start of a transaction opens a working copy, its commit
publishes the copy, its rollback and the end of the connection discard it, and what is refused
publishes nothing. Nothing is said of which calls are refused, nor of a working copy after a
refusal. -/
structure Transactional (l : Ledger) (σ : Type) extends Server σ where
  committed : σ → Contents
  working : σ → Option Contents
  start_opens : ∀ {s s' : σ} {n : Nat},
    execute (l.dialect.beginKeyword ++ ";") [] s = (.ok n, s') → working s = none →
      committed s' = committed s ∧ working s' = some (committed s)
  effect_inside : ∀ {sql : String} {params : List Value} {f : Contents → Contents} {s s' : σ}
    {n : Nat} {w : Contents}, Effect l sql params f →
    execute sql params s = (.ok n, s') → working s = some w →
      committed s' = committed s ∧ working s' = some (f w)
  effect_outside : ∀ {sql : String} {params : List Value} {f : Contents → Contents} {s s' : σ}
    {n : Nat}, Effect l sql params f →
    execute sql params s = (.ok n, s') → working s = none →
      committed s' = f (committed s) ∧ working s' = none
  commit_publishes : ∀ {s s' : σ} {n : Nat} {w : Contents},
    execute "COMMIT;" [] s = (.ok n, s') → working s = some w →
      committed s' = w ∧ working s' = none
  rollback_discards : ∀ {s s' : σ} {n : Nat},
    execute "ROLLBACK;" [] s = (.ok n, s') → committed s' = committed s ∧ working s' = none
  refusal_publishes_nothing : ∀ {sql : String} {params : List Value} {s s' : σ} {e : Failure},
    execute sql params s = (.error e, s') → committed s' = committed s
  fetch_keeps : ∀ {sql : String} {params : List Value} {s s' : σ}
    {answer : Except Failure (List Row)}, fetch sql params s = (answer, s') →
      committed s' = committed s ∧ (working s = none → working s' = none)
  names_visible : ∀ {s s' : σ} {rows : List Row}, fetch l.namesQuery [] s = (.ok rows, s') →
    rows.map (·.byIndex 0) =
      ((working s).getD (committed s)).rows.map fun row => .ok (.text row.1)
  close_discards : ∀ {s s' : σ} {answer : Except Failure Unit}, close s = (answer, s') →
    committed s' = committed s ∧ working s' = none

/-- The state of a server that is told beforehand which calls it refuses, and why. -/
structure Scheduled where
  committed : Contents := {}
  working : Option Contents := none
  /-- For the coming calls, in order, the failure that a call is refused with, if it is. -/
  refusals : List (Option Failure) := []

namespace Scheduled

/-- What a statement inside or outside of a transaction makes of the contents. -/
def change (l : Ledger) (sql : String) (params : List Value) (d : Contents) : Contents :=
  if sql = l.recordStatement then
    match params with
    | [.text name, .int64 batch] => d.withRow name batch
    | _ => d
  else if sql = l.forgetStatement then
    match params with
    | [.text name] => d.withoutRows name
    | _ => d
  else d.withSchema [sql]

/-- The state after an accepted statement. -/
def after (l : Ledger) (sql : String) (params : List Value) (s : Scheduled) : Scheduled :=
  if sql = l.dialect.beginKeyword ++ ";" then { s with working := some s.committed }
  else if sql = "COMMIT;" then
    { s with committed := s.working.getD s.committed, working := none }
  else if sql = "ROLLBACK;" then { s with working := none }
  else
    match s.working with
    | some w => { s with working := some (change l sql params w) }
    | none => { s with committed := change l sql params s.committed }

/-- The rows that an accepted query is answered with. -/
def answer (l : Ledger) (sql : String) (s : Scheduled) : List Row :=
  let rows := (s.working.getD s.committed).rows
  if sql = l.namesQuery then rows.map fun row => .ofValues [("migration", .text row.1)]
  else if sql = l.nextBatchQuery then
    [.ofValues [("batch", .int64 ((rows.map Prod.snd).foldl max 0 + 1))]]
  else [.ofValues [("column_name", .text "batch")]]

/-- The answer to a call and the state after it, by the schedule. -/
def reply {α : Type} (accepted : α × Scheduled) (s : Scheduled) : Except Failure α × Scheduled :=
  match s.refusals with
  | some e :: rest => (.error e, { s with refusals := rest })
  | _ => (.ok accepted.1, { accepted.2 with refusals := s.refusals.tail })

/-- The server that goes by its schedule. -/
def server (l : Ledger) : Server Scheduled where
  execute sql params s := reply (1, s.after l sql params) s
  fetch sql _ s := reply (s.answer l sql, s) s
  close s := reply ((), { s with working := none }) { s with working := none }

/-- An answered call has changed the state as accepted, or it was refused and changed nothing. -/
theorem reply_cases {α : Type} {accepted : α × Scheduled} {s s' : Scheduled}
    {r : Except Failure α} (answered : reply accepted s = (r, s')) :
    (r = .ok accepted.1 ∧ s'.committed = accepted.2.committed ∧
        s'.working = accepted.2.working) ∨
      ((∃ e, r = .error e) ∧ s'.committed = s.committed ∧ s'.working = s.working) := by
  unfold reply at answered
  split at answered
  · rename_i e rest scheduled
    obtain ⟨rfl, rfl⟩ := Prod.mk.inj answered
    exact .inr ⟨⟨e, rfl⟩, rfl, rfl⟩
  · obtain ⟨rfl, rfl⟩ := Prod.mk.inj answered
    exact .inl ⟨rfl, rfl, rfl⟩

/-- A statement with an effect is none of those around a transaction. -/
theorem effect_ne_around {l : Ledger} {sql : String} {params : List Value}
    {f : Contents → Contents} (effect : Effect l sql params f) :
    sql ≠ l.dialect.beginKeyword ++ ";" ∧ sql ≠ "COMMIT;" ∧ sql ≠ "ROLLBACK;" := by
  have apart : ∀ {words : String}, StartsWith words sql →
      (∀ d : Dialect, ¬ StartsWith words (d.beginKeyword ++ ";")) → ¬ StartsWith words "COMMIT;" →
      ¬ StartsWith words "ROLLBACK;" →
      sql ≠ l.dialect.beginKeyword ++ ";" ∧ sql ≠ "COMMIT;" ∧ sql ≠ "ROLLBACK;" := by
    intro words start opening commit rollback
    refine ⟨fun same => ?_, fun same => ?_, fun same => ?_⟩
    · exact opening l.dialect (same ▸ start)
    · exact commit (same ▸ start)
    · exact rollback (same ▸ start)
  cases effect with
  | schema schema => exact schema.ne_around l.dialect
  | record name batch =>
    exact apart l.recordStatement_start (fun d => by cases d <;> decide) (by decide) (by decide)
  | forget name =>
    exact apart l.forgetStatement_start (fun d => by cases d <;> decide) (by decide) (by decide)

/-- The change that a statement makes is its effect. -/
theorem change_eq {l : Ledger} {sql : String} {params : List Value} {f : Contents → Contents}
    (effect : Effect l sql params f) : change l sql params = f := by
  funext d
  unfold change
  cases effect with
  | schema schema =>
    have record : sql ≠ l.recordStatement := fun same =>
      schema.not_startsWith (by decide) (by decide) (by decide) (same ▸ l.recordStatement_start)
    have forget : sql ≠ l.forgetStatement := fun same =>
      schema.not_startsWith (by decide) (by decide) (by decide) (same ▸ l.forgetStatement_start)
    rw [if_neg record, if_neg forget]
  | record name batch => rw [if_pos rfl]
  | forget name =>
    have other : l.forgetStatement ≠ l.recordStatement := fun same =>
      l.forgetStatement_start.not_of_apart (by decide) (same ▸ l.recordStatement_start)
    rw [if_neg other, if_pos rfl]

/-- What an accepted statement with an effect leaves. -/
theorem after_effect {l : Ledger} {sql : String} {params : List Value} {f : Contents → Contents}
    (effect : Effect l sql params f) (s : Scheduled) :
    s.after l sql params =
      match s.working with
      | some w => { s with working := some (f w) }
      | none => { s with committed := f s.committed } := by
  obtain ⟨opening, commit, rollback⟩ := effect_ne_around effect
  rw [after, if_neg opening, if_neg commit, if_neg rollback, change_eq effect]

/-- The scheduled server is a server with transactions, whatever its schedule. -/
def transactional (l : Ledger) : Transactional l Scheduled where
  toServer := server l
  committed := Scheduled.committed
  working := Scheduled.working
  start_opens answered idle := by
    rcases reply_cases answered with ⟨-, same, copy⟩ | ⟨⟨e, refused⟩, -⟩
    · rw [same, copy, after, if_pos rfl]
      exact ⟨rfl, rfl⟩
    · cases refused
  effect_inside effect answered opened := by
    rcases reply_cases answered with ⟨-, same, copy⟩ | ⟨⟨e, refused⟩, -⟩
    · rw [same, copy, after_effect effect, opened]
      exact ⟨rfl, rfl⟩
    · cases refused
  effect_outside effect answered idle := by
    rcases reply_cases answered with ⟨-, same, copy⟩ | ⟨⟨e, refused⟩, -⟩
    · rw [same, copy, after_effect effect, idle]
      exact ⟨rfl, rfl⟩
    · cases refused
  commit_publishes answered opened := by
    rcases reply_cases answered with ⟨-, same, copy⟩ | ⟨⟨e, refused⟩, -⟩
    · have other : "COMMIT;" ≠ l.dialect.beginKeyword ++ ";" := by
        cases l.dialect <;> decide
      rw [same, copy, after, if_neg other, if_pos rfl]
      exact ⟨by rw [opened, Option.getD_some], rfl⟩
    · cases refused
  rollback_discards answered := by
    rcases reply_cases answered with ⟨-, same, copy⟩ | ⟨⟨e, refused⟩, -⟩
    · have other : "ROLLBACK;" ≠ l.dialect.beginKeyword ++ ";" := by
        cases l.dialect <;> decide
      rw [same, copy, after, if_neg other, if_neg (by decide), if_pos rfl]
      exact ⟨rfl, rfl⟩
    · cases refused
  refusal_publishes_nothing answered := by
    rcases reply_cases answered with ⟨accepted, -⟩ | ⟨-, same, -⟩
    · cases accepted
    · exact same
  fetch_keeps answered := by
    rcases reply_cases answered with ⟨-, same, copy⟩ | ⟨-, same, copy⟩
    · exact ⟨same, fun idle => copy.trans idle⟩
    · exact ⟨same, fun idle => copy.trans idle⟩
  names_visible answered := by
    rcases reply_cases answered with ⟨accepted, -⟩ | ⟨⟨e, refused⟩, -⟩
    · rw [Except.ok.inj accepted, answer, if_pos rfl, List.map_map]
      rfl
    · cases refused
  close_discards answered := by
    rcases reply_cases answered with ⟨-, same, copy⟩ | ⟨-, same, copy⟩
    · exact ⟨same, copy⟩
    · exact ⟨same, copy⟩

end Scheduled

end SchemaSeed.Server
