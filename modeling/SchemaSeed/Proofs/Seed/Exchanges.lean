import Mathlib
import SchemaSeed.Proofs.Seed.Writing
import SchemaSeed.Proofs.Sql.Exchange
import SchemaSeed.Seed.Engine

/-!
What is said for a row, call by call. The lookups of its rules come first, in the order of the rules;
then the row is written. The first answer that is not survived ends the work with its failure.
-/

set_option autoImplicit false
set_option relaxedAutoImplicit false

namespace SchemaSeed.Factory

open SchemaSeed.Sql

/-- The query of a lookup. -/
def Reference.query (r : Reference) (d : Dialect) : Call := ⟨d.randomRow r.table r.column, []⟩

/-- What the answer to the query of a lookup says: the first cell of the first row, if there is
one. -/
inductive Reference.Found (r : Reference) : Except Failure (List Row) → Except Failure Value → Prop
  | row {row : Row} {rows : List Row} : Found r (.ok (row :: rows)) (row.byIndex 0)
  | empty : Found r (.ok []) (.error (.emptyReference r.table r.column))
  | refused {e : Failure} : Found r (.error e) (.error e)

/-- What a lookup makes of the answer to its query. Some failures are survived, an answer without
rows among them; then there is no value. -/
inductive Reference.Resolved (r : Reference) :
    Except Failure (List Row) → Except Failure Value → Prop
  | found {answer : Except Failure (List Row)} {v : Value} :
      r.Found answer (.ok v) → Resolved r answer (.ok v)
  | survived {answer : Except Failure (List Row)} {e : Failure} :
      r.Found answer (.error e) → e.isRecoverable = true → Resolved r answer (.ok .null)
  | failed {answer : Except Failure (List Row)} {e : Failure} :
      r.Found answer (.error e) → e.isRecoverable = false → Resolved r answer (.error e)

/-- What is taken from another table, if anything is. -/
def Custom.reference? : Custom → Option Reference
  | .reference r => some r
  | _ => none

/-- The column that a rule looks up. -/
def Rule.reference? (r : Rule) : Option Reference :=
  if r.isFake then none else r.customValue.toOption.bind Custom.reference?

/-- A value with the replacements of a rule made. -/
def Rule.replaced (r : Rule) (v : Value) : Value := r.manipulation.elim v (·.apply v)

/-- There is nothing to replace in a missing value. -/
@[simp] theorem Rule.replaced_null (r : Rule) : r.replaced .null = .null := by
  unfold Rule.replaced
  cases r.manipulation <;> rfl

section

variable {σ : Type} {c c' : σ} {exchanges : List Exchange} {d : Dialect} {r : Reference}
  {outcome : Except Failure Value}

private theorem Reference.find_tells (tells : (r.find d).Tells c exchanges outcome c') :
    ∃ answer, exchanges = [.fetched (r.query d) answer] ∧ c' = c ∧ r.Found answer outcome := by
  rcases tells.of_bind with ⟨e, fetched, rfl⟩ | ⟨first, rows, c₁, second, rfl, fetched, rest⟩
  · obtain ⟨rfl, rfl⟩ := fetched.of_fetch
    exact ⟨.error e, rfl, rfl, .refused⟩
  · obtain ⟨rfl, rfl⟩ := fetched.of_fetch
    cases rows with
    | nil =>
      obtain ⟨rfl, rfl, rfl⟩ := Work.Tells.of_throw rest
      exact ⟨.ok [], rfl, rfl, .empty⟩
    | cons row rows =>
      obtain ⟨rfl, rfl, rfl⟩ := Work.Tells.of_ofResult rest
      exact ⟨.ok (row :: rows), rfl, rfl, .row⟩

/-- A lookup is one query. -/
theorem Reference.resolve_tells (tells : (r.resolve d).Tells c exchanges outcome c') :
    ∃ answer, exchanges = [.fetched (r.query d) answer] ∧ c' = c ∧ r.Resolved answer outcome := by
  rcases tells.of_bind with ⟨e, attempted, -⟩ | ⟨first, found, c₁, second, rfl, attempted, rest⟩
  · obtain ⟨_, -, impossible⟩ := attempted.of_attempt
    cases impossible
  · obtain ⟨_, tried, same⟩ := attempted.of_attempt
    cases same
    obtain ⟨answer, rfl, rfl, result⟩ := Reference.find_tells tried
    cases found with
    | ok v =>
      obtain ⟨rfl, rfl, rfl⟩ := Work.Tells.of_pure rest
      exact ⟨answer, rfl, rfl, .found result⟩
    | error e =>
      dsimp only at rest
      split at rest
      · rename_i survived
        obtain ⟨rfl, rfl, rfl⟩ := Work.Tells.of_pure rest
        exact ⟨answer, rfl, rfl, .survived result survived⟩
      · rename_i fatal
        obtain ⟨rfl, rfl, rfl⟩ := Work.Tells.of_throw rest
        exact ⟨answer, rfl, rfl, .failed result (Bool.eq_false_iff.mpr fatal)⟩

end

end SchemaSeed.Factory

namespace SchemaSeed.Seed

open SchemaSeed.Sql SchemaSeed.Factory

variable {γ : Type}

/-- How the value of a column comes about, and what is said for it. Values are made up by the
generator, given by the rule or looked up; literals and what is looked up lose their declared
type. -/
inductive Obtains (e : Engine γ) (rule : Rule) :
    γ → List Exchange → Except Failure Value → γ → Prop
  | made {c c' : γ} {v : Value} : rule.isFake = true →
      (e.generator (rule.tag.getD "")).run c = (v, c') →
        Obtains e rule c [] (.ok (rule.replaced v)) c'
  | literal {c : γ} {value : Json} : rule.isFake = false →
      rule.customValue = .ok (.literal value) →
        Obtains e rule c [] (.ok (rule.replaced (Value.ofJson value).toUntyped)) c
  | nothing {c : γ} : rule.isFake = false → rule.customValue = .ok .nothing →
      Obtains e rule c [] (.ok .null) c
  | malformed {c : γ} {failure : Failure} : rule.isFake = false →
      rule.customValue = .error failure → Obtains e rule c [] (.error failure) c
  | lookedUp {c : γ} {r : Reference} {answer : Except Failure (List Row)}
      {resolved : Except Failure Value} : rule.isFake = false →
      rule.customValue = .ok (.reference r) → r.Resolved answer resolved →
        Obtains e rule c [.fetched (r.query e.dialect) answer]
          (resolved.map fun v => rule.replaced v.toUntyped) c

/-- How a row comes about, column by column, and what is said for it. -/
inductive Gathers (e : Engine γ) :
    List (String × Rule) → γ → List Exchange → Except Failure SeedRow → γ → Prop
  | nil {c : γ} : Gathers e [] c [] (.ok []) c
  | failed {column : String} {rule : Rule} {rules : List (String × Rule)} {c c' : γ}
      {sent : List Exchange} {failure : Failure} : Obtains e rule c sent (.error failure) c' →
        Gathers e ((column, rule) :: rules) c sent (.error failure) c'
  | cons {column : String} {rule : Rule} {rules : List (String × Rule)} {c c₁ c' : γ}
      {sent others : List Exchange} {v : Value} {row : Except Failure SeedRow} :
      Obtains e rule c sent (.ok v) c₁ → Gathers e rules c₁ others row c' →
        Gathers e ((column, rule) :: rules) c (sent ++ others) (row.map ((column, v) :: ·)) c'

/-- How many rows an answer to a count tells: the integer in the first cell of the first row, or
none. -/
inductive Counted : Except Failure (List Row) → Except Failure Int → Prop
  | none : Counted (.ok []) (.ok 0)
  | told {row : Row} {rows : List Row} {v : Value} :
      row.byIndex 0 = .ok v → Counted (.ok (row :: rows)) (.ok (v.int64?.getD 0))
  | unreadable {row : Row} {rows : List Row} {failure : Failure} :
      row.byIndex 0 = .error failure → Counted (.ok (row :: rows)) (.error failure)
  | refused {failure : Failure} : Counted (.error failure) (.error failure)

/-- How a row is written: it is added, or first the rows that it is to replace are counted, and if
there are some they are replaced. -/
inductive Delivers (d : Dialect) (table : String) (row : SeedRow) :
    Option Upsert → List Exchange → Except Failure WriteOutcome → Prop
  | plain {answer : Except Failure Nat} :
      Delivers d table row none [.executed (Statement.insert d table row) answer]
        (answer.map fun _ => .inserted)
  | uncounted {u : Upsert} {count : Call} {answer : Except Failure (List Row)}
      {failure : Failure} : Statement.count d table row u = .ok count →
      Counted answer (.error failure) →
        Delivers d table row (some u) [.fetched count answer] (.error failure)
  | present {u : Upsert} {count update : Call} {found : Int}
      {counted : Except Failure (List Row)} {answer : Except Failure Nat} :
      Statement.count d table row u = .ok count → Counted counted (.ok found) → 0 < found →
      Statement.update d table row u = .ok update →
        Delivers d table row (some u) [.fetched count counted, .executed update answer]
          (answer.map fun _ => .updated)
  | absent {u : Upsert} {count : Call} {found : Int}
      {counted : Except Failure (List Row)} {answer : Except Failure Nat} :
      Statement.count d table row u = .ok count → Counted counted (.ok found) → found ≤ 0 →
        Delivers d table row (some u)
          [.fetched count counted, .executed (Statement.insert d table row) answer]
          (answer.map fun _ => .inserted)

section

variable {e : Engine γ} {c c' : γ} {exchanges : List Exchange}

private theorem generate_tells {word : String} {result : Except Failure Value}
    (tells : (e.generate word).Tells c exchanges result c') :
    ∃ v, exchanges = [] ∧ result = .ok v ∧ (e.generator word).run c = (v, c') := by
  cases tells
  exact ⟨_, rfl, rfl, rfl⟩

private theorem cell_eq (rule : Rule) :
    e.cell rule = do return rule.replaced (← e.ruleValue rule) := by
  unfold Engine.cell Rule.replaced
  cases rule.manipulation <;> rfl

/-- A column takes at most one query, that of its lookup. -/
theorem cell_tells {rule : Rule} {v : Except Failure Value}
    (tells : (e.cell rule).Tells c exchanges v c') : Obtains e rule c exchanges v c' := by
  rw [cell_eq] at tells
  obtain ⟨given, value, rfl⟩ := Work.Tells.of_map tells
  unfold Engine.ruleValue at value
  split at value
  · rename_i fake
    obtain ⟨v, rfl, rfl, drawn⟩ := generate_tells value
    exact .made fake drawn
  · rename_i other
    have other : rule.isFake = false := Bool.eq_false_iff.mpr other
    rcases value.of_bind with ⟨failure, classified, rfl⟩ |
      ⟨first, custom, c₁, second, rfl, classified, rest⟩
    · obtain ⟨rfl, known, rfl⟩ := classified.of_ofResult
      exact .malformed other known.symm
    · obtain ⟨rfl, known, rfl⟩ := classified.of_ofResult
      cases custom with
      | literal value =>
        obtain ⟨rfl, rfl, rfl⟩ := Work.Tells.of_pure rest
        exact .literal other known.symm
      | nothing =>
        obtain ⟨rfl, rfl, rfl⟩ := Work.Tells.of_pure rest
        rw [Except.map, Rule.replaced_null]
        exact .nothing other known.symm
      | reference r =>
        obtain ⟨resolved, asked, rfl⟩ := Work.Tells.of_map rest
        obtain ⟨answer, rfl, rfl, result⟩ := Reference.resolve_tells asked
        have both : (resolved.map Value.toUntyped).map rule.replaced =
            resolved.map fun v => rule.replaced v.toUntyped := by
          cases resolved <;> rfl
        rw [both]
        exact .lookedUp other known.symm result

/-- A row is gathered column by column. -/
theorem buildRow_tells {factory : Factory.Document} {row : Except Failure SeedRow}
    (tells : (e.buildRow factory).Tells c exchanges row c') :
    Gathers e factory.rules c exchanges row c' := by
  unfold Engine.buildRow at tells
  generalize factory.rules = rules at tells ⊢
  induction rules generalizing c exchanges row with
  | nil =>
    obtain ⟨rfl, rfl, rfl⟩ := Work.Tells.of_pure tells
    exact .nil
  | cons cell rest ih =>
    rcases cell with ⟨column, rule⟩
    rw [List.mapM_cons] at tells
    rcases tells.of_bind with ⟨failure, first, rfl⟩ | ⟨sent, named, c₁, second, rfl, first, others⟩
    · obtain ⟨v, obtained, same⟩ := Work.Tells.of_map first
      cases v with
      | error failure' =>
        obtain rfl : failure = failure' := Except.error.inj same
        exact .failed (cell_tells obtained)
      | ok v => cases same
    · obtain ⟨v, obtained, same⟩ := Work.Tells.of_map first
      obtain ⟨row', gathered, rfl⟩ := Work.Tells.of_map others
      cases v with
      | error failure => cases same
      | ok v =>
        obtain rfl : named = (column, v) := Except.ok.inj same
        exact .cons (cell_tells obtained) (ih gathered)

/-- A statement is sent once. -/
theorem send_tells {call : Call} {r : Except Failure Unit}
    (tells : (Engine.send call : Work γ Unit).Tells c exchanges r c') :
    ∃ answer, exchanges = [.executed call answer] ∧ c' = c ∧ r = answer.map fun _ => () := by
  obtain ⟨answer, sent, rfl⟩ := Work.Tells.of_map tells
  obtain ⟨rfl, rfl⟩ := sent.of_execute
  exact ⟨answer, rfl, rfl, rfl⟩

/-- A statement whose acceptance has an outcome. -/
private theorem send_then_tells {call : Call} {outcome : WriteOutcome}
    {r : Except Failure WriteOutcome}
    (tells : Work.Tells (do Engine.send call; return outcome) c exchanges r c') :
    ∃ answer, exchanges = [.executed call answer] ∧ c' = c ∧ r = answer.map fun _ => outcome := by
  obtain ⟨r', sent, rfl⟩ := Work.Tells.of_map tells
  obtain ⟨answer, rfl, rfl, rfl⟩ := send_tells sent
  refine ⟨answer, rfl, rfl, ?_⟩
  cases answer <;> rfl

private theorem existing_counted (rows : List Row) : Counted (.ok rows) (Engine.existing rows) := by
  cases rows with
  | nil => exact .none
  | cons row rows =>
    unfold Engine.existing
    dsimp only
    cases cell : row.byIndex 0 with
    | error failure => exact .unreadable cell
    | ok v => exact .told cell

/-- A row that can be compared is delivered. -/
theorem writeRow_tells {table : String} {row : SeedRow} {upsert : Option Upsert}
    {outcome : Except Failure WriteOutcome} (fits : ∀ u ∈ upsert, u.Fits row)
    (tells : (e.writeRow table row upsert).Tells c exchanges outcome c') :
    Delivers e.dialect table row upsert exchanges outcome ∧ c' = c := by
  cases upsert with
  | none =>
    obtain ⟨answer, rfl, rfl, rfl⟩ := send_then_tells tells
    exact ⟨.plain, rfl⟩
  | some u =>
    obtain ⟨count, counted, -⟩ := count_denotes e.dialect table (fits u rfl)
    obtain ⟨update, updated, -⟩ := update_denotes e.dialect table (fits u rfl)
    unfold Engine.writeRow at tells
    dsimp only at tells
    rw [counted, Work.ofResult_ok_bind] at tells
    rcases tells.of_bind with ⟨failure, asked, rfl⟩ |
      ⟨first, rows, c₁, second, rfl, asked, rest⟩
    · obtain ⟨rfl, rfl⟩ := asked.of_fetch
      exact ⟨.uncounted counted .refused, rfl⟩
    obtain ⟨rfl, rfl⟩ := asked.of_fetch
    have told := existing_counted rows
    cases existing : Engine.existing rows with
    | error failure =>
      rw [existing] at rest told
      obtain ⟨rfl, rfl, rfl⟩ := Work.Tells.of_throw rest
      exact ⟨.uncounted counted told, rfl⟩
    | ok found =>
      rw [existing] at rest told
      rw [Work.ofResult_ok_bind] at rest
      split at rest
      · rename_i some
        rw [updated, Work.ofResult_ok_bind] at rest
        obtain ⟨answer, rfl, rfl, rfl⟩ := send_then_tells rest
        exact ⟨.present counted told some updated, rfl⟩
      · rename_i none
        obtain ⟨answer, rfl, rfl, rfl⟩ := send_then_tells rest
        exact ⟨.absent counted told (not_lt.mp none), rfl⟩

end

/-- The queries of the lookups of some rules, in the order of the rules. -/
def lookups (d : Dialect) (rules : List (String × Rule)) : List Call :=
  rules.filterMap fun cell => cell.2.reference?.map (·.query d)

section

variable {e : Engine γ} {rules : List (String × Rule)} {c c' : γ} {sent : List Exchange}

/-- A column takes one query if it is looked up, and none otherwise. -/
theorem Obtains.calls {rule : Rule} {v : Except Failure Value}
    (obtains : Obtains e rule c sent v c') :
    sent.map Exchange.call = (rule.reference?.map (·.query e.dialect)).toList := by
  unfold Rule.reference?
  cases obtains with
  | made fake _ =>
    rw [if_pos fake]
    rfl
  | literal other known | nothing other known | malformed other known =>
    rw [other, known]
    rfl
  | lookedUp other known _ =>
    rw [other, known]
    rfl

theorem lookups_cons (d : Dialect) (column : String) (rule : Rule) :
    lookups d ((column, rule) :: rules) =
      (rule.reference?.map (·.query d)).toList ++ lookups d rules := by
  unfold lookups
  rw [List.filterMap_cons]
  cases rule.reference? <;> rfl

/-- A row takes the queries of its lookups, in the order of the rules; it may be cut. -/
theorem Gathers.calls_prefix {row : Except Failure SeedRow}
    (gathers : Gathers e rules c sent row c') :
    sent.map Exchange.call <+: lookups e.dialect rules := by
  induction gathers with
  | nil => exact List.prefix_rfl
  | failed obtains =>
    rw [lookups_cons, obtains.calls]
    exact List.prefix_append _ _
  | cons obtains _ ih =>
    rw [lookups_cons, List.map_append, obtains.calls]
    exact (List.prefix_append_right_inj _).mpr ih

/-- A row that is complete has taken all of them, and has a value for each column. -/
theorem Gathers.complete {row : SeedRow} (gathers : Gathers e rules c sent (.ok row) c') :
    sent.map Exchange.call = lookups e.dialect rules ∧ row.map Prod.fst = rules.map Prod.fst := by
  generalize given : Except.ok row = result at gathers
  induction gathers generalizing row with
  | nil =>
    cases given
    exact ⟨rfl, rfl⟩
  | failed _ => cases given
  | cons obtains _ ih =>
    rename_i rest _
    cases rest with
    | error failure => cases given
    | ok rest =>
      cases given
      obtain ⟨calls, names⟩ := ih rfl
      refine ⟨?_, ?_⟩
      · rw [lookups_cons, List.map_append, obtains.calls, calls]
      · rw [List.map_cons, List.map_cons, names]

/-- Why a row is not made up: its last lookup failed, or one of its rules is malformed. -/
theorem Gathers.cause {failure : Failure} (gathers : Gathers e rules c sent (.error failure) c') :
    (∃ before last, sent = before ++ [last] ∧ last.Fails failure ∧ failure.isRecoverable = false) ∨
      ∃ cell ∈ rules, cell.2.isFake = false ∧ cell.2.customValue = .error failure := by
  generalize given : Except.error failure = result at gathers
  induction gathers with
  | nil => cases given
  | failed obtains =>
    cases given
    generalize given : Except.error failure = value at obtains
    cases obtains with
    | made _ _ | literal _ _ | nothing _ _ => cases given
    | malformed other known =>
      cases given
      exact .inr ⟨_, List.mem_cons_self, other, known⟩
    | lookedUp other known resolved =>
      cases resolved with
      | found _ | survived _ _ => cases given
      | failed found fatal =>
        cases given
        refine .inl ⟨[], _, rfl, ?_, fatal⟩
        generalize given : Except.error failure = value at found
        cases found with
        | row => exact .unreadable given.symm
        | empty =>
          cases given
          cases fatal
        | refused =>
          cases given
          exact .refused
  | cons obtains _ ih =>
    rename_i row _
    cases row with
    | ok row => cases given
    | error failure' =>
      cases given
      rcases ih rfl with ⟨before, last, rfl, fails, fatal⟩ | ⟨cell, member, other, known⟩
      · exact .inl ⟨_ ++ before, last, (List.append_assoc _ _ _).symm, fails, fatal⟩
      · exact .inr ⟨cell, List.mem_cons_of_mem _ member, other, known⟩

/-- Why a row is not written: the last statement failed. -/
theorem Delivers.cause {d : Dialect} {table : String} {row : SeedRow} {upsert : Option Upsert}
    {failure : Failure} (delivers : Delivers d table row upsert sent (.error failure)) :
    ∃ before last, sent = before ++ [last] ∧ last.Fails failure := by
  generalize given : Except.error failure = outcome at delivers
  cases delivers with
  | plain =>
    rename_i answer
    cases answer <;> cases given
    exact ⟨[], _, rfl, .rejected⟩
  | uncounted _ counted =>
    cases given
    cases counted with
    | unreadable cell => exact ⟨[], _, rfl, .unreadable cell⟩
    | refused => exact ⟨[], _, rfl, .refused⟩
  | present asked told some updated =>
    rename_i answer
    cases answer <;> cases given
    exact ⟨[_], _, rfl, .rejected⟩
  | absent asked told none =>
    rename_i answer
    cases answer <;> cases given
    exact ⟨[_], _, rfl, .rejected⟩

end

end SchemaSeed.Seed
