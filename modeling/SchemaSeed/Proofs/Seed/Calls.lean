import Mathlib
import SchemaSeed.Proofs.Seed.Exchanges

/-!
What is said for a job, call by call: its rows come one after the other, and then its own statement,
as often as it asks for.
-/

set_option autoImplicit false
set_option relaxedAutoImplicit false

namespace SchemaSeed.Seed

open SchemaSeed.Sql SchemaSeed.Factory

variable {γ : Type}

/-- Statements that are sent one after the other, up to the first that is refused; they are
counted. -/
inductive Closes : List Call → List Exchange → Except Failure Nat → Prop
  | nil : Closes [] [] (.ok 0)
  | refused {call : Call} {calls : List Call} {failure : Failure} :
      Closes (call :: calls) [.executed call (.error failure)] (.error failure)
  | cons {call : Call} {calls : List Call} {affected : Nat} {sent : List Exchange}
      {counted : Except Failure Nat} : Closes calls sent counted →
        Closes (call :: calls) (.executed call (.ok affected) :: sent) (counted.map (· + 1))

/-- A row that was made up and written: what was said for the one and for the other. -/
structure Turn where
  sampled : List Exchange
  row : SeedRow
  written : List Exchange
  outcome : WriteOutcome

/-- All that was said for a row. -/
def Turn.exchanges (t : Turn) : List Exchange := t.sampled ++ t.written

/-- Rows that were made up and written one after the other. -/
inductive Turns (e : Engine γ) (spec : Spec) (rules : List (String × Rule)) :
    γ → List Turn → γ → Prop
  | nil {c : γ} : Turns e spec rules c [] c
  | cons {c c₁ c' : γ} {turn : Turn} {turns : List Turn} :
      Gathers e rules c turn.sampled (.ok turn.row) c₁ →
      Delivers e.dialect spec.table turn.row spec.upsert turn.written (.ok turn.outcome) →
      Turns e spec rules c₁ turns c' → Turns e spec rules c (turn :: turns) c'

/-- A row that could not be made up or not be written. -/
inductive Fails (e : Engine γ) (spec : Spec) (rules : List (String × Rule)) :
    γ → List Exchange → Failure → γ → Prop
  | unmade {c c' : γ} {sampled : List Exchange} {failure : Failure} :
      Gathers e rules c sampled (.error failure) c' → Fails e spec rules c sampled failure c'
  | unwritten {c c' : γ} {sampled written : List Exchange} {row : SeedRow} {failure : Failure} :
      Gathers e rules c sampled (.ok row) c' →
      Delivers e.dialect spec.table row spec.upsert written (.error failure) →
        Fails e spec rules c (sampled ++ written) failure c'

/-- What rows add to the summary of a run. -/
def tally (turns : List Turn) : Summary :=
  { rowsInserted := turns.countP (·.outcome = .inserted)
    rowsUpdated := turns.countP (·.outcome = .updated) }

/-- The statements that a job sends after its rows. -/
def Spec.closing (spec : Spec) : List Call :=
  spec.customQuery.elim [] fun q => List.replicate q.count ⟨q.query, []⟩

section

variable {e : Engine γ} {rules : List (String × Rule)} {c c' : γ} {sent : List Exchange}

/-- Statements that were all accepted were all sent. -/
theorem Closes.complete {calls : List Call} {n : Nat} (closes : Closes calls sent (.ok n)) :
    sent.map Exchange.call = calls ∧ n = calls.length := by
  generalize given : Except.ok n = counted at closes
  induction closes generalizing n with
  | nil =>
    cases given
    exact ⟨rfl, rfl⟩
  | refused => cases given
  | cons _ ih =>
    rename_i rest _
    cases rest with
    | error failure => cases given
    | ok n =>
      cases given
      obtain ⟨calls, length⟩ := ih rfl
      exact ⟨by rw [List.map_cons, calls]; rfl, by rw [length, List.length_cons]⟩

/-- Why the statements of a job are not all accepted: the last that was sent failed. -/
theorem Closes.cause {calls : List Call} {failure : Failure}
    (closes : Closes calls sent (.error failure)) :
    ∃ before last, sent = before ++ [last] ∧ last.Fails failure := by
  generalize given : Except.error failure = counted at closes
  induction closes with
  | nil => cases given
  | refused =>
    cases given
    exact ⟨[], _, rfl, .rejected⟩
  | cons _ ih =>
    rename_i counted _
    cases counted with
    | ok n => cases given
    | error failure' =>
      cases given
      obtain ⟨before, last, rfl, fails⟩ := ih rfl
      exact ⟨_ :: before, last, rfl, fails⟩

/-- For a row that is written, the queries of its lookups come first. -/
theorem Turns.calls {spec : Spec} {turns : List Turn} (done : Turns e spec rules c turns c') :
    (turns.flatMap Turn.exchanges).map Exchange.call =
      turns.flatMap fun turn => lookups e.dialect rules ++ turn.written.map Exchange.call := by
  induction done with
  | nil => rfl
  | cons gathers _ _ ih =>
    rw [List.flatMap_cons, List.map_append, ih, List.flatMap_cons, Turn.exchanges,
      List.map_append, gathers.complete.1]

theorem tally_cons (turn : Turn) (turns : List Turn) :
    tally (turn :: turns) = turn.outcome.summary.add (tally turns) := by
  rcases turn with ⟨sampled, row, written, outcome⟩
  cases outcome <;> simp [tally, WriteOutcome.summary, Summary.add, Nat.add_comm]

theorem tally_rowsWritten (turns : List Turn) : (tally turns).rowsWritten = turns.length := by
  induction turns with
  | nil => rfl
  | cons turn turns ih =>
    rw [tally_cons, List.length_cons, ← ih]
    cases turn.outcome <;> simp [WriteOutcome.summary, Summary.add, Summary.rowsWritten] <;> omega

/-- Rows that have passed the check of their job are written one after the other, up to the first
that fails. -/
theorem writeRows_tells {spec : Spec} {factory : Factory.Document}
    (valid : spec.validate (some factory) = .ok ()) {n : Nat} {summary : Summary}
    {r : Except Failure Summary} (tells : (e.writeRows spec factory n summary).Tells c sent r c') :
    ∃ turns c₁ last, Turns e spec factory.rules c turns c₁ ∧
      sent = turns.flatMap Turn.exchanges ++ last ∧
      ((turns.length = n ∧ last = [] ∧ c' = c₁ ∧ r = .ok (summary.add (tally turns))) ∨
        (turns.length < n ∧ ∃ failure, Fails e spec factory.rules c₁ last failure c' ∧
          r = .error failure)) := by
  induction n generalizing summary c sent with
  | zero =>
    obtain ⟨rfl, rfl, rfl⟩ := Work.Tells.of_pure tells
    exact ⟨[], c', [], .nil, rfl, .inl ⟨rfl, rfl, rfl, rfl⟩⟩
  | succ n ih =>
    unfold Engine.writeRows at tells
    rcases tells.of_bind with ⟨failure, built, rfl⟩ | ⟨sampled, row, c₁, rest, rfl, built, writes⟩
    · exact ⟨[], c, sent, .nil, rfl, .inr ⟨Nat.succ_pos n, failure, .unmade (buildRow_tells built),
        rfl⟩⟩
    have gathers := buildRow_tells built
    have fits : ∀ u ∈ spec.upsert, u.Fits row := fun u upserts =>
      .of_validate valid upserts gathers.complete.2
    rcases writes.of_bind with ⟨failure, wrote, rfl⟩ |
      ⟨written, outcome, c₂, rest, rfl, wrote, later⟩
    · obtain ⟨delivers, rfl⟩ := writeRow_tells fits wrote
      exact ⟨[], c, _, .nil, rfl, .inr ⟨Nat.succ_pos n, failure, .unwritten gathers delivers, rfl⟩⟩
    obtain ⟨delivers, rfl⟩ := writeRow_tells fits wrote
    obtain ⟨turns, c₃, last, others, rfl, ended⟩ := ih later
    refine ⟨⟨sampled, row, written, outcome⟩ :: turns, c₃, last, .cons gathers delivers others, ?_,
      ?_⟩
    · simp [Turn.exchanges]
    · rcases ended with ⟨length, rfl, rfl, rfl⟩ | ⟨fewer, failure, fails, rfl⟩
      · exact .inl ⟨by rw [List.length_cons, length], rfl, rfl, by rw [tally_cons, Summary.add_assoc]⟩
      · exact .inr ⟨Nat.succ_lt_succ fewer, failure, fails, rfl⟩

/-- A statement is sent as many times as it is asked for, up to the first refusal. -/
theorem sendQuery_tells {query : String} {n : Nat} {summary : Summary} {r : Except Failure Summary}
    (tells : (e.sendQuery query n summary).Tells c sent r c') :
    ∃ counted, Closes (List.replicate n ⟨query, []⟩) sent counted ∧ c' = c ∧
      r = counted.map fun n => summary.add { customQueries := n } := by
  induction n generalizing summary sent r with
  | zero =>
    obtain ⟨rfl, rfl, rfl⟩ := Work.Tells.of_pure tells
    exact ⟨.ok 0, .nil, rfl, rfl⟩
  | succ n ih =>
    unfold Engine.sendQuery at tells
    rw [List.replicate_succ]
    rcases tells.of_bind with ⟨failure, asked, rfl⟩ | ⟨first, _, c₁, rest, rfl, asked, later⟩
    · obtain ⟨answer, rfl, rfl, same⟩ := send_tells asked
      cases answer with
      | ok n => cases same
      | error failure' =>
        cases same
        exact ⟨.error failure, .refused, rfl, rfl⟩
    · obtain ⟨answer, rfl, rfl, same⟩ := send_tells asked
      cases answer with
      | error failure => cases same
      | ok affected =>
        obtain ⟨counted, closes, rfl, rfl⟩ := ih later
        refine ⟨counted.map (· + 1), .cons closes, rfl, ?_⟩
        cases counted with
        | error failure => rfl
        | ok m =>
          refine congrArg Except.ok ?_
          simp [Summary.add, Nat.add_comm, Nat.add_left_comm]

end

/-- The rules of a job; without a factory there are none. -/
def rulesOf (factory : Option Factory.Document) : List (String × Rule) :=
  factory.elim [] Factory.Document.rules

/-- The rows that a job is to write; without a factory there are none. -/
def Spec.rounds (spec : Spec) (factory : Option Factory.Document) : Nat :=
  factory.elim 0 fun _ => spec.count

section

variable {e : Engine γ} {spec : Spec} {factory : Option Factory.Document} {c c' : γ}
  {sent : List Exchange} {r : Except Failure Summary}

/-- How a job ends after some rows: all of them are written, and its statements are sent; or the next
row fails. -/
inductive Ends (e : Engine γ) (spec : Spec) (factory : Option Factory.Document)
    (turns : List Turn) : γ → List Exchange → Except Failure Summary → γ → Prop
  | closed {c : γ} {sent : List Exchange} {counted : Except Failure Nat} :
      turns.length = spec.rounds factory → Closes spec.closing sent counted →
        Ends e spec factory turns c sent
          (counted.map fun n => (tally turns).add { customQueries := n }) c
  | cut {c c' : γ} {sent : List Exchange} {failure : Failure} :
      turns.length < spec.rounds factory → Fails e spec (rulesOf factory) c sent failure c' →
        Ends e spec factory turns c sent (.error failure) c'

private theorem closing_tells {total : Summary}
    (tells : Work.Tells (spec.customQuery.elim (return total)
      fun q => e.sendQuery q.query q.count total) c sent r c') :
    ∃ counted, Closes spec.closing sent counted ∧ c' = c ∧
      r = counted.map fun n => total.add { customQueries := n } := by
  unfold Spec.closing
  cases custom : spec.customQuery with
  | none =>
    rw [custom] at tells
    obtain ⟨rfl, rfl, rfl⟩ := Work.Tells.of_pure tells
    exact ⟨.ok 0, .nil, rfl, rfl⟩
  | some q =>
    rw [custom] at tells
    exact sendQuery_tells tells

/-- The two parts of a job that has passed its check. -/
private theorem run_eq (e : Engine γ) (valid : spec.validate factory = .ok ()) :
    e.run spec factory =
      (factory.elim (return {}) fun f => e.writeRows spec f spec.count {}) >>= fun total =>
        spec.customQuery.elim (return total) fun q => e.sendQuery q.query q.count total := by
  unfold Engine.run
  rw [valid, Work.ofResult_ok_bind]
  cases factory <;> cases spec.customQuery <;> rfl

/-- A job that has passed its check writes its rows one after the other, and then sends its
statements. -/
theorem run_tells (valid : spec.validate factory = .ok ())
    (tells : (e.run spec factory).Tells c sent r c') :
    ∃ turns c₁ last, Turns e spec (rulesOf factory) c turns c₁ ∧
      sent = turns.flatMap Turn.exchanges ++ last ∧ Ends e spec factory turns c₁ last r c' := by
  rw [run_eq e valid] at tells
  rcases tells.of_bind with ⟨failure, rows, rfl⟩ | ⟨first, total, c₁, rest, rfl, rows, after⟩
  · cases factory with
    | none => cases rows
    | some f =>
      obtain ⟨turns, c₁, last, done, rfl, ended⟩ := writeRows_tells valid rows
      rcases ended with ⟨-, -, -, impossible⟩ | ⟨fewer, failure', fails, same⟩
      · cases impossible
      · cases same
        exact ⟨turns, c₁, last, done, rfl, .cut fewer fails⟩
  · obtain ⟨counted, closes, rfl, rfl⟩ := closing_tells after
    suffices written : ∃ turns, Turns e spec (rulesOf factory) c turns c' ∧
        first = turns.flatMap Turn.exchanges ∧ turns.length = spec.rounds factory ∧
        total = tally turns by
      obtain ⟨turns, done, rfl, all, rfl⟩ := written
      exact ⟨turns, c', rest, done, rfl, .closed all closes⟩
    cases factory with
    | none =>
      obtain ⟨rfl, total, rfl⟩ := Work.Tells.of_pure rows
      exact ⟨[], .nil, rfl, rfl, Except.ok.inj total⟩
    | some f =>
      obtain ⟨turns, c₁, last, done, rfl, ended⟩ := writeRows_tells valid rows
      rcases ended with ⟨length, rfl, rfl, total⟩ | ⟨-, failure, -, impossible⟩
      · refine ⟨turns, done, List.append_nil _, length, ?_⟩
        rw [Except.ok.inj total, Summary.zero_add]
      · cases impossible

/-- What a job has done that succeeds. -/
theorem Ends.complete {turns : List Turn} {summary : Summary}
    (ends : Ends e spec factory turns c sent (.ok summary) c') :
    turns.length = spec.rounds factory ∧ sent.map Exchange.call = spec.closing ∧
      summary.rowsWritten = spec.rounds factory ∧ summary.customQueries = spec.closing.length := by
  generalize given : Except.ok summary = result at ends
  cases ends with
  | closed all closes =>
    rename_i counted
    cases counted <;> cases given
    obtain ⟨calls, number⟩ := closes.complete
    refine ⟨all, calls, ?_, ?_⟩
    · rw [← all, ← tally_rowsWritten turns]
      rfl
    · rw [← number]
      exact Nat.zero_add _
  | cut _ _ => cases given

/-- Why a job fails that has passed its check: the last exchange failed, or a rule is malformed. -/
theorem Ends.cause {turns : List Turn} {failure : Failure}
    (ends : Ends e spec factory turns c sent (.error failure) c') :
    (∃ before last, sent = before ++ [last] ∧ last.Fails failure) ∨
      ∃ cell ∈ rulesOf factory, cell.2.isFake = false ∧ cell.2.customValue = .error failure := by
  generalize given : Except.error failure = result at ends
  cases ends with
  | closed all closes =>
    rename_i counted
    cases counted <;> cases given
    exact .inl closes.cause
  | cut _ fails =>
    cases given
    cases fails with
    | unmade gathers =>
      rcases gathers.cause with ⟨before, last, parts, failed, -⟩ | malformed
      · exact .inl ⟨before, last, parts, failed⟩
      · exact .inr malformed
    | unwritten _ delivers =>
      obtain ⟨before, last, rfl, failed⟩ := delivers.cause
      exact .inl ⟨_ ++ before, last, (List.append_assoc _ _ _).symm, failed⟩

end

end SchemaSeed.Seed
