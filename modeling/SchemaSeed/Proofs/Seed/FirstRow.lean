import Mathlib
import SchemaSeed.Proofs.Seed.Rejection

/-!
What can still fail once a job has a row. The check of the job covers the columns that rows are
matched by, and a malformed rule stops the first row already; so from the first row on there are only
the failures of the server, and of reading its answers.
-/

set_option autoImplicit false
set_option relaxedAutoImplicit false

namespace SchemaSeed

/-- Failures of a server: a statement was refused, or the connection is gone. -/
def Failure.isOfServer : Failure → Bool
  | .statementFailed _ _ => true
  | .connectionUnavailable _ => true
  | _ => false

namespace Sql

/-- A server that refuses calls with failures of its own only. -/
structure Server.RefusesAsServer {τ : Type} (server : Server τ) : Prop where
  executes : ∀ sql params s failure,
    (server.execute sql params s).1 = .error failure → failure.isOfServer = true
  fetches : ∀ sql params s failure,
    (server.fetch sql params s).1 = .error failure → failure.isOfServer = true

/-- Exchanges that end with a failure of the server: the last call was refused, for a reason of the
server's, or the first cell of the answer to it cannot be read. -/
def FailsAtServer (failure : Failure) (exchanges : List Exchange) : Prop :=
  ∃ before last, exchanges = before ++ [last] ∧ last.Fails failure ∧
    (last.accepted = false → failure.isOfServer = true)

/-- What such a server has refused, it has refused as a server. -/
theorem Server.RefusesAsServer.answers {τ : Type} {server : Server τ}
    (own : server.RefusesAsServer) {s s' : τ} {exchanges : List Exchange}
    (answers : Answers server s exchanges s') {exchange : Exchange} (member : exchange ∈ exchanges)
    {failure : Failure} (fails : exchange.Fails failure) (refused : exchange.accepted = false) :
    failure.isOfServer = true := by
  induction answers with
  | nil => cases member
  | executed answered _ ih =>
    rcases List.mem_cons.mp member with rfl | later
    · cases fails
      exact own.executes _ _ _ failure (congrArg Prod.fst answered)
    · exact ih later
  | fetched answered _ ih =>
    rcases List.mem_cons.mp member with rfl | later
    · cases fails with
      | refused => exact own.fetches _ _ _ failure (congrArg Prod.fst answered)
      | unreadable _ => cases refused
    · exact ih later

theorem Server.RefusesAsServer.failsAtServer {τ : Type} {server : Server τ}
    (own : server.RefusesAsServer) {s s' : τ} {exchanges : List Exchange}
    (answers : Answers server s exchanges s') {failure : Failure}
    (ended : ∃ before last, exchanges = before ++ [last] ∧ last.Fails failure) :
    FailsAtServer failure exchanges := by
  obtain ⟨before, last, rfl, fails⟩ := ended
  exact ⟨before, last, rfl, fails, own.answers answers List.mem_append_cons_self fails⟩

end Sql

/-- A rule that is malformed is a matter of its document. -/
theorem Factory.Rule.customValue_error {r : Factory.Rule} {failure : Failure}
    (malformed : r.customValue = .error failure) : ∃ reason, failure = .invalidDocument reason := by
  unfold Factory.Rule.customValue at malformed
  split at malformed
  case h_4 =>
    split at malformed
    · cases malformed
    · split at malformed
      · cases malformed
      · cases malformed
        exact ⟨_, rfl⟩
  case h_3 => split_ifs at malformed
  all_goals cases malformed

namespace Seed

open SchemaSeed.Sql SchemaSeed.Factory

section

variable {γ : Type} {e : Engine γ} {c c₁ c₂ c' : γ} {sent sent' : List Exchange}

/-- Once a row was made up, only an answer can keep the next one from being made up. -/
theorem Gathers.cause_after {rules : List (String × Rule)} {row : SeedRow} {failure : Failure}
    (first : Gathers e rules c sent (.ok row) c₁)
    (next : Gathers e rules c₂ sent' (.error failure) c') :
    ∃ before last, sent' = before ++ [last] ∧ last.Fails failure := by
  rcases next.cause with ⟨before, last, parts, fails, -⟩ | ⟨cell, member, given, malformed⟩
  · exact ⟨before, last, parts, fails⟩
  · exact absurd malformed (first.wellFormed member given failure)

end

section

variable {γ τ : Type} {server : Server τ}

/-- A job that has passed its check has no failures of documents left once a row was made up. That
row can be counted and replaced, with at least one comparison and at least one cell; making up
another one, in whatever state, fails at the server only. And if the job fails, it fails at the
server, or at a malformed rule before anything but the lookups of the first row was sent. -/
theorem documents_fail_before_first_row (own : server.RefusesAsServer) (e : Engine γ) {spec : Spec}
    {factory : Factory.Document} (valid : spec.validate (some factory) = .ok ()) :
    (∀ {c c₁ : γ} {s : τ} {s₁ : Recorded τ} {row : SeedRow},
      Work.runOn server.recorded (e.buildRow factory) c ⟨[], s⟩ = ((.ok row, c₁), s₁) →
      (∀ u, spec.upsert = some u →
        row ≠ [] ∧ u.condition row ≠ [] ∧ (∀ part ∈ u.condition row, part ≠ []) ∧
        ∃ count update, Statement.count e.dialect spec.table row u = .ok count ∧
          Denotes e.dialect count (.count spec.table (u.condition row)) ∧
          Statement.update e.dialect spec.table row u = .ok update ∧
          Denotes e.dialect update (.update spec.table row (u.condition row))) ∧
      ∀ {c₂ c₃ : γ} {s₂ : τ} {s₃ : Recorded τ} {failure : Failure},
        Work.runOn server.recorded (e.buildRow factory) c₂ ⟨[], s₂⟩ = ((.error failure, c₃), s₃) →
        ∃ exchanges, Answers server s₂ exchanges s₃.inner ∧
          s₃.calls = exchanges.map Exchange.call ∧ FailsAtServer failure exchanges) ∧
    ∀ {c c' : γ} {s : τ} {s' : Recorded τ} {failure : Failure},
      Work.runOn server.recorded (e.run spec (some factory)) c ⟨[], s⟩ =
        ((.error failure, c'), s') →
      ∃ exchanges, Answers server s exchanges s'.inner ∧ s'.calls = exchanges.map Exchange.call ∧
        (FailsAtServer failure exchanges ∨
          (s'.calls <+: lookups e.dialect factory.rules ∧
            ∃ cell ∈ factory.rules, cell.2.isFake = false ∧
              cell.2.customValue = .error failure)) := by
  refine ⟨fun built => ?_, fun failed => ?_⟩
  · obtain ⟨_, tells, -, -⟩ := Work.of_runOn_recorded built
    have first := buildRow_tells tells
    refine ⟨fun u upserts => ?_, fun failed => ?_⟩
    · have fits : u.Fits _ := .of_validate valid upserts first.complete.2
      obtain ⟨count, counted, counts, -⟩ := count_denotes e.dialect spec.table fits
      obtain ⟨update, updated, updates, -⟩ := update_denotes e.dialect spec.table fits
      exact ⟨fits.row_ne_nil, fits.condition_ne_nil.1, fits.condition_ne_nil.2, count, update,
        counted, counts, updated, updates⟩
    · obtain ⟨exchanges, tells', answers, calls⟩ := Work.of_runOn_recorded failed
      have ended := first.cause_after (buildRow_tells tells')
      exact ⟨exchanges, answers, calls, own.failsAtServer answers ended⟩
  · obtain ⟨exchanges, tells, answers, calls⟩ := Work.of_runOn_recorded failed
    refine ⟨exchanges, answers, calls, ?_⟩
    rcases failed_job_ends valid tells with ended | ⟨started, malformed⟩
    · exact .inl (own.failsAtServer answers ended)
    · exact .inr ⟨calls ▸ started, malformed⟩

/-- A row with a site is made up as long as there is a connection. When it is gone, neither another
row nor the job itself fails for another reason. -/
theorem connection_lost_after_first_row :
    let server : Server Bool :=
      { execute := fun _ _ up => (.ok 1, up)
        fetch := fun _ _ up =>
          (if up then .ok [Row.ofValues [("id", .int64 7)]]
            else .error (.connectionUnavailable "gone"), up)
        close := fun up => (.ok (), up) }
    let e : Engine Unit := ⟨.postgres, fun _ => pure .null⟩
    let site : Json := .ofMembers [("table", .string "sites"), ("column", .string "id")]
    let factory : Factory.Document :=
      ⟨[[("email", { custom := some (.string "ada") })],
        [("site", { custom := some (.ofMembers [("reference_table", site)]) })]]⟩
    let u : Upsert := ⟨["email", "site"], some .or⟩
    let spec : Spec := { table := "users", count := 2, createOrUpdate := some u }
    let gone : Failure := .connectionUnavailable "gone"
    server.RefusesAsServer ∧ spec.validate (some factory) = .ok () ∧
      ∃ row s₁ c₃ s₃ c' s',
        Work.runOn server.recorded (e.buildRow factory) () ⟨[], true⟩ = ((.ok row, ()), s₁) ∧
        (∃ update, Statement.update .postgres "users" row u = .ok update ∧
          Denotes .postgres update (.update "users" row (u.condition row))) ∧
        Work.runOn server.recorded (e.buildRow factory) () ⟨[], false⟩ =
          ((.error gone, c₃), s₃) ∧
        (∃ exchanges, s₃.calls = exchanges.map Exchange.call ∧ FailsAtServer gone exchanges) ∧
        Work.runOn server.recorded (e.run spec (some factory)) () ⟨[], false⟩ =
          ((.error gone, c'), s') ∧
        ∃ exchanges, s'.calls = exchanges.map Exchange.call ∧ FailsAtServer gone exchanges := by
  intro server e site factory u spec gone
  have own : server.RefusesAsServer := by
    refine ⟨fun _ _ up failure refused => ?_, fun _ _ up failure refused => ?_⟩
    · cases refused
    · cases up <;> cases refused
      rfl
  have valid : spec.validate (some factory) = .ok () := by cbv
  have row_made : (Work.runOn server.recorded (e.buildRow factory) () ⟨[], true⟩).1.1 =
      .ok [("email", .untyped "ada"), ("site", .int64 7)] := by cbv
  have row_missed : (Work.runOn server.recorded (e.buildRow factory) () ⟨[], false⟩).1.1 =
      .error gone := by cbv
  have job_missed : (Work.runOn server.recorded (e.run spec (some factory)) () ⟨[], false⟩).1.1 =
      .error gone := by cbv
  rcases built : Work.runOn server.recorded (e.buildRow factory) () ⟨[], true⟩ with ⟨⟨r, c₁⟩, s₁⟩
  rcases missed : Work.runOn server.recorded (e.buildRow factory) () ⟨[], false⟩ with
    ⟨⟨r₂, c₂⟩, s₂⟩
  rcases failed : Work.runOn server.recorded (e.run spec (some factory)) () ⟨[], false⟩ with
    ⟨⟨r₃, c₃⟩, s₃⟩
  rw [built] at row_made
  rw [missed] at row_missed
  rw [failed] at job_missed
  obtain rfl : r = _ := row_made
  obtain rfl : r₂ = _ := row_missed
  obtain rfl : r₃ = _ := job_missed
  obtain ⟨rows, jobs⟩ := documents_fail_before_first_row own e valid
  obtain ⟨replaces, next⟩ := rows built
  obtain ⟨-, -, -, -, update, -, -, updated, updates⟩ := replaces u rfl
  obtain ⟨exchanges, -, calls, fails⟩ := next missed
  obtain ⟨exchanges', -, calls', ended⟩ := jobs failed
  refine ⟨own, valid, _, s₁, c₂, s₂, c₃, s₃, rfl, ⟨update, updated, updates⟩, rfl,
    ⟨exchanges, calls, fails⟩, rfl, exchanges', calls', ended.resolve_right ?_⟩
  rintro ⟨-, cell, -, -, malformed⟩
  obtain ⟨reason, impossible⟩ := Rule.customValue_error malformed
  exact Failure.noConfusion impossible

end

end Seed

end SchemaSeed
