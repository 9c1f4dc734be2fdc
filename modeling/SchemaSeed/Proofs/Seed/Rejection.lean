import Mathlib
import SchemaSeed.Proofs.Seed.Seeding

/-!
Runs that end at a malformed document. Documents are read and checked one at a time, each when its
turn comes: nothing is written for the job that is rejected, but what the jobs before it have written
is there.
-/

set_option autoImplicit false
set_option relaxedAutoImplicit false

namespace SchemaSeed

open Sql

/-- Failures that tell of a document that is malformed. -/
def Failure.isMalformed : Failure → Bool
  | .invalidDocument _ => true
  | .missingOperator _ => true
  | _ => false

/-- A server that refuses no call. A cell may be unreadable, but not for the sake of a document. -/
structure Sql.Server.Willing {τ : Type} (server : Server τ) : Prop where
  executes : ∀ sql params s, ∃ n, (server.execute sql params s).1 = .ok n
  fetches : ∀ sql params s, ∃ rows, (server.fetch sql params s).1 = .ok rows ∧
    ∀ row ∈ rows, ∀ failure, row.byIndex 0 = .error failure → failure.isMalformed = false

/-- Such a server never answers with a failure that tells of a document. -/
theorem Sql.Server.Willing.answers {τ : Type} {server : Server τ} (willing : server.Willing)
    {s s' : τ} {exchanges : List Exchange} (answers : Answers server s exchanges s')
    {exchange : Exchange} (member : exchange ∈ exchanges) {failure : Failure}
    (fails : exchange.Fails failure) : failure.isMalformed = false := by
  induction answers with
  | nil => cases member
  | executed answered _ ih =>
    rcases List.mem_cons.mp member with rfl | later
    · cases fails
      obtain ⟨n, accepted⟩ := willing.executes _ _ _
      rw [answered] at accepted
      cases accepted
    · exact ih later
  | fetched answered _ ih =>
    rcases List.mem_cons.mp member with rfl | later
    · obtain ⟨rows, accepted, readable⟩ := willing.fetches _ _ _
      rw [answered] at accepted
      cases fails with
      | refused => cases accepted
      | unreadable cell =>
        obtain rfl := Except.ok.inj accepted
        exact readable _ List.mem_cons_self failure cell
    · exact ih later

end SchemaSeed

namespace SchemaSeed.Seed

open SchemaSeed.Sql SchemaSeed.Files SchemaSeed.Factory

section

variable {γ : Type} {e : Engine γ} {c c' : γ} {sent : List Exchange}

/-- A row is only made up if none of its rules is malformed. -/
theorem Gathers.wellFormed {rules : List (String × Rule)} {row : SeedRow}
    (gathers : Gathers e rules c sent (.ok row) c') {cell : String × Rule} (member : cell ∈ rules)
    (given : cell.2.isFake = false) (failure : Failure) : cell.2.customValue ≠ .error failure := by
  generalize made : Except.ok row = result at gathers
  induction gathers generalizing row with
  | nil => cases member
  | failed _ => cases made
  | cons obtains _ ih =>
    rename_i rest _
    cases rest with
    | error failure => cases made
    | ok rest =>
      rcases List.mem_cons.mp member with rfl | later
      · generalize fine : Except.ok _ = value at obtains
        cases obtains with
        | made fake _ =>
          rw [given] at fake
          cases fake
        | literal _ known | nothing _ known | lookedUp _ known _ =>
          rw [known]
          exact nofun
        | malformed _ _ => cases fine
      · exact ih later rfl

private theorem query_of_mem {d : Dialect} {rules : List (String × Rule)} {call : Call}
    (member : call ∈ lookups d rules) : ∃ r : Reference, call = r.query d := by
  obtain ⟨cell, -, found⟩ := List.mem_filterMap.mp member
  obtain ⟨r, -, same⟩ := Option.map_eq_some_iff.mp found
  exact ⟨r, same.symm⟩

/-- How a job fails that has passed its check: the last exchange has failed, or a rule is malformed
and all that was sent is lookups, those of the first row. -/
theorem failed_job_ends {spec : Spec} {factory : Option Factory.Document} {failure : Failure}
    (valid : spec.validate factory = .ok ())
    (tells : (e.run spec factory).Tells c sent (.error failure) c') :
    (∃ before last, sent = before ++ [last] ∧ last.Fails failure) ∨
      (sent.map Exchange.call <+: lookups e.dialect (rulesOf factory) ∧
        ∃ cell ∈ rulesOf factory, cell.2.isFake = false ∧ cell.2.customValue = .error failure) := by
  obtain ⟨turns, c₁, last, done, rfl, ends⟩ := run_tells valid tells
  have later (ended : ∃ before exchange, last = before ++ [exchange] ∧ exchange.Fails failure) :
      ∃ before exchange, turns.flatMap Turn.exchanges ++ last = before ++ [exchange] ∧
        exchange.Fails failure := by
    obtain ⟨before, exchange, rfl, fails⟩ := ended
    exact ⟨_, exchange, (List.append_assoc _ _ _).symm, fails⟩
  generalize failed : Except.error failure = result at ends
  cases ends with
  | closed all closes =>
    rename_i counted
    cases counted <;> cases failed
    exact .inl (later closes.cause)
  | cut _ fails =>
    cases failed
    cases fails with
    | unmade gathers =>
      rcases gathers.cause with ⟨before, exchange, parts, fails, -⟩ | ⟨cell, member, given, malformed⟩
      · exact .inl (later ⟨before, exchange, parts, fails⟩)
      · -- the rule would have stopped the first row already
        cases done with
        | nil => exact .inr ⟨gathers.calls_prefix, cell, member, given, malformed⟩
        | cons built _ _ => exact absurd malformed (built.wellFormed member given failure)
    | unwritten _ delivers =>
      obtain ⟨before, exchange, rfl, fails⟩ := delivers.cause
      exact .inl (later ⟨_, exchange, (List.append_assoc _ _ _).symm, fails⟩)

/-- A malformed job writes nothing: unless an answer is a failure, a job that fails has sent lookups
at most, those of its first row. -/
theorem failed_job_calls {spec : Spec} {factory : Option Factory.Document} {failure : Failure}
    (tells : (e.run spec factory).Tells c sent (.error failure) c')
    (answered : ∀ exchange ∈ sent, ¬ exchange.Fails failure) :
    sent.map Exchange.call <+: lookups e.dialect (rulesOf factory) := by
  cases valid : spec.validate factory with
  | error failure' =>
    unfold Engine.run at tells
    rw [valid] at tells
    obtain ⟨rfl, -, -⟩ := Work.Tells.of_throw tells
    exact List.nil_prefix
  | ok checked =>
    rcases failed_job_ends valid tells with ⟨before, last, rfl, fails⟩ | ⟨started, -⟩
    · exact absurd fails (answered last List.mem_append_cons_self)
    · exact started

end

section

variable {γ : Type} {e : Engine γ} {d : Directories} {tree : Tree} {c c' : γ}

/-- What cannot be listed is no matter of documents. -/
private theorem files_error {target : Option String} {failure : Failure}
    (unlisted : d.files tree target = .error failure) : failure.isMalformed = false := by
  unfold Directories.files at unlisted
  split at unlisted
  · cases unlisted
    rfl
  · split at unlisted
    · cases unlisted
    · split at unlisted
      · cases unlisted
        rfl
      · cases unlisted

/-- A run that ends at a malformed document has done some jobs and stops at the next. On a server
that refuses nothing, all that it has sent for the next job is lookups: it has written nothing for
it, and so nothing at all if that job is the first. What the jobs before have written is not taken
back, and what comes after has not been looked at. -/
theorem malformed_run_calls {τ : Type} {server : Server τ} (willing : server.Willing)
    {target : Option String} {s : τ} {s' : Recorded τ} {failure : Failure}
    (ran : Work.runOn server.recorded (run e d tree target) c ⟨[], s⟩ =
      ((.error failure, c'), s'))
    (malformed : failure.isMalformed = true) :
    ∃ paths specs last before rest done c₁ final,
      d.files tree target = .ok paths ∧ Agenda tree paths specs last ∧ specs = before ++ rest ∧
      Completes e d tree c before done c₁ ∧ Stops e d tree last c₁ rest final failure c' ∧
      s'.calls = (done.flatMap Done.sent).map Exchange.call ++ final.map Exchange.call ∧
      ∀ exchange ∈ final, ∃ r : Reference, exchange.call = r.query e.dialect := by
  obtain ⟨exchanges, r, c₂, s₂, tells, answers, ran', calls⟩ :=
    Work.runOn_recorded server (run e d tree target) c s
  rw [ran] at ran'
  cases ran'
  have spoken : ∀ exchange ∈ exchanges, ¬ exchange.Fails failure := fun exchange member fails => by
    rw [willing.answers answers member fails] at malformed
    cases malformed
  unfold run at tells
  cases listed : d.files tree target with
  | error failure' =>
    rw [listed] at tells
    obtain ⟨-, same, -⟩ := Work.Tells.of_throw tells
    cases same
    rw [files_error listed] at malformed
    cases malformed
  | ok paths =>
    rw [listed, Work.ofResult_ok_bind] at tells
    obtain ⟨specs, last, agenda, ended⟩ := runFiles_tells tells
    rcases ended with ⟨_, _, _, _, _, impossible⟩ |
      ⟨before, rest, done, c₁, final, failure', parts, finished, stops, rfl, same⟩
    · cases impossible
    · cases same
      rw [List.map_append] at calls
      refine ⟨paths, specs, last, before, rest, done, c₁, final, rfl, agenda, parts, finished,
        stops, calls, ?_⟩
      cases stops with
      | unreadable _ | unloadable _ => exact List.forall_mem_nil _
      | failed loads did =>
        have first := failed_job_calls did fun exchange member =>
          spoken exchange (List.mem_append_right _ member)
        exact fun exchange member => query_of_mem (first.subset (List.mem_map_of_mem member))

end

/-- A seeder with two jobs, of which the second is matched by a column that its factory lacks. -/
def sampleSeeders : Tree where
  files :=
    [(["seeders", "a.json"],
        ("\x7b\"seed\": [" ++
          "\x7b\"table\": \"users\", \"factory\": \"user\", \"execution_count\": 1\x7d, " ++
          "\x7b\"table\": \"roles\", \"factory\": \"user\", \"execution_count\": 1, " ++
          "\"createOrUpdate\": \x7b\"matchColumns\": [\"email\"]\x7d\x7d]\x7d").toUTF8),
      (["factory", "user.json"],
        "\x7b\"columns\": [\x7b\"role\": \x7b\"custom\": \"admin\"\x7d\x7d]\x7d".toUTF8)]
  distinct := by decide

/-- A server that accepts everything and has no rows. -/
def acceptingServer : Server Unit :=
  ⟨fun _ _ s => (.ok 1, s), fun _ _ s => (.ok [], s), fun s => (.ok (), s)⟩

theorem acceptingServer_willing : acceptingServer.Willing :=
  ⟨fun _ _ _ => ⟨1, rfl⟩, fun _ _ _ => ⟨[], rfl, List.forall_mem_nil _⟩⟩

/-- Running the seeders of the example. -/
def sampleRun : Work Unit Summary :=
  run ⟨.postgres, fun _ => pure .null⟩ ⟨"seeders", "factory"⟩ sampleSeeders none

private theorem sampleRun_stops :
    (Work.runOn acceptingServer.recorded sampleRun () ⟨[], ()⟩).1.1 =
        .error (.invalidDocument
          "match column 'email' of table 'roles' is not produced by factory 'user'") ∧
      (Work.runOn acceptingServer.recorded sampleRun () ⟨[], ()⟩).2.calls.map Call.sql =
        ["INSERT INTO \"users\" (\"role\") VALUES ('admin')"] := by
  decide +kernel

/-- The second job of the example is rejected after the row of the first has been added, on a server
that refuses nothing. -/
theorem rejected_after_insertion :
    acceptingServer.Willing ∧
      (Work.runOn acceptingServer.recorded sampleRun () ⟨[], ()⟩).1.1 =
        .error (.invalidDocument
          "match column 'email' of table 'roles' is not produced by factory 'user'") ∧
      "INSERT INTO \"users\" (\"role\") VALUES ('admin')" ∈
        (Work.runOn acceptingServer.recorded sampleRun () ⟨[], ()⟩).2.calls.map Call.sql := by
  obtain ⟨stopped, sent⟩ := sampleRun_stops
  exact ⟨acceptingServer_willing, stopped, sent ▸ List.mem_singleton_self _⟩

/-- So that row was asked for by a job that was done: for the rejected one nothing but lookups could
have been sent. -/
theorem insertion_of_done_job :
    acceptingServer.Willing ∧ ∃ e : Engine Unit, ∃ d failure c' s',
      Work.runOn acceptingServer.recorded (run e d sampleSeeders none) () ⟨[], ()⟩ =
        ((.error failure, c'), s') ∧
      failure.isMalformed = true ∧ s'.calls.length = 1 ∧
      ∃ paths specs last before rest done c₁ final,
        d.files sampleSeeders none = .ok paths ∧ Agenda sampleSeeders paths specs last ∧
        specs = before ++ rest ∧ Completes e d sampleSeeders () before done c₁ ∧
        Stops e d sampleSeeders last c₁ rest final failure c' ∧
        s'.calls = (done.flatMap Done.sent).map Exchange.call ++ final.map Exchange.call ∧
        ∀ exchange ∈ final, ∃ r : Reference, exchange.call = r.query e.dialect := by
  obtain ⟨stopped, sent⟩ := sampleRun_stops
  rcases ran : Work.runOn acceptingServer.recorded sampleRun () ⟨[], ()⟩ with ⟨⟨r, c'⟩, s'⟩
  rw [ran] at stopped sent
  obtain rfl : r = _ := stopped
  have one : s'.calls.length = 1 := by
    rw [← List.length_map, sent]
    rfl
  exact ⟨acceptingServer_willing, _, _, _, c', s', ran, rfl, one,
    malformed_run_calls acceptingServer_willing ran rfl⟩

end SchemaSeed.Seed
