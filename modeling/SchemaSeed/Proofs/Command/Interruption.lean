import Mathlib
import SchemaSeed.Proofs.Command.Refusal
import SchemaSeed.Proofs.Server.LostConnection
import SchemaSeed.Server.Trouble

/-!
Runs of the program whose connection is lost. As no command hides a refusal, a run that goes on
calling on a lost connection ends as if the server had refused a statement.
-/

set_option autoImplicit false
set_option relaxedAutoImplicit false

namespace SchemaSeed.Command

open SchemaSeed.Sql SchemaSeed.Files SchemaSeed.Server

namespace Surroundings

variable {σ : Type} (s : Surroundings σ)

/-- Arguments that come to a session with the server: they name a command that needs one, the settings
say where it is, and it lets the run in. -/
inductive Talks (args : List String) (session : Session (Except Failure String)) : Prop
  | mk {i : Invocation} {c : Context} {url : String} (asked : Intent.ofArguments args = .perform i)
      (found : s.context i = .ok c) (online : c.task s.toDesk i.request = .ok (.online session))
      (address : c.url = .ok url) (welcome : s.login c.dialect url = .ok ())

variable {s}

/-- The connection is closed after the session, and a failure of the session decides the exit code. -/
theorem Talks.run {args : List String} {session : Session (Except Failure String)}
    (talks : s.Talks args session) (state : σ) :
    (s.run args state).2 = (s.server.close (session.run s.server state).2).2 ∧
      ∀ failure, (session.run s.server state).1 = .error failure →
        (s.run args state).1.code = (Fault.work failure).exitCode := by
  obtain ⟨asked, found, online, address, welcome⟩ := talks
  unfold Surroundings.run
  cases given : s.lookup with
  | error fault =>
    unfold context at found
    rw [given] at found
    cases found
  | ok lookup =>
    rw [asked]
    dsimp only
    unfold invoke
    rw [found]
    dsimp only
    rw [online]
    dsimp only
    unfold perform
    dsimp only
    rw [address]
    dsimp only
    rw [welcome]
    dsimp only
    cases (session.run s.server state).1 with
    | ok output => exact ⟨rfl, nofun⟩
    | error e =>
      refine ⟨rfl, fun failure same => ?_⟩
      rw [← Except.error.inj same]
      rfl

variable (s)

/-- A run that does not come to a session leaves the server as it is. -/
theorem unchanged_or_talks (args : List String) (state : σ) :
    (s.run args state).2 = state ∨ ∃ session, s.Talks args session := by
  unfold Surroundings.run
  cases s.lookup with
  | error fault => exact .inl rfl
  | ok lookup =>
    cases asked : Intent.ofArguments args with
    | perform i =>
      dsimp only
      unfold invoke
      cases found : s.context i with
      | error fault => exact .inl rfl
      | ok c =>
        dsimp only
        cases online : c.task s.toDesk i.request with
        | error fault => exact .inl rfl
        | ok task =>
          cases task with
          | offline output made => exact .inl rfl
          | online session =>
            dsimp only
            unfold perform
            dsimp only
            cases address : c.url with
            | error fault => exact .inl rfl
            | ok url =>
              dsimp only
              cases welcome : s.login c.dialect url with
              | error e => exact .inl rfl
              | ok => exact .inr ⟨session, .mk asked found online address welcome⟩
    | _ => exact .inl rfl

/-- Whether before or after the loss, a call that fails does so as a refused statement. -/
private theorem refused_of_unheard {r r' : Remote} {heard unheard : List Exchange}
    (first : Remote.Heard r heard r')
    (lost : ∀ e ∈ unheard, e.refusal? = some (Remote.failureOf e Remote.lostConnection))
    {e : Exchange} (gone : e ∈ unheard) : Refused Failure.IsRefusal (heard ++ unheard) := by
  refine ⟨⟨e, List.mem_append_right _ gone, by rw [lost e gone]; nofun⟩, ?_⟩
  intro e member failure found
  rcases List.mem_append.mp member with early | late
  · obtain ⟨reason, rfl⟩ := first.refusals early found
    exact ⟨_, _, rfl⟩
  · rw [lost e late] at found
    exact ⟨_, _, (Option.some.inj found).symm⟩

/-- A run that called on its connection after it was lost ends as if the server had refused a
statement. -/
theorem interrupted_run {s : Surroundings (Recorded Remote)} (wire : s.server = Remote.server.recorded)
    {args : List String} {r : Remote} (opened : r.link = .opened)
    (interrupted : (s.run args ⟨[], r⟩).2.inner.received.length <
      r.received.length + (s.run args ⟨[], r⟩).2.calls.length) :
    (s.run args ⟨[], r⟩).1.code = 1 := by
  rcases s.unchanged_or_talks args ⟨[], r⟩ with same | ⟨session, talks⟩
  · rw [same] at interrupted
    exact absurd interrupted (Nat.lt_irrefl _)
  obtain ⟨left, failed⟩ := talks.run ⟨[], r⟩
  obtain ⟨exchanges, ended, r', tells, answers, noted⟩ :=
    Session.run_tells Remote.server session r []
  rw [wire, noted] at left failed
  have calls : (s.run args ⟨[], r⟩).2.calls = exchanges.map Exchange.call := by
    rw [left]
    unfold Recorded.calls
    change ((exchanges.map Exchange.call).reverse ++ []).reverse = _
    rw [List.append_nil, List.reverse_reverse]
  have got : (s.run args ⟨[], r⟩).2.inner.received = r'.received := by
    rw [left]
    exact Remote.close_received r'
  obtain ⟨heard, unheard, rfl, first, -, lost⟩ := Remote.heard_until_lost opened answers
  rw [calls, got, first.received, List.length_append, List.length_map, List.length_map,
    List.length_append] at interrupted
  -- More calls were noted than arrived, so some of them came after the loss.
  obtain ⟨e, gone⟩ : ∃ e, e ∈ unheard := by
    refine List.exists_mem_of_length_pos ?_
    omega
  obtain ⟨asked, found, online, address, welcome⟩ := talks
  obtain ⟨failure, rfl, reason, statement, rfl⟩ :=
    Context.surfaces_task Failure.isRefusal_lasting online tells (refused_of_unheard first lost gone)
  exact failed _ rfl

end Surroundings

/-- On an open connection the calls reach the server until the connection is lost, and the server's
refusals are failures that carry the statement. Every later call reaches no server and fails in the
same way, with the loss for a reason. A run of the program that goes on calling after the loss ends
with the exit code of a refused statement. -/
theorem lost_connection_told_as_refusal {r : Remote} (opened : r.link = .opened) :
    (∀ exchanges r', Answers Remote.server r exchanges r' →
      ∃ heard unheard, exchanges = heard ++ unheard ∧ Remote.Heard r heard r' ∧
        r'.received = r.received ++ heard.map (Remote.statementOf r.dialect) ∧
        (unheard ≠ [] → r'.link = .lost) ∧
        ∀ e ∈ unheard, e.refusal? = some (Remote.failureOf e Remote.lostConnection)) ∧
    ∀ (s : Surroundings (Recorded Remote)) (args : List String),
      s.server = Remote.server.recorded →
      (s.run args ⟨[], r⟩).2.inner.received.length <
        r.received.length + (s.run args ⟨[], r⟩).2.calls.length →
      (s.run args ⟨[], r⟩).1.code = 1 := by
  refine ⟨?_, fun s args wire interrupted => Surroundings.interrupted_run wire opened interrupted⟩
  intro exchanges r' answers
  obtain ⟨heard, unheard, parts, first, gone, lost⟩ := Remote.heard_until_lost opened answers
  exact ⟨heard, unheard, parts, first, first.received, gone, lost⟩

/-- A server that goes away when the ledger has been made. -/
private def fleeting : Remote where
  dialect := .mysql
  rules := [{ text := "CREATE", answer := { reply := .affected 0, losesConnection := true } }]

/-- The same server when it is gone. -/
private def gone : Remote := (Remote.server.execute "CREATE" [] fleeting).2

private def lostCall : Exchange :=
  .fetched ⟨"SELECT 1", []⟩
    (.error (.statementFailed "Query fetch failed: the connection is lost" (some "SELECT 1")))

private theorem fleeting_answers :
    Answers Remote.server fleeting [.executed ⟨"CREATE", []⟩ (.ok 0), lostCall] gone :=
  .executed rfl (.fetched rfl (.nil _))

/-- A project without migrations, whose database is named as a whole. -/
private def emptyProject : Surroundings (Recorded Remote) where
  files :=
    { files := [], directories := [["database", "migrations", "mysql"]], distinct := List.nodup_nil }
  now := ⟨0, 0⟩
  chance := { key := (⟨0, 0, 0, 0⟩, ⟨0, 0, 0, 0⟩) }
  inherited key :=
    if key = "MYSQL_DATABASE_URL" then some "mysql://root@localhost/app"
    else if key = "RUST_LOG" then some "" else none
  server := Remote.server.recorded
  login _ _ := .ok ()

private theorem emptyProject_context :
    (emptyProject.context { request := .status }).toOption.map
        (fun c => (c.dialect, c.root, c.url.toOption)) =
      some (.mysql, "database", some "mysql://root@localhost/app") := by
  cbv

private def statusSession : Session (Except Failure (List (String × Migration.Status))) :=
  Migration.Collection.status
    ⟨.mysql, Path.join (Path.join "database" "migrations") "mysql", "migrations"⟩ emptyProject.files

private theorem status_ran :
    (statusSession.run Remote.server.recorded ⟨[], fleeting⟩).2.calls.length = 2 ∧
      (statusSession.run Remote.server.recorded ⟨[], fleeting⟩).2.inner.received.length = 1 := by
  decide +kernel

private theorem emptyProject_interrupted :
    (emptyProject.run ["migrate:status"] ⟨[], fleeting⟩).2.calls.length = 2 ∧
      (emptyProject.run ["migrate:status"] ⟨[], fleeting⟩).2.inner.received.length = 1 := by
  obtain ⟨c, found, dialect, root, address⟩ :
      ∃ c, emptyProject.context { request := .status } = .ok c ∧ c.dialect = .mysql ∧
        c.root = "database" ∧ c.url = .ok "mysql://root@localhost/app" := by
    have known := emptyProject_context
    cases found : emptyProject.context { request := .status } with
    | error fault =>
      rw [found] at known
      cases known
    | ok c =>
      rw [found] at known
      obtain ⟨dialect, others⟩ := Prod.mk.inj (Option.some.inj known)
      obtain ⟨root, address⟩ := Prod.mk.inj others
      refine ⟨c, rfl, dialect, root, ?_⟩
      cases reached : c.url with
      | error fault =>
        rw [reached] at address
        cases address
      | ok url =>
        rw [reached] at address
        exact congrArg _ (Option.some.inj address)
  have asked : Intent.ofArguments ["migrate:status"] = .perform { request := .status } := rfl
  have session : c.collection.status emptyProject.files = statusSession := by
    unfold Context.collection Context.migrations
    rw [dialect, root]
    rfl
  obtain ⟨left, -⟩ := Surroundings.Talks.run (.mk asked found rfl address rfl) ⟨[], fleeting⟩
  rw [left, session, Session.run_map]
  obtain ⟨sent, arrived⟩ := status_ran
  refine ⟨sent, ?_⟩
  exact (congrArg List.length (Remote.close_received _)).trans arrived

/-- The server goes away after the first of the two calls that are needed to look at the ledger of a
project. Nothing that is sent after it arrives, and the exit code is that of a refused statement. -/
theorem status_interrupted :
    (∃ heard unheard, [.executed ⟨"CREATE", []⟩ (.ok 0), lostCall] = heard ++ unheard ∧
        Remote.Heard fleeting heard gone ∧ heard.length = 1) ∧
      (emptyProject.run ["migrate:status"] ⟨[], fleeting⟩).1.code = 1 := by
  obtain ⟨accounted, coded⟩ := lost_connection_told_as_refusal (r := fleeting) rfl
  constructor
  · obtain ⟨heard, unheard, parts, first, got, -⟩ := accounted _ _ fleeting_answers
    refine ⟨heard, unheard, parts, first, ?_⟩
    have one : gone.received.length = 1 := rfl
    rw [got, List.length_append, List.length_map] at one
    exact (Nat.zero_add heard.length).symm.trans one
  · refine coded emptyProject ["migrate:status"] rfl ?_
    obtain ⟨sent, arrived⟩ := emptyProject_interrupted
    rw [sent, arrived]
    decide

/-- A call on a connection that is lost does not fail as one that has no server, though the trouble
of a wire that carries nothing is classified so, and has another exit code. -/
theorem lost_call_without_connection_failure :
    (¬ ∀ (r r₁ r' : Remote) (before after : List Exchange), r.link = .opened →
        Answers Remote.server r before r₁ → r₁.link = .lost → Answers Remote.server r₁ after r' →
        ∀ e ∈ after, ∃ reason, e.refusal? = some (.connectionUnavailable reason)) ∧
      (Fault.work (Trouble.wire.failure Remote.lostConnection)).exitCode = 3 := by
  refine ⟨fun claimed => ?_, rfl⟩
  obtain ⟨reason, told⟩ := claimed fleeting gone gone [.executed ⟨"CREATE", []⟩ (.ok 0)] [lostCall]
    rfl (.executed rfl (.nil _)) rfl (.fetched rfl (.nil _)) lostCall (List.mem_singleton_self _)
  cases told

end SchemaSeed.Command
