import Mathlib
import SchemaSeed.Proofs.Sql.Running

/-!
What a session says, for all answers at once. A session can be told by the exchanges it may have:
each call together with any answer to it, and the value that comes in the end. A server picks one of
these tales by its answers.
-/

set_option autoImplicit false
set_option relaxedAutoImplicit false

namespace SchemaSeed.Sql

/-- A call with the answer to it. -/
inductive Exchange where
  | executed (call : Call) (answer : Except Failure Nat)
  | fetched (call : Call) (answer : Except Failure (List Row))

/-- The call of an exchange. -/
def Exchange.call : Exchange → Call
  | executed call _ => call
  | fetched call _ => call

/-- An answer that is a failure: the call was refused, or the first cell of the first row cannot be
read. -/
inductive Exchange.Fails (failure : Failure) : Exchange → Prop
  | rejected {call : Call} : Fails failure (.executed call (.error failure))
  | refused {call : Call} : Fails failure (.fetched call (.error failure))
  | unreadable {call : Call} {row : Row} {rows : List Row} :
      row.byIndex 0 = .error failure → Fails failure (.fetched call (.ok (row :: rows)))

/-- Whether a call was accepted. -/
def Exchange.accepted : Exchange → Bool
  | executed _ answer => answer.isOk
  | fetched _ answer => answer.isOk

/-- Some calls were sent, one after the other, and every one was accepted. -/
def Granted (calls : List Call) (exchanges : List Exchange) : Prop :=
  exchanges.map Exchange.call = calls ∧ ∀ e ∈ exchanges, e.accepted = true

theorem Granted.nil : Granted [] [] := ⟨rfl, List.forall_mem_nil _⟩

theorem Granted.single (call : Call) (n : Nat) : Granted [call] [.executed call (.ok n)] :=
  ⟨rfl, by simp [Exchange.accepted, Except.isOk, Except.toBool]⟩

theorem Granted.append {calls later : List Call} {exchanges others : List Exchange}
    (first : Granted calls exchanges) (second : Granted later others) :
    Granted (calls ++ later) (exchanges ++ others) :=
  ⟨by rw [List.map_append, first.1, second.1], List.forall_mem_append.mpr ⟨first.2, second.2⟩⟩

/-- A session may have some exchanges and end with a value. -/
inductive Session.Tells {α : Type} : Session α → List Exchange → α → Prop
  | done (a : α) : Tells (.done a) [] a
  | execute {sql : String} {params : List Value} {next : Except Failure Nat → Session α}
      {answer : Except Failure Nat} {exchanges : List Exchange} {a : α} :
      Tells (next answer) exchanges a →
        Tells (.execute sql params next) (.executed ⟨sql, params⟩ answer :: exchanges) a
  | fetch {sql : String} {params : List Value} {next : Except Failure (List Row) → Session α}
      {answer : Except Failure (List Row)} {exchanges : List Exchange} {a : α} :
      Tells (next answer) exchanges a →
        Tells (.fetch sql params next) (.fetched ⟨sql, params⟩ answer :: exchanges) a

/-- A server gives these answers, one after the other. -/
inductive Answers {τ : Type} (server : Server τ) : τ → List Exchange → τ → Prop
  | nil (s : τ) : Answers server s [] s
  | executed {s s₁ s' : τ} {call : Call} {answer : Except Failure Nat}
      {exchanges : List Exchange} :
      server.execute call.sql call.params s = (answer, s₁) → Answers server s₁ exchanges s' →
        Answers server s (.executed call answer :: exchanges) s'
  | fetched {s s₁ s' : τ} {call : Call} {answer : Except Failure (List Row)}
      {exchanges : List Exchange} :
      server.fetch call.sql call.params s = (answer, s₁) → Answers server s₁ exchanges s' →
        Answers server s (.fetched call answer :: exchanges) s'

section

variable {α β σ τ : Type}

/-- What two sessions say is said one after the other. -/
theorem Session.Tells.of_bind {x : Session α} {f : α → Session β} {exchanges : List Exchange} {b : β}
    (tells : (Session.bind x f).Tells exchanges b) :
    ∃ first a second, exchanges = first ++ second ∧ x.Tells first a ∧ (f a).Tells second b := by
  induction x generalizing exchanges with
  | done a => exact ⟨[], a, exchanges, rfl, .done a, tells⟩
  | execute sql params next ih =>
    cases tells with
    | execute rest =>
      obtain ⟨first, a, second, rfl, one, two⟩ := ih _ rest
      exact ⟨_, a, second, rfl, .execute one, two⟩
  | fetch sql params next ih =>
    cases tells with
    | fetch rest =>
      obtain ⟨first, a, second, rfl, one, two⟩ := ih _ rest
      exact ⟨_, a, second, rfl, .fetch one, two⟩

/-- A session whose value is changed at the end says what it said before. -/
theorem Session.Tells.of_map {x : Session α} {f : α → β} {exchanges : List Exchange} {b : β}
    (tells : (f <$> x).Tells exchanges b) : ∃ a, x.Tells exchanges a ∧ b = f a := by
  rw [← bind_pure_comp] at tells
  obtain ⟨first, a, second, rfl, one, two⟩ := Session.Tells.of_bind tells
  cases two
  rw [List.append_nil]
  exact ⟨a, one, rfl⟩

/-- A run against a server is one of the things that a session may say; noting the calls notes those
of its exchanges. -/
theorem Session.run_tells (server : Server τ) (x : Session α) (s : τ) (reversed : List Call) :
    ∃ exchanges a s', x.Tells exchanges a ∧ Answers server s exchanges s' ∧
      x.run server.recorded ⟨reversed, s⟩ =
        (a, ⟨(exchanges.map Exchange.call).reverse ++ reversed, s'⟩) := by
  induction x generalizing s reversed with
  | done a => exact ⟨[], a, s, .done a, .nil s, rfl⟩
  | execute sql params next ih =>
    rcases answered : server.execute sql params s with ⟨answer, s₁⟩
    obtain ⟨exchanges, a, s', tells, answers, noted⟩ :=
      ih answer s₁ (⟨sql, params⟩ :: reversed)
    refine ⟨_, a, s', .execute tells, .executed answered answers, ?_⟩
    rw [Session.run, Server.recorded_execute answered, List.map_cons, List.reverse_cons,
      List.append_assoc]
    exact noted
  | fetch sql params next ih =>
    rcases answered : server.fetch sql params s with ⟨answer, s₁⟩
    obtain ⟨exchanges, a, s', tells, answers, noted⟩ :=
      ih answer s₁ (⟨sql, params⟩ :: reversed)
    refine ⟨_, a, s', .fetch tells, .fetched answered answers, ?_⟩
    rw [Session.run, Server.recorded_fetch answered, List.map_cons, List.reverse_cons,
      List.append_assoc]
    exact noted

namespace Work

/-- Work that starts with some state of its own may have some exchanges, and end with an outcome and
a state. -/
def Tells (work : Work σ α) (c : σ) (exchanges : List Exchange) (r : Except Failure α) (c' : σ) :
    Prop :=
  (work.session c).Tells exchanges (r, c')

/-- What work says when it is run against a server that notes its calls. -/
theorem runOn_recorded (server : Server τ) (work : Work σ α) (c : σ) (s : τ) :
    ∃ exchanges r c' s', work.Tells c exchanges r c' ∧ Answers server s exchanges s'.inner ∧
      runOn server.recorded work c ⟨[], s⟩ = ((r, c'), s') ∧
      s'.calls = exchanges.map Exchange.call := by
  obtain ⟨exchanges, ⟨r, c'⟩, s', tells, answers, noted⟩ :=
    Session.run_tells server (work.session c) s []
  refine ⟨exchanges, r, c', _, tells, answers, noted, ?_⟩
  unfold Recorded.calls
  rw [List.append_nil, List.reverse_reverse]

/-- What was said in a run whose end is known. -/
theorem of_runOn_recorded {server : Server τ} {work : Work σ α} {c c' : σ} {s : τ}
    {s' : Recorded τ} {r : Except Failure α}
    (ran : runOn server.recorded work c ⟨[], s⟩ = ((r, c'), s')) :
    ∃ exchanges, work.Tells c exchanges r c' ∧ Answers server s exchanges s'.inner ∧
      s'.calls = exchanges.map Exchange.call := by
  obtain ⟨exchanges, r', c'', s'', tells, answers, ran', calls⟩ := runOn_recorded server work c s
  rw [ran] at ran'
  cases ran'
  exact ⟨exchanges, tells, answers, calls⟩

/-- What was said in a run of which no notes were taken. -/
theorem of_runOn {server : Server τ} {work : Work σ α} {c c' : σ} {s s' : τ} {r : Except Failure α}
    (ran : runOn server work c s = ((r, c'), s')) :
    ∃ exchanges, work.Tells c exchanges r c' ∧ Answers server s exchanges s' := by
  obtain ⟨value, inner⟩ := Session.run_recorded server (work.session c) ⟨[], s⟩
  rcases noted : runOn server.recorded work c ⟨[], s⟩ with ⟨⟨r', c''⟩, s''⟩
  obtain ⟨exchanges, tells, answers, -⟩ := of_runOn_recorded noted
  unfold runOn at ran noted
  rw [noted, ran] at value inner
  obtain ⟨rfl, rfl⟩ := Prod.mk.inj value
  rw [← show s''.inner = s' from inner]
  exact ⟨exchanges, tells, answers⟩

section

variable {c c' : σ} {exchanges : List Exchange}

theorem Tells.of_ofResult {result r : Except Failure α}
    (tells : (ofResult result : Work σ α).Tells c exchanges r c') :
    exchanges = [] ∧ r = result ∧ c' = c := by
  cases tells
  exact ⟨rfl, rfl, rfl⟩

theorem Tells.of_pure {a : α} {r : Except Failure α}
    (tells : (pure a : Work σ α).Tells c exchanges r c') : exchanges = [] ∧ r = .ok a ∧ c' = c :=
  @Tells.of_ofResult _ _ c c' exchanges (.ok a) r tells

theorem Tells.of_throw {e : Failure} {r : Except Failure α}
    (tells : (throw e : Work σ α).Tells c exchanges r c') :
    exchanges = [] ∧ r = .error e ∧ c' = c :=
  @Tells.of_ofResult _ _ c c' exchanges (.error e) r tells

theorem Tells.of_get {r : Except Failure σ} (tells : (get : Work σ σ).Tells c exchanges r c') :
    exchanges = [] ∧ r = .ok c ∧ c' = c := by
  cases tells
  exact ⟨rfl, rfl, rfl⟩

theorem Tells.of_modify {f : σ → σ} {r : Except Failure PUnit}
    (tells : (modify f : Work σ PUnit).Tells c exchanges r c') :
    exchanges = [] ∧ r = .ok ⟨⟩ ∧ c' = f c := by
  cases tells
  exact ⟨rfl, rfl, rfl⟩

theorem Tells.of_execute {sql : String} {params : List Value} {r : Except Failure Nat}
    (tells : (execute sql params : Work σ Nat).Tells c exchanges r c') :
    exchanges = [.executed ⟨sql, params⟩ r] ∧ c' = c := by
  cases tells with
  | execute rest =>
    cases rest
    exact ⟨rfl, rfl⟩

theorem Tells.of_fetch {sql : String} {params : List Value} {r : Except Failure (List Row)}
    (tells : (fetch sql params : Work σ (List Row)).Tells c exchanges r c') :
    exchanges = [.fetched ⟨sql, params⟩ r] ∧ c' = c := by
  cases tells with
  | fetch rest =>
    cases rest
    exact ⟨rfl, rfl⟩

/-- Two pieces of work: the first one fails, or the second one speaks after it. -/
theorem Tells.of_bind {x : Work σ α} {f : α → Work σ β} {r : Except Failure β}
    (tells : (x >>= f).Tells c exchanges r c') :
    (∃ e, x.Tells c exchanges (.error e) c' ∧ r = .error e) ∨
      ∃ first a c₁ second, exchanges = first ++ second ∧ x.Tells c first (.ok a) c₁ ∧
        (f a).Tells c₁ second r c' := by
  change (Session.bind (x.session c) fun p => (ExceptT.bindCont f p.1) p.2).Tells
    exchanges (r, c') at tells
  obtain ⟨first, ⟨a, c₁⟩, second, rfl, one, two⟩ := tells.of_bind
  cases a with
  | ok a => exact .inr ⟨first, a, c₁, second, rfl, one, two⟩
  | error e =>
    obtain ⟨rfl, rfl, rfl⟩ := @Tells.of_throw _ _ c₁ c' second e r two
    rw [List.append_nil]
    exact .inl ⟨e, one, rfl⟩

/-- Work whose value is changed in the end. -/
theorem Tells.of_map {x : Work σ α} {f : α → β} {r : Except Failure β}
    (tells : Work.Tells (do return f (← x)) c exchanges r c') :
    ∃ r', x.Tells c exchanges r' c' ∧ r = r'.map f := by
  rcases tells.of_bind with ⟨e, failed, rfl⟩ | ⟨first, a, c₁, second, rfl, done, rest⟩
  · exact ⟨.error e, failed, rfl⟩
  · obtain ⟨rfl, rfl, rfl⟩ := Work.Tells.of_pure rest
    rw [List.append_nil]
    exact ⟨.ok a, done, rfl⟩

theorem Tells.of_attempt {x : Work σ α} {r : Except Failure (Except Failure α)}
    (tells : x.attempt.Tells c exchanges r c') :
    ∃ outcome, x.Tells c exchanges outcome c' ∧ r = .ok outcome := by
  change (Session.bind (x.session c) fun p => Session.done (Except.ok p.1, p.2)).Tells
    exchanges (r, c') at tells
  obtain ⟨first, ⟨outcome, c₁⟩, second, rfl, one, two⟩ := tells.of_bind
  cases two
  rw [List.append_nil]
  exact ⟨outcome, one, rfl⟩

end

/-- Work that has exchanges of one kind only, whatever the answers are. -/
def Utters (P : Exchange → Prop) (work : Work σ α) : Prop :=
  ∀ ⦃c c' : σ⦄ ⦃exchanges : List Exchange⦄ ⦃r : Except Failure α⦄,
    work.Tells c exchanges r c' → ∀ e ∈ exchanges, P e

section

variable {P : Exchange → Prop}

theorem utters_ofResult (result : Except Failure α) : Utters P (ofResult result : Work σ α) := by
  intro c c' exchanges r tells
  obtain ⟨rfl, -⟩ := tells.of_ofResult
  exact List.forall_mem_nil P

theorem utters_pure (a : α) : Utters P (pure a : Work σ α) := utters_ofResult (.ok a)

theorem utters_get : Utters P (get : Work σ σ) := by
  intro c c' exchanges r tells
  obtain ⟨rfl, -⟩ := tells.of_get
  exact List.forall_mem_nil P

theorem utters_modify (f : σ → σ) : Utters P (modify f : Work σ PUnit) := by
  intro c c' exchanges r tells
  obtain ⟨rfl, -⟩ := tells.of_modify
  exact List.forall_mem_nil P

theorem utters_execute {sql : String} {params : List Value}
    (one : ∀ answer, P (.executed ⟨sql, params⟩ answer)) :
    Utters P (execute sql params : Work σ Nat) := by
  intro c c' exchanges r tells
  obtain ⟨rfl, -⟩ := tells.of_execute
  exact List.forall_mem_singleton.mpr (one r)

theorem utters_fetch {sql : String} {params : List Value}
    (one : ∀ answer, P (.fetched ⟨sql, params⟩ answer)) :
    Utters P (fetch sql params : Work σ (List Row)) := by
  intro c c' exchanges r tells
  obtain ⟨rfl, -⟩ := tells.of_fetch
  exact List.forall_mem_singleton.mpr (one r)

theorem utters_bind {x : Work σ α} {k : α → Work σ β} (first : Utters P x)
    (second : ∀ a, Utters P (k a)) : Utters P (x >>= k) := by
  intro c c' exchanges r tells
  rcases tells.of_bind with ⟨e, failed, -⟩ | ⟨one, a, c₁, two, rfl, done, later⟩
  · exact first failed
  · exact List.forall_mem_append.mpr ⟨first done, second a later⟩

end

end Work

end

end SchemaSeed.Sql
