import Mathlib
import SchemaSeed.Sql.Session

/-!
Work against a server, one piece after the other: what the first piece answers decides whether the
next one is met at all, and both the state that the work carries and the server go on from where the
first piece left them.
-/

set_option autoImplicit false
set_option relaxedAutoImplicit false

namespace SchemaSeed.Sql

variable {α β σ τ : Type}

/-- A session whose value is changed at the end runs as before. -/
theorem Session.run_map (server : Server τ) (f : α → β) (x : Session α) (s : τ) :
    (f <$> x).run server s = (f (x.run server s).1, (x.run server s).2) := by
  rw [← bind_pure_comp, Session.run_bind]
  rfl

/-- A statement of which a note is taken is answered as before. -/
theorem Server.recorded_execute {server : Server τ} {sql : String} {params : List Value}
    {s s' : τ} {answer : Except Failure Nat} (answered : server.execute sql params s = (answer, s'))
    (reversed : List Call) :
    server.recorded.execute sql params ⟨reversed, s⟩ =
      (answer, ⟨⟨sql, params⟩ :: reversed, s'⟩) := by
  simp only [Server.recorded, answered]

/-- A query of which a note is taken is answered as before. -/
theorem Server.recorded_fetch {server : Server τ} {sql : String} {params : List Value}
    {s s' : τ} {answer : Except Failure (List Row)}
    (answered : server.fetch sql params s = (answer, s')) (reversed : List Call) :
    server.recorded.fetch sql params ⟨reversed, s⟩ =
      (answer, ⟨⟨sql, params⟩ :: reversed, s'⟩) := by
  simp only [Server.recorded, answered]

private theorem run_seq (server : Server τ) (x : Session α) (f : α → Session β) (s : τ) :
    (Session.bind x f).run server s = (f (x.run server s).1).run server (x.run server s).2 :=
  Session.run_bind server x f s

namespace Work

/-- What comes of work that starts with some state of its own and meets a server in some state. -/
def runOn (server : Server τ) (work : Work σ α) (c : σ) (s : τ) : (Except Failure α × σ) × τ :=
  (work.session c).run server s

section

variable (server : Server τ) (c : σ) (s : τ)

@[simp] theorem runOn_pure (a : α) : runOn server (pure a : Work σ α) c s = ((.ok a, c), s) := rfl

@[simp] theorem runOn_throw (e : Failure) :
    runOn server (throw e : Work σ α) c s = ((.error e, c), s) := rfl

@[simp] theorem runOn_ofResult (r : Except Failure α) :
    runOn server (ofResult r : Work σ α) c s = ((r, c), s) := rfl

@[simp] theorem runOn_get : runOn server (get : Work σ σ) c s = ((.ok c, c), s) := rfl

@[simp] theorem runOn_modify (f : σ → σ) :
    runOn server (modify f : Work σ PUnit) c s = ((.ok ⟨⟩, f c), s) := rfl

@[simp] theorem runOn_execute (sql : String) (params : List Value) :
    runOn server (execute sql params : Work σ Nat) c s =
      (((server.execute sql params s).1, c), (server.execute sql params s).2) := rfl

@[simp] theorem runOn_fetch (sql : String) (params : List Value) :
    runOn server (fetch sql params : Work σ (List Row)) c s =
      (((server.fetch sql params s).1, c), (server.fetch sql params s).2) := rfl

end

/-- Work goes on with a value that is there already. -/
theorem ofResult_ok_bind (a : α) (f : α → Work σ β) : ofResult (.ok a) >>= f = f a := rfl

/-- Two pieces of work run one after the other; a failure of the first is the outcome of both. -/
theorem runOn_bind (server : Server τ) (x : Work σ α) (f : α → Work σ β) (c : σ) (s : τ) :
    runOn server (x >>= f) c s =
      match runOn server x c s with
      | ((.ok a, c'), s') => runOn server (f a) c' s'
      | ((.error e, c'), s') => ((.error e, c'), s') := by
  change Session.run server (Session.bind (x c) fun r => (ExceptT.bindCont f r.1) r.2) s = _
  rw [run_seq]
  unfold runOn session
  rcases Session.run server (x c) s with ⟨⟨r, c'⟩, s'⟩
  cases r with
  | ok a => rfl
  | error e => rfl

section

variable {server : Server τ} {c c' : σ} {s s' : τ}

/-- After a success the second piece goes on from where the first one ended. -/
theorem runOn_bind_ok {x : Work σ α} {a : α} (first : runOn server x c s = ((.ok a, c'), s'))
    (f : α → Work σ β) : runOn server (x >>= f) c s = runOn server (f a) c' s' := by
  rw [runOn_bind, first]

/-- After a failure the second piece is not met. -/
theorem runOn_bind_error {x : Work σ α} {e : Failure}
    (first : runOn server x c s = ((.error e, c'), s')) (f : α → Work σ β) :
    runOn server (x >>= f) c s = ((.error e, c'), s') := by
  rw [runOn_bind, first]

/-- What two pieces of work did: the first one failed, or the second one went on from it. -/
theorem runOn_bind_cases {x : Work σ α} {f : α → Work σ β} {r : Except Failure β}
    (ran : runOn server (x >>= f) c s = ((r, c'), s')) :
    (∃ e, runOn server x c s = ((.error e, c'), s') ∧ r = .error e) ∨
      ∃ a c₁ s₁, runOn server x c s = ((.ok a, c₁), s₁) ∧
        runOn server (f a) c₁ s₁ = ((r, c'), s') := by
  rcases first : runOn server x c s with ⟨⟨answer, c₁⟩, s₁⟩
  cases answer with
  | error e =>
    rw [runOn_bind_error first] at ran
    obtain ⟨⟨rfl, rfl⟩, rfl⟩ : (.error e = r ∧ c₁ = c') ∧ s₁ = s' := by simpa using ran
    exact .inl ⟨e, rfl, rfl⟩
  | ok a =>
    rw [runOn_bind_ok first] at ran
    exact .inr ⟨a, c₁, s₁, rfl, ran⟩

/-- Work whose value is changed in the end. -/
theorem of_runOn_map {x : Work σ α} {f : α → β} {r : Except Failure β}
    (ran : runOn server (do return f (← x)) c s = ((r, c'), s')) :
    ∃ r', runOn server x c s = ((r', c'), s') ∧ r = r'.map f := by
  rcases runOn_bind_cases ran with ⟨e, failed, rfl⟩ | ⟨a, c₁, s₁, done, ran⟩
  · exact ⟨.error e, failed, rfl⟩
  · obtain ⟨⟨rfl, rfl⟩, rfl⟩ : (.ok (f a) = r ∧ c₁ = c') ∧ s₁ = s' := by simpa using ran
    exact ⟨.ok a, done, rfl⟩

/-- A statement that is sent is answered by the server; the memory stays. -/
theorem of_runOn_execute {sql : String} {params : List Value} {r : Except Failure Nat}
    (ran : runOn server (execute sql params : Work σ Nat) c s = ((r, c'), s')) :
    server.execute sql params s = (r, s') ∧ c = c' := by
  rw [runOn_execute] at ran
  obtain ⟨⟨answer, rfl⟩, after⟩ :
      ((server.execute sql params s).1 = r ∧ c = c') ∧ (server.execute sql params s).2 = s' := by
    simpa using ran
  exact ⟨Prod.ext answer after, rfl⟩

/-- An attempt ends as the work does, and never fails. -/
theorem runOn_attempt {x : Work σ α} {r : Except Failure α}
    (first : runOn server x c s = ((r, c'), s')) :
    runOn server x.attempt c s = ((.ok r, c'), s') := by
  change Session.run server (Session.bind (x c) fun p => Session.done (Except.ok p.1, p.2)) s = _
  unfold runOn session at first
  rw [run_seq, first]
  rfl

end

/-- Work that takes a server from each state to one that stands in some relation to it, whatever the
work carries along and whether or not it succeeds. -/
def Steps (server : Server τ) (R : τ → τ → Prop) (work : Work σ α) : Prop :=
  ∀ ⦃c c' : σ⦄ ⦃s s' : τ⦄ ⦃r : Except Failure α⦄,
    runOn server work c s = ((r, c'), s') → R s s'

section

variable {server : Server τ} {R : τ → τ → Prop}

theorem steps_pure [Std.Refl R] (a : α) : Steps server R (pure a : Work σ α) := by
  intro c c' s s' r ran
  obtain ⟨-, rfl⟩ : (.ok a = r ∧ c = c') ∧ s = s' := by simpa using ran
  exact Std.Refl.refl s

theorem steps_get [Std.Refl R] : Steps server R (get : Work σ σ) := by
  intro c c' s s' r ran
  obtain ⟨-, rfl⟩ : (.ok c = r ∧ c = c') ∧ s = s' := by simpa using ran
  exact Std.Refl.refl s

theorem steps_modify [Std.Refl R] (f : σ → σ) : Steps server R (modify f : Work σ PUnit) := by
  intro c c' s s' r ran
  obtain ⟨-, rfl⟩ : (.ok ⟨⟩ = r ∧ f c = c') ∧ s = s' := by simpa using ran
  exact Std.Refl.refl s

theorem steps_ofResult [Std.Refl R] (result : Except Failure α) :
    Steps server R (ofResult result : Work σ α) := by
  intro c c' s s' r ran
  obtain ⟨-, rfl⟩ : (result = r ∧ c = c') ∧ s = s' := by simpa using ran
  exact Std.Refl.refl s

theorem steps_execute {sql : String} {params : List Value}
    (step : ∀ s, R s (server.execute sql params s).2) :
    Steps server R (execute sql params : Work σ Nat) := by
  intro c c' s s' r ran
  obtain ⟨answered, -⟩ := of_runOn_execute ran
  have next := step s
  rw [answered] at next
  exact next

theorem steps_fetch {sql : String} {params : List Value}
    (step : ∀ s, R s (server.fetch sql params s).2) :
    Steps server R (fetch sql params : Work σ (List Row)) := by
  intro c c' s s' r ran
  obtain ⟨-, rfl⟩ :
      ((server.fetch sql params s).1 = r ∧ c = c') ∧ (server.fetch sql params s).2 = s' := by
    simpa using ran
  exact step s

theorem steps_bind [IsTrans τ R] {x : Work σ α} {k : α → Work σ β} (first : Steps server R x)
    (second : ∀ a, Steps server R (k a)) : Steps server R (x >>= k) := by
  intro c c' s s' r ran
  rcases runOn_bind_cases ran with ⟨e, failed, rfl⟩ | ⟨a, c₁, s₁, done, ran⟩
  · exact first failed
  · exact IsTrans.trans _ _ _ (first done) (second a ran)

end

/-- The value of the session of some work. -/
theorem run_fst_session (server : Server τ) (work : Work σ α) (c : σ) (s : τ) :
    (Prod.fst <$> work.session c).run server s =
      ((runOn server work c s).1.1, (runOn server work c s).2) :=
  Session.run_map server Prod.fst (work.session c) s

end Work

end SchemaSeed.Sql
