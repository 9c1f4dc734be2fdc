import SchemaSeed.Sql.Row

/-!
Work on a connection as a value.

A `Session` is a tree of statements: at each, what comes next depends on the answer. It holds no
connection, so that one and the same session can be run against any `Server`, and what it sends can
be studied for all answers at once. Refusals are answers too.
-/

set_option autoImplicit false
set_option relaxedAutoImplicit false

namespace SchemaSeed.Sql

/-- A conversation with a server that ends with a value. -/
inductive Session (α : Type) where
  | done (value : α)
  /-- A statement that is answered with the number of affected rows. -/
  | execute (sql : String) (params : List Value) (next : Except Failure Nat → Session α)
  /-- A query that is answered with rows. -/
  | fetch (sql : String) (params : List Value) (next : Except Failure (List Row) → Session α)

namespace Session

variable {α β σ : Type}

/-- Goes on with a second session when the first is done. -/
def bind : Session α → (α → Session β) → Session β
  | done a, f => f a
  | execute sql params next, f => execute sql params fun r => bind (next r) f
  | fetch sql params next, f => fetch sql params fun r => bind (next r) f

instance : Monad Session where
  pure := done
  bind := bind

/-- Ending with the value that a session ends with changes nothing. -/
theorem bind_done (x : Session α) : bind x done = x := by
  induction x with
  | done a => rfl
  | execute sql params next ih => simp only [bind, ih]
  | fetch sql params next ih => simp only [bind, ih]

/-- It does not matter how sessions that follow each other are grouped. -/
theorem bind_bind {γ : Type} (x : Session α) (f : α → Session β) (g : β → Session γ) :
    bind (bind x f) g = bind x fun a => bind (f a) g := by
  induction x with
  | done a => rfl
  | execute sql params next ih => simp only [bind, ih]
  | fetch sql params next ih => simp only [bind, ih]

instance : LawfulMonad Session :=
  LawfulMonad.mk' Session bind_done (fun _ _ => rfl) bind_bind

end Session

/-- A party that answers statements, with a state of its own. -/
structure Server (σ : Type) where
  execute : String → List Value → σ → Except Failure Nat × σ
  fetch : String → List Value → σ → Except Failure (List Row) × σ
  close : σ → Except Failure Unit × σ

/-- Runs a session against a server. -/
def Session.run {α σ : Type} (server : Server σ) : Session α → σ → α × σ
  | done a, s => (a, s)
  | execute sql params next, s =>
    let (answer, s') := server.execute sql params s
    run server (next answer) s'
  | fetch sql params next, s =>
    let (answer, s') := server.fetch sql params s
    run server (next answer) s'

/-- A session in two parts is run part by part. -/
theorem Session.run_bind {α β σ : Type} (server : Server σ) (x : Session α) (f : α → Session β)
    (s : σ) : (x >>= f).run server s = (f (x.run server s).1).run server (x.run server s).2 := by
  change (Session.bind x f).run server s = _
  induction x generalizing s with
  | done a => rfl
  | execute sql params next ih => exact ih _ _
  | fetch sql params next ih => exact ih _ _

/-- A session that may fail and that carries a state of its own, which outlives a failure. -/
abbrev Work (σ : Type) := ExceptT Failure (StateT σ Session)

namespace Work

variable {α σ : Type}

/-- Work from what it does to a state. -/
def ofStep (step : σ → Session (Except Failure α × σ)) : Work σ α := step

/-- Sends a statement. -/
def execute (sql : String) (params : List Value) : Work σ Nat :=
  ofStep fun s => .execute sql params fun answer => .done (answer, s)

/-- Sends a query. -/
def fetch (sql : String) (params : List Value) : Work σ (List Row) :=
  ofStep fun s => .fetch sql params fun answer => .done (answer, s)

/-- Goes on with the value, or ends with the failure. -/
def ofResult (result : Except Failure α) : Work σ α := ofStep fun s => .done (result, s)

/-- Work, with its outcome as a value: a failure does not end what follows. -/
def attempt (work : Work σ α) : Work σ (Except Failure α) :=
  ofStep fun s => Session.bind (work s) fun r => .done (.ok r.1, r.2)

/-- The session of some work that starts in a state. -/
def session (work : Work σ α) (start : σ) : Session (Except Failure α × σ) := work start

end Work

/-- A statement with its parameters, as it was sent. -/
structure Call where
  sql : String
  params : List Value

/-- The state of a server together with the calls it got, the latest first. -/
structure Recorded (σ : Type) where
  reversed : List Call := []
  inner : σ

/-- The calls in the order in which they came. -/
def Recorded.calls {σ : Type} (r : Recorded σ) : List Call := r.reversed.reverse

/-- A server that notes every call, the refused ones included. -/
def Server.recorded {σ : Type} (server : Server σ) : Server (Recorded σ) where
  execute sql params s :=
    let (answer, inner) := server.execute sql params s.inner
    (answer, ⟨⟨sql, params⟩ :: s.reversed, inner⟩)
  fetch sql params s :=
    let (answer, inner) := server.fetch sql params s.inner
    (answer, ⟨⟨sql, params⟩ :: s.reversed, inner⟩)
  close s :=
    let (answer, inner) := server.close s.inner
    (answer, ⟨s.reversed, inner⟩)

/-- Noting the calls changes neither the value of a session nor what becomes of the server. -/
theorem Session.run_recorded {α σ : Type} (server : Server σ) (x : Session α) (s : Recorded σ) :
    (x.run server.recorded s).1 = (x.run server s.inner).1 ∧
      (x.run server.recorded s).2.inner = (x.run server s.inner).2 := by
  induction x generalizing s with
  | done a => exact ⟨rfl, rfl⟩
  | execute sql params next ih => exact ih _ _
  | fetch sql params next ih => exact ih _ _

end SchemaSeed.Sql
