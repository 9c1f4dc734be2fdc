import Mathlib
import SchemaSeed.Proofs.Sql.Exchange

/-!
Work that does not hide a refusal: if calls are refused with failures of one kind, the work ends with
a failure of that kind, whatever else is answered.
-/

set_option autoImplicit false
set_option relaxedAutoImplicit false

namespace SchemaSeed.Sql

/-- The failure with which a call was refused. -/
def Exchange.refusal? : Exchange → Option Failure
  | executed _ (.error failure) => some failure
  | fetched _ (.error failure) => some failure
  | _ => none

theorem Exchange.refusal?_of_accepted {e : Exchange} (accepted : e.accepted = true) :
    e.refusal? = none := by
  rcases e with ⟨call, _ | _⟩ | ⟨call, _ | _⟩
  · cases accepted
  · rfl
  · cases accepted
  · rfl

/-- Some call was refused, and all that were so were refused with failures of one kind. -/
def Refused (F : Failure → Prop) (exchanges : List Exchange) : Prop :=
  (∃ e ∈ exchanges, e.refusal? ≠ none) ∧
    ∀ e ∈ exchanges, ∀ failure, e.refusal? = some failure → F failure

section

variable {F : Failure → Prop}

theorem not_refused_nil : ¬ Refused F [] := by
  rintro ⟨⟨e, member, -⟩, -⟩
  cases member

/-- Where all calls were accepted none was refused. -/
theorem Granted.not_refused {calls : List Call} {exchanges : List Exchange}
    (granted : Granted calls exchanges) : ¬ Refused F exchanges := by
  rintro ⟨⟨e, member, refused⟩, -⟩
  exact refused (Exchange.refusal?_of_accepted (granted.2 e member))

/-- A single call that was refused. -/
theorem Refused.single {e : Exchange} (refused : Refused F [e]) :
    ∃ failure, e.refusal? = some failure ∧ F failure := by
  obtain ⟨⟨e', member, some⟩, kind⟩ := refused
  obtain rfl := List.mem_singleton.mp member
  obtain ⟨failure, found⟩ := Option.ne_none_iff_exists'.mp some
  exact ⟨failure, found, kind e' member failure found⟩

/-- Of two lists of calls, one holds the refused call. -/
theorem Refused.of_append {first second : List Exchange} (refused : Refused F (first ++ second)) :
    Refused F first ∨ Refused F second := by
  obtain ⟨⟨e, member, some⟩, kind⟩ := refused
  obtain ⟨kind, kind'⟩ := List.forall_mem_append.mp kind
  rcases List.mem_append.mp member with early | late
  · exact .inl ⟨⟨e, early, some⟩, kind⟩
  · exact .inr ⟨⟨e, late, some⟩, kind'⟩

/-- The answer of a statement that was refused. -/
theorem Refused.executed {call : Call} {answer : Except Failure Nat}
    (refused : Refused F [.executed call answer]) : ∃ failure, answer = .error failure ∧ F failure := by
  obtain ⟨failure, found, kind⟩ := refused.single
  cases answer with
  | ok n => cases found
  | error e =>
    cases found
    exact ⟨failure, rfl, kind⟩

/-- The answer of a query that was refused. -/
theorem Refused.fetched {call : Call} {answer : Except Failure (List Row)}
    (refused : Refused F [.fetched call answer]) : ∃ failure, answer = .error failure ∧ F failure := by
  obtain ⟨failure, found, kind⟩ := refused.single
  cases answer with
  | ok rows => cases found
  | error e =>
    cases found
    exact ⟨failure, rfl, kind⟩

variable {α β σ : Type}

/-- A session that fails if its calls are refused, with a failure of the same kind. -/
def Session.Surfaces (F : Failure → Prop) (x : Session (Except Failure α)) : Prop :=
  ∀ ⦃exchanges : List Exchange⦄ ⦃r : Except Failure α⦄,
    x.Tells exchanges r → Refused F exchanges → ∃ failure, r = .error failure ∧ F failure

theorem Session.surfaces_pure (r : Except Failure α) : Session.Surfaces F (pure r) := by
  rintro exchanges r' tells refused
  cases tells
  exact absurd refused not_refused_nil

/-- The value of a session can be changed, but not its failure. -/
theorem Session.Surfaces.map {x : Session (Except Failure α)} (surfaces : x.Surfaces F)
    (f : α → β) : Session.Surfaces F ((Except.map f ·) <$> x) := by
  intro exchanges r tells refused
  obtain ⟨r', told, rfl⟩ := tells.of_map
  obtain ⟨failure, rfl, kind⟩ := surfaces told refused
  exact ⟨failure, rfl, kind⟩

namespace Work

/-- Work that fails if its calls are refused, with a failure of the same kind. -/
def Surfaces (F : Failure → Prop) (work : Work σ α) : Prop :=
  ∀ ⦃c c' : σ⦄ ⦃exchanges : List Exchange⦄ ⦃r : Except Failure α⦄,
    work.Tells c exchanges r c' → Refused F exchanges → ∃ failure, r = .error failure ∧ F failure

/-- The session of such work, without the state that the work leaves. -/
theorem Surfaces.session {work : Work σ α} (surfaces : Surfaces F work) (c : σ) :
    Session.Surfaces F (Prod.fst <$> work.session c) := by
  intro exchanges r tells refused
  obtain ⟨⟨r', c'⟩, told, rfl⟩ := tells.of_map
  exact surfaces told refused

theorem surfaces_ofResult (result : Except Failure α) :
    Surfaces F (ofResult result : Work σ α) := by
  intro c c' exchanges r tells refused
  obtain ⟨rfl, -⟩ := tells.of_ofResult
  exact absurd refused not_refused_nil

theorem surfaces_pure (a : α) : Surfaces F (pure a : Work σ α) := surfaces_ofResult (.ok a)

theorem surfaces_get : Surfaces F (get : Work σ σ) := by
  intro c c' exchanges r tells refused
  obtain ⟨rfl, -⟩ := tells.of_get
  exact absurd refused not_refused_nil

theorem surfaces_modify (f : σ → σ) : Surfaces F (modify f : Work σ PUnit) := by
  intro c c' exchanges r tells refused
  obtain ⟨rfl, -⟩ := tells.of_modify
  exact absurd refused not_refused_nil

theorem surfaces_execute (sql : String) (params : List Value) :
    Surfaces F (execute sql params : Work σ Nat) := by
  intro c c' exchanges r tells refused
  obtain ⟨rfl, -⟩ := tells.of_execute
  exact refused.executed

theorem surfaces_fetch (sql : String) (params : List Value) :
    Surfaces F (fetch sql params : Work σ (List Row)) := by
  intro c c' exchanges r tells refused
  obtain ⟨rfl, -⟩ := tells.of_fetch
  exact refused.fetched

/-- A first piece of work that succeeds has had no call refused. -/
theorem surfaces_bind {x : Work σ α} {k : α → Work σ β} (first : Surfaces F x)
    (second : ∀ a, Surfaces F (k a)) : Surfaces F (x >>= k) := by
  intro c c' exchanges r tells refused
  rcases tells.of_bind with ⟨e, failed, rfl⟩ | ⟨one, a, c₁, two, rfl, done, later⟩
  · obtain ⟨failure, same, kind⟩ := first failed refused
    exact ⟨failure, congrArg _ (Except.error.inj same), kind⟩
  · rcases refused.of_append with early | late
    · -- Had a call of the first part been refused, that part would not have succeeded.
      obtain ⟨failure, impossible, -⟩ := first done early
      cases impossible
    · exact second a later late

theorem surfaces_forM {step : α → Work σ Unit} (each : ∀ a, Surfaces F (step a)) (items : List α) :
    Surfaces F (items.forM step) := by
  induction items with
  | nil => exact surfaces_pure ()
  | cons a rest ih => exact surfaces_bind (each a) fun _ => ih

theorem surfaces_mapM {step : α → Work σ β} (each : ∀ a, Surfaces F (step a)) (items : List α) :
    Surfaces F (items.mapM step) := by
  induction items with
  | nil => exact surfaces_pure []
  | cons a rest ih =>
    rw [List.mapM_cons]
    exact surfaces_bind (each a) fun _ => surfaces_bind ih fun _ => surfaces_pure _

end Work

end

end SchemaSeed.Sql
