import Mathlib
import SchemaSeed.Proofs.Sql.Refusal
import SchemaSeed.Server.Remote

/-!
Calls on a connection that may be lost. Up to the answer with which it is lost, every call reaches the
server, and the server's reply decides the answer; after it no call reaches the server, and each is
answered by the same kind of failure as a statement that the server refuses.
-/

set_option autoImplicit false
set_option relaxedAutoImplicit false

namespace SchemaSeed.Server

open SchemaSeed.Sql

/-- The reason of a reply that is a refusal. -/
def Reply.refusal? : Reply → Option String
  | .refused reason => some reason
  | _ => none

namespace Remote

/-- What is said before the reason when a call fails. -/
def attempted : Exchange → String
  | .executed .. => "Query execution failed: "
  | .fetched .. => "Query fetch failed: "

/-- The failure of a call that carries its statement. -/
def failureOf (e : Exchange) (reason : String) : Failure :=
  .statementFailed (attempted e ++ reason) (some e.call.sql)

/-- A call as the server of a dialect gets it. -/
def statementOf (d : Dialect) (e : Exchange) : ReceivedStatement :=
  ⟨e.call.sql, e.call.params.map (Parameter.ofValue d)⟩

/-- Calls that reach the server one after the other. A call is refused exactly if the server refuses
it, in the server's words. -/
inductive Heard : Remote → List Exchange → Remote → Prop
  | nil (r : Remote) : Heard r [] r
  | cons {r r₁ r' : Remote} {e : Exchange} {later : List Exchange} {reply : Reply}
      (opened : r.link = .opened) (replied : r.reply e.call.sql e.call.params = (reply, r₁))
      (answered : e.refusal? =
        reply.refusal?.map fun reason => failureOf e (serverWords r.dialect "1064 (42000)" reason))
      (rest : Heard r₁ later r') : Heard r (e :: later) r'

section

variable {r r' : Remote} {exchanges : List Exchange}

/-- A statement that reaches the server is noted there. The kind of the server stays, and the
connection is as before or lost. -/
theorem reply_effect (sql : String) (params : List Value) (r : Remote) :
    (r.reply sql params).2.reversed =
        ⟨sql, params.map (Parameter.ofValue r.dialect)⟩ :: r.reversed ∧
      (r.reply sql params).2.dialect = r.dialect ∧
      ((r.reply sql params).2.link = r.link ∨ (r.reply sql params).2.link = .lost) := by
  unfold reply
  dsimp only
  cases Rule.answer? sql r.rules with
  | some found =>
    obtain ⟨⟨answer, loses⟩, rules⟩ := found
    refine ⟨rfl, rfl, ?_⟩
    cases loses with
    | true => exact .inr rfl
    | false => exact .inl rfl
  | none =>
    cases r.ledger.bind (·.answer? sql params) with
    | some found => exact ⟨rfl, rfl, .inl rfl⟩
    | none => exact ⟨rfl, rfl, .inl rfl⟩

/-- The server gets the calls that reach it, in order, and no others. -/
theorem Heard.received (heard : Heard r exchanges r') :
    r'.received = r.received ++ exchanges.map (statementOf r.dialect) := by
  induction heard with
  | nil r => rw [List.map_nil, List.append_nil]
  | @cons r r₁ r' e later reply opened replied answered rest ih =>
    obtain ⟨noted, kind, -⟩ := reply_effect e.call.sql e.call.params r
    rw [replied] at noted kind
    rw [ih, kind, List.map_cons]
    unfold Remote.received
    rw [noted, List.reverse_cons, List.append_assoc]
    rfl

/-- Every failure of a call that reaches the server carries the statement. -/
theorem Heard.refusals (heard : Heard r exchanges r') {e : Exchange} {failure : Failure}
    (member : e ∈ exchanges) (refused : e.refusal? = some failure) :
    ∃ reason, failure = failureOf e reason := by
  induction heard with
  | nil r => cases member
  | cons opened replied answered rest ih =>
    rcases List.mem_cons.mp member with rfl | later
    · rw [answered, Option.map_eq_some_iff] at refused
      obtain ⟨reason, -, rfl⟩ := refused
      exact ⟨_, rfl⟩
    · exact ih later

/-- What the server says to a call on an open connection decides the answer. -/
theorem send_opened {α : Type} {attempt sql : String} {read : Reply → Except String α}
    {params : List Value} {reply : Reply} {r₁ : Remote} (opened : r.link = .opened)
    (replied : r.reply sql params = (reply, r₁)) :
    send attempt read sql params r =
      ((read reply).mapError fun reason => .statementFailed (attempt ++ reason) (some sql), r₁) := by
  unfold send
  rw [opened]
  dsimp only
  rw [replied]

/-- A statement that is executed on an open connection reaches the server. -/
theorem received_execute (opened : r.link = .opened) (sql : String) (params : List Value) :
    (server.execute sql params r).2.received =
      r.received ++ [⟨sql, params.map (Parameter.ofValue r.dialect)⟩] := by
  rcases replied : r.reply sql params with ⟨reply, after⟩
  have noted := (reply_effect sql params r).1
  rw [replied] at noted
  change (send _ (affectedOf r.dialect) sql params r).2.received = _
  rw [send_opened opened replied]
  unfold received
  rw [noted, List.reverse_cons]

/-- A call on a lost connection fails before it is sent. -/
theorem send_lost {α : Type} {attempt sql : String} {read : Reply → Except String α}
    {params : List Value} (lost : r.link = .lost) :
    send attempt read sql params r =
      (.error (.statementFailed (attempt ++ lostConnection) (some sql)), r) := by
  unfold send
  rw [lost]

/-- Once the connection is lost, no call does anything, and every call fails. -/
theorem lost_calls (lost : r.link = .lost) (answers : Answers server r exchanges r') :
    r' = r ∧ ∀ e ∈ exchanges, e.refusal? = some (failureOf e lostConnection) := by
  induction answers with
  | nil r => exact ⟨rfl, List.forall_mem_nil _⟩
  | executed answered rest ih =>
    obtain ⟨rfl, rfl⟩ := Prod.mk.inj ((send_lost lost).symm.trans answered)
    obtain ⟨rfl, others⟩ := ih lost
    exact ⟨rfl, List.forall_mem_cons.mpr ⟨rfl, others⟩⟩
  | fetched answered rest ih =>
    obtain ⟨rfl, rfl⟩ := Prod.mk.inj ((send_lost lost).symm.trans answered)
    obtain ⟨rfl, others⟩ := ih lost
    exact ⟨rfl, List.forall_mem_cons.mpr ⟨rfl, others⟩⟩

/-- Closing sends nothing. -/
@[simp] theorem close_received (r : Remote) : (server.close r).2.received = r.received := by
  unfold server
  dsimp only
  cases r.link <;> rfl

/-- The calls that reach the server come first. If there are others, the connection has been lost, and
every one of them fails. -/
def HeardUntilLost (r : Remote) (exchanges : List Exchange) (r' : Remote) : Prop :=
  ∃ heard unheard, exchanges = heard ++ unheard ∧ Heard r heard r' ∧
    (unheard ≠ [] → r'.link = .lost) ∧
    ∀ e ∈ unheard, e.refusal? = some (failureOf e lostConnection)

/-- A call that reaches the server, before others that may do so as long as the connection is open. -/
private theorem heardUntilLost_cons {r₁ : Remote} {e : Exchange} {later : List Exchange}
    {reply : Reply} (opened : r.link = .opened)
    (replied : r.reply e.call.sql e.call.params = (reply, r₁))
    (answered : e.refusal? =
      reply.refusal?.map fun reason => failureOf e (serverWords r.dialect "1064 (42000)" reason))
    (rest : Answers server r₁ later r')
    (others : r₁.link = .opened → HeardUntilLost r₁ later r') :
    HeardUntilLost r (e :: later) r' := by
  obtain ⟨-, -, link⟩ := reply_effect e.call.sql e.call.params r
  rw [replied, opened] at link
  rcases link with still | lost
  · obtain ⟨heard, unheard, rfl, first, gone, failed⟩ := others still
    exact ⟨e :: heard, unheard, rfl, .cons opened replied answered first, gone, failed⟩
  · obtain ⟨rfl, failed⟩ := lost_calls lost rest
    exact ⟨[e], later, rfl, .cons opened replied answered (.nil _), fun _ => lost, failed⟩

/-- Calls on an open connection reach the server until the connection is lost. -/
theorem heard_until_lost (opened : r.link = .opened) (answers : Answers server r exchanges r') :
    HeardUntilLost r exchanges r' := by
  -- On the calls: the reply to the first decides whether the connection is open for the others.
  induction answers with
  | nil r => exact ⟨[], [], rfl, .nil r, fun some => absurd rfl some, List.forall_mem_nil _⟩
  | @executed r r₁ r' call answer later answered rest ih =>
    rcases replied : r.reply call.sql call.params with ⟨reply, after⟩
    obtain ⟨rfl, rfl⟩ := Prod.mk.inj ((send_opened opened replied).symm.trans answered)
    refine heardUntilLost_cons opened replied ?_ rest ih
    cases reply <;> rfl
  | @fetched r r₁ r' call answer later answered rest ih =>
    rcases replied : r.reply call.sql call.params with ⟨reply, after⟩
    obtain ⟨rfl, rfl⟩ := Prod.mk.inj ((send_opened opened replied).symm.trans answered)
    refine heardUntilLost_cons opened replied ?_ rest ih
    cases reply <;> rfl

end

end Remote

end SchemaSeed.Server
