import Mathlib
import SchemaSeed.Proofs.Migration.SimulatedRun
import SchemaSeed.Proofs.Sql.Exchange

/-!
What is said in a transaction, whatever the answers are: it is started, its statements and the call
that changes the ledger are sent up to the first that is refused, and it is closed. Over some files
one transaction comes after the other, up to the first that does not succeed.
-/

set_option autoImplicit false
set_option relaxedAutoImplicit false

namespace SchemaSeed.Migration

open SchemaSeed.Sql SchemaSeed.Files

variable {α : Type}

/-- The call that starts a transaction. -/
def starting (d : Dialect) : Call := plain (d.beginKeyword ++ ";")

/-- Statements and a last call that are sent up to the first that is refused. The failure names the
statement that was refused. -/
inductive Breaks (statements : List String) (last : Call) : List Exchange → Failure → Prop
  | statement {before after : List String} {sql : String} {sent : List Exchange}
      {failure : Failure} (parts : statements = before ++ sql :: after)
      (granted : Granted (before.map plain) sent) :
      Breaks statements last (sent ++ [.executed (plain sql) (.error failure)])
        (attachStatement sql failure)
  | last {sent : List Exchange} {failure : Failure}
      (granted : Granted (statements.map plain) sent) :
      Breaks statements last (sent ++ [.executed last (.error failure)]) failure

/-- What is said in a transaction around some statements and a last call, and how it ends. -/
inductive Transacts (d : Dialect) (statements : List String) (last : Call) :
    List Exchange → Except Failure Unit → Prop
  | unopened {failure : Failure} :
      Transacts d statements last [.executed (starting d) (.error failure)] (.error failure)
  | undone {n : Nat} {sent : List Exchange} {failure : Failure} {answer : Except Failure Nat}
      (breaks : Breaks statements last sent failure) :
      Transacts d statements last
        (.executed (starting d) (.ok n) :: (sent ++ [.executed (plain "ROLLBACK;") answer]))
        (.error failure)
  | closed {n : Nat} {sent : List Exchange} {answer : Except Failure Nat}
      (granted : Granted (statements.map plain ++ [last]) sent) :
      Transacts d statements last
        (.executed (starting d) (.ok n) :: (sent ++ [.executed (plain "COMMIT;") answer]))
        (discard answer)

/-- Work that sends one call, and fails if that is refused. -/
def Sends (call : Call) (work : Work Ledger.Cache Unit) : Prop :=
  ∀ ⦃c c' : Ledger.Cache⦄ ⦃sent : List Exchange⦄ ⦃r : Except Failure Unit⦄,
    work.Tells c sent r c' →
      ∃ answer, sent = [.executed call answer] ∧ r = discard answer

section

variable {c c' : Ledger.Cache} {sent : List Exchange} {r : Except Failure Unit}

theorem sends_record (l : Ledger) (name : String) (batch : Int) :
    Sends ⟨l.recordStatement, [.text name, .int64 batch]⟩ (l.record name batch) := by
  intro c c' sent r tells
  rcases tells.of_bind with ⟨e, refused, rfl⟩ | ⟨first, n, c₁, rest, rfl, done, later⟩
  · obtain ⟨rfl, -⟩ := refused.of_execute
    exact ⟨.error e, rfl, rfl⟩
  · obtain ⟨rfl, rfl⟩ := done.of_execute
    obtain ⟨rfl, rfl, -⟩ := later.of_modify
    exact ⟨.ok n, rfl, rfl⟩

theorem sends_forget (l : Ledger) (name : String) :
    Sends ⟨l.forgetStatement, [.text name]⟩ (discard (l.forget name)) := by
  intro c c' sent r tells
  have removal {removed : Except Failure Nat} {c' : Ledger.Cache} {sent : List Exchange}
      (tells : (l.forget name).Tells c sent removed c') :
      sent = [.executed ⟨l.forgetStatement, [.text name]⟩ removed] := by
    rcases tells.of_bind with ⟨e, refused, rfl⟩ | ⟨first, n, c₁, rest, rfl, done, later⟩
    · exact refused.of_execute.1
    · obtain ⟨rfl, rfl⟩ := done.of_execute
      rcases later.of_bind with ⟨e, failed, -⟩ | ⟨_, _, _, _, rfl, changed, returned⟩
      · cases failed.of_modify.2.1
      · obtain ⟨rfl, -⟩ := changed.of_modify
        obtain ⟨rfl, rfl, -⟩ := returned.of_pure
        rfl
  rcases tells.of_bind with ⟨e, failed, rfl⟩ | ⟨first, n, c₁, rest, rfl, done, later⟩
  · exact ⟨.error e, removal failed, rfl⟩
  · obtain ⟨rfl, rfl, -⟩ := later.of_pure
    rw [List.append_nil]
    exact ⟨.ok n, removal done, rfl⟩

/-- The statements of a script are sent one by one, up to the first that is refused. -/
theorem sendAll_tells {statements : List String} (tells : (sendAll statements).Tells c sent r c') :
    (Granted (statements.map plain) sent ∧ r = .ok ()) ∨
      ∃ before sql after done failure, statements = before ++ sql :: after ∧
        Granted (before.map plain) done ∧
        sent = done ++ [.executed (plain sql) (.error failure)] ∧
        r = .error (attachStatement sql failure) := by
  induction statements generalizing c sent with
  | nil =>
    obtain ⟨rfl, rfl, -⟩ := tells.of_pure
    exact .inl ⟨.nil, rfl⟩
  | cons sql rest ih =>
    unfold sendAll at tells
    rcases tells.of_bind with ⟨e, failed, -⟩ | ⟨first, answer, c₁, others, rfl, asked, later⟩
    · obtain ⟨outcome, -, impossible⟩ := failed.of_attempt
      cases impossible
    obtain ⟨outcome, sent, same⟩ := asked.of_attempt
    obtain rfl := Except.ok.inj same
    obtain ⟨rfl, rfl⟩ := sent.of_execute
    cases answer with
    | error failure =>
      obtain ⟨rfl, rfl, -⟩ := later.of_throw
      exact .inr ⟨[], sql, rest, [], failure, rfl, .nil, rfl, rfl⟩
    | ok n =>
      have first := Granted.single (plain sql) n
      rcases ih later with ⟨granted, rfl⟩ |
        ⟨before, sql', after, done, failure, rfl, granted, rfl, rfl⟩
      · exact .inl ⟨first.append granted, rfl⟩
      · exact .inr ⟨sql :: before, sql', after, _, failure, rfl, first.append granted,
          (List.append_assoc ..).symm, rfl⟩

/-- The statements of a script and the last call are all accepted, or they break off. -/
theorem body_tells {statements : List String} {last : Work Ledger.Cache Unit} {call : Call}
    (final : Sends call last) (tells : (sendAll statements *> last).Tells c sent r c') :
    (Granted (statements.map plain ++ [call]) sent ∧ r = .ok ()) ∨
      ∃ failure, Breaks statements call sent failure ∧ r = .error failure := by
  rcases tells.of_bind with ⟨e, failed, rfl⟩ | ⟨first, _, c₁, rest, rfl, done, later⟩
  · rcases sendAll_tells failed with ⟨-, impossible⟩ |
      ⟨before, sql, after, done, failure, parts, granted, rfl, same⟩
    · cases impossible
    · obtain rfl := Except.error.inj same
      exact .inr ⟨_, .statement parts granted, rfl⟩
  · rcases sendAll_tells done with ⟨granted, -⟩ | ⟨_, _, _, _, _, -, -, -, impossible⟩
    · obtain ⟨answer, rfl, rfl⟩ := final later
      cases answer with
      | error failure => exact .inr ⟨failure, .last granted, rfl⟩
      | ok n => exact .inl ⟨granted.append (.single call n), rfl⟩
    · cases impossible

/-- A script is sent as one transaction. -/
theorem transact_tells {d : Dialect} {statements : List String} {last : Work Ledger.Cache Unit}
    {call : Call} (final : Sends call last)
    (tells : (transact (d.wrap statements) last).Tells c sent r c') :
    Transacts d statements call sent r := by
  unfold transact at tells
  dsimp only [Dialect.wrap] at tells
  rcases tells.of_bind with ⟨e, refused, rfl⟩ | ⟨first, n, c₁, rest, rfl, started, later⟩
  · obtain ⟨rfl, -⟩ := refused.of_execute
    exact .unopened
  obtain ⟨rfl, rfl⟩ := started.of_execute
  rcases later.of_bind with ⟨e, failed, -⟩ | ⟨middle, outcome, c₂, closing, rfl, body, ending⟩
  · obtain ⟨outcome, -, impossible⟩ := failed.of_attempt
    cases impossible
  obtain ⟨result, sends, same⟩ := body.of_attempt
  obtain rfl := Except.ok.inj same
  rcases body_tells final sends with ⟨granted, rfl⟩ | ⟨failure, breaks, rfl⟩
  · dsimp only at ending
    rcases ending.of_bind with ⟨e, refused, rfl⟩ | ⟨commit, m, c₃, rest, rfl, ended, returned⟩
    · obtain ⟨rfl, -⟩ := refused.of_execute
      exact @Transacts.closed d statements call n _ (.error e) granted
    · obtain ⟨rfl, rfl⟩ := ended.of_execute
      obtain ⟨rfl, rfl, -⟩ := returned.of_pure
      exact @Transacts.closed d statements call n _ (.ok m) granted
  · dsimp only at ending
    rcases ending.of_bind with ⟨e, failed, -⟩ | ⟨rollback, _, c₃, rest, rfl, undone, thrown⟩
    · obtain ⟨outcome, -, impossible⟩ := failed.of_attempt
      cases impossible
    · obtain ⟨answer, asked, -⟩ := undone.of_attempt
      obtain ⟨rfl, rfl⟩ := asked.of_execute
      obtain ⟨rfl, rfl, -⟩ := thrown.of_throw
      exact .undone breaks

end

/-- The call that enters in the ledger what became of a file: forwards it is recorded, backwards it
is removed. -/
inductive Ledger.Enters (l : Ledger) (name : String) : Direction → Call → Prop
  | record (batch : Int) : Enters l name .up ⟨l.recordStatement, [.text name, .int64 batch]⟩
  | removal : Enters l name .down ⟨l.forgetStatement, [.text name]⟩

namespace Collection

/-- What is said for some files, in order: a transaction for each of them, up to the first that does
not succeed. -/
inductive Passes (c : Collection) (files : Tree) (direction : Direction) :
    List String → List Exchange → Except Failure Unit → Prop
  | nil : Passes c files direction [] [] (.ok ())
  | next {name : String} {names : List String} {script : Script} {call : Call}
      {sent later : List Exchange} {r : Except Failure Unit}
      (found : c.script files direction name = .ok script)
      (enters : c.ledger.Enters name direction call)
      (block : Transacts c.dialect script.statements call sent (.ok ()))
      (rest : Passes c files direction names later r) :
      Passes c files direction (name :: names) (sent ++ later) r
  | stop {name : String} {names : List String} {script : Script} {call : Call}
      {sent : List Exchange} {failure : Failure}
      (found : c.script files direction name = .ok script)
      (enters : c.ledger.Enters name direction call)
      (block : Transacts c.dialect script.statements call sent (.error failure)) :
      Passes c files direction (name :: names) sent (.error failure)

variable {c : Collection} {files : Tree} {direction : Direction}

/-- A loop over scripts sends a transaction for each of their files. -/
theorem forM_tells {step : String × Script → Work Ledger.Cache Unit}
    (step_eq : ∀ file, ∃ call last, c.ledger.Enters file.1 direction call ∧ Sends call last ∧
      step file = transact file.2 last)
    {names : List String} {scripts : List (String × Script)}
    (compiled : c.scripts files direction names = .ok scripts) {k k' : Ledger.Cache}
    {sent : List Exchange} {r : Except Failure Unit}
    (tells : (scripts.forM step).Tells k sent r k') : c.Passes files direction names sent r := by
  have pairs := scripts_eq_ok_iff.mp compiled
  clear compiled
  induction pairs generalizing k sent with
  | nil =>
    obtain ⟨rfl, rfl, -⟩ := Work.Tells.of_pure tells
    exact .nil
  | @cons name file names scripts first _ ih =>
    obtain ⟨rfl, found⟩ := first
    obtain ⟨call, last, enters, sends, same⟩ := step_eq file
    obtain ⟨statements, script, -⟩ := script_schema found
    have block {k' : Ledger.Cache} {sent : List Exchange} {r : Except Failure Unit}
        (tells : (step file).Tells k sent r k') :
        Transacts c.dialect file.2.statements call sent r := by
      rw [same, script] at tells
      rw [script]
      exact transact_tells sends tells
    rw [List.forM_eq_forM, List.forM_cons] at tells
    rcases tells.of_bind with ⟨e, failed, rfl⟩ | ⟨first, _, k₁, rest, rfl, done, later⟩
    · exact .stop found enters (block failed)
    · exact .next found enters (block done) (ih later)

end Collection

end SchemaSeed.Migration
