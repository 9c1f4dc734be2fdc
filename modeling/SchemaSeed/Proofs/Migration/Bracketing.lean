import Mathlib
import SchemaSeed.Proofs.Migration.Transaction

/-!
Every transaction that a run opens is closed once, and the first failure is the outcome. What is sent
before the first transaction neither opens nor closes one; after that the transactions follow each
other.
-/

set_option autoImplicit false
set_option relaxedAutoImplicit false

namespace SchemaSeed.Migration

open SchemaSeed.Sql SchemaSeed.Files

variable {α : Type}

/-- Whether a call asks for a transaction. -/
def opens (d : Dialect) (e : Exchange) : Bool := e.call.sql == d.beginKeyword ++ ";"

/-- Whether a call ends a transaction, with its changes or without them. -/
def closes (e : Exchange) : Bool := e.call.sql == "COMMIT;" || e.call.sql == "ROLLBACK;"

/-- The change of the ledger is no statement around a transaction. -/
theorem Ledger.Enters.ne_around {l : Ledger} {name : String} {direction : Direction} {call : Call}
    (enters : l.Enters name direction call) (d : Dialect) :
    call.sql ≠ d.beginKeyword ++ ";" ∧ call.sql ≠ "COMMIT;" ∧ call.sql ≠ "ROLLBACK;" := by
  cases enters with
  | record batch =>
    have start := l.recordStatement_start
    exact ⟨start.ne (by cases d <;> decide), start.ne (by decide), start.ne (by decide)⟩
  | removal =>
    have start := l.forgetStatement_start
    exact ⟨start.ne (by cases d <;> decide), start.ne (by decide), start.ne (by decide)⟩

theorem Ledger.Enters.ne_plain {l : Ledger} {name : String} {direction : Direction} {call : Call}
    (enters : l.Enters name direction call) (sql : String) : call ≠ plain sql := by
  rintro rfl
  cases enters

/-- What ends a transaction does not ask for one. -/
theorem opens_of_closes (d : Dialect) {e : Exchange} (closed : closes e = true) :
    opens d e = false := by
  have ends : e.call.sql = "COMMIT;" ∨ e.call.sql = "ROLLBACK;" := by simpa [closes] using closed
  rcases ends with same | same <;> rw [opens, same] <;> cases d <;> decide

theorem closes_commit (answer : Except Failure Nat) :
    closes (.executed (plain "COMMIT;") answer) = true := by
  simp [closes, Exchange.call, plain]

theorem closes_rollback (answer : Except Failure Nat) :
    closes (.executed (plain "ROLLBACK;") answer) = true := by
  simp [closes, Exchange.call, plain]

namespace Collection

variable (c : Collection) (files : Tree) (direction : Direction)

/-- What is sent inside of a transaction: the statements of a file, and the change of the ledger. -/
inductive Inside (names : List String) : Call → Prop
  | statement {name sql : String} {script : Script} (member : name ∈ names)
      (found : c.script files direction name = .ok script) (sends : sql ∈ script.statements) :
      Inside names (plain sql)
  | entry {name : String} {call : Call} (enters : c.ledger.Enters name direction call) :
      Inside names call

/-- How an exchange of a run over some files fits in with those before it and after it, and with the
outcome. -/
structure Fits (names : List String) (before : List Exchange) (e : Exchange)
    (after : List Exchange) (r : Except Failure α) : Prop where
  /-- An opened transaction is closed once before the next one is asked for. -/
  once : opens c.dialect e = true → e.accepted = true →
    (after.takeWhile fun e => !opens c.dialect e).countP closes = 1
  /-- A commit comes right after the start of a transaction, all statements of a file and the change
  of the ledger for it, each of them accepted. -/
  complete : e.call.sql = "COMMIT;" →
    ∃ name ∈ names, ∃ script call earlier sent, c.script files direction name = .ok script ∧
      c.ledger.Enters name direction call ∧ before = earlier ++ sent ∧
      Granted (starting c.dialect :: (script.statements.map plain ++ [call])) sent
  /-- After a refused statement of a file only the rollback is sent, and the refusal is the outcome;
  it names a statement. -/
  undone : ∀ name ∈ names, ∀ script, c.script files direction name = .ok script →
    ∀ sql ∈ script.statements, ∀ failure, e = .executed (plain sql) (.error failure) →
      (∃ answer, after = [.executed (plain "ROLLBACK;") answer]) ∧
        r = .error (attachStatement sql failure)
  /-- After a refused change of the ledger only the rollback is sent, and the refusal is the
  outcome. -/
  unrecorded : ∀ name call, c.ledger.Enters name direction call →
    ∀ failure, e = .executed call (.error failure) →
      (∃ answer, after = [.executed (plain "ROLLBACK;") answer]) ∧ r = .error failure
  /-- After a refused start or commit nothing is sent, and the refusal is the outcome. -/
  final : (opens c.dialect e = true ∨ e.call.sql = "COMMIT;") →
    ∀ call failure, e = .executed call (.error failure) → after = [] ∧ r = .error failure

variable {c files direction} {names : List String} {before after : List Exchange} {e : Exchange}
  {r : Except Failure α}

/-- What is sent inside of a transaction neither opens nor closes one. -/
theorem Inside.ne_around {call : Call} (inside : c.Inside files direction names call) :
    call.sql ≠ c.dialect.beginKeyword ++ ";" ∧ call.sql ≠ "COMMIT;" ∧ call.sql ≠ "ROLLBACK;" := by
  cases inside with
  | statement member found sends =>
    obtain ⟨statements, rfl, schema⟩ := script_schema found
    exact (schema _ sends).ne_around c.dialect
  | entry enters => exact enters.ne_around c.dialect

/-- What is no statement around a transaction, and is not refused in one, fits in anywhere. -/
theorem Fits.of_quiet (starts : e.call.sql ≠ c.dialect.beginKeyword ++ ";")
    (commits : e.call.sql ≠ "COMMIT;")
    (outside : ∀ call failure, e = .executed call (.error failure) →
      ¬ c.Inside files direction names call) :
    c.Fits files direction names before e after r where
  once opened := absurd opened (by simpa [opens] using starts)
  complete committed := absurd committed commits
  undone _ member _ found _ sends failure refused :=
    absurd (.statement member found sends) (outside _ failure refused)
  unrecorded _ call enters failure refused := absurd (.entry enters) (outside call failure refused)
  final ending := by
    rcases ending with opened | committed
    · exact absurd opened (by simpa [opens] using starts)
    · exact absurd committed commits

/-- What is accepted inside of a transaction fits in. -/
theorem Fits.of_granted {calls : List Call} {sent : List Exchange}
    (inside : ∀ call ∈ calls, c.Inside files direction names call) (granted : Granted calls sent)
    (member : e ∈ sent) : c.Fits files direction names before e after r := by
  have listed : e.call ∈ calls := granted.1 ▸ List.mem_map_of_mem member
  obtain ⟨starts, commits, -⟩ := (inside e.call listed).ne_around
  refine .of_quiet starts commits ?_
  rintro call failure rfl
  exact absurd (granted.2 _ member) (by simp [Exchange.accepted, Except.isOk, Except.toBool])

/-- A rollback fits in, whatever the answer to it is. -/
theorem Fits.of_rollback {answer : Except Failure Nat} :
    c.Fits files direction names before (.executed (plain "ROLLBACK;") answer) after r := by
  refine .of_quiet ?_ (by decide : "ROLLBACK;" ≠ "COMMIT;") ?_
  · change "ROLLBACK;" ≠ _
    cases c.dialect <;> decide
  · rintro call failure same inside
    obtain ⟨rfl, -⟩ := Exchange.executed.inj same
    exact inside.ne_around.2.2 rfl

/-- What is sent next starts with a transaction, if anything is. -/
def Fresh (d : Dialect) (later : List Exchange) : Prop := ∀ e ∈ later.head?, opens d e = true

/-- A transaction is closed once before the next one. -/
theorem countP_closes {calls : List Call} {sent later : List Exchange} {closing : Exchange}
    (inside : ∀ call ∈ calls, c.Inside files direction names call)
    (sends : ∀ e ∈ sent, e.call ∈ calls)
    (closed : closes closing = true) (fresh : Fresh c.dialect later) :
    ((sent ++ [closing] ++ later).takeWhile fun e => !opens c.dialect e).countP closes = 1 := by
  have open_ : ∀ e ∈ sent ++ [closing], (!opens c.dialect e) = true := by
    refine List.forall_mem_append.mpr ⟨fun e member => ?_,
      by simpa using opens_of_closes c.dialect closed⟩
    simpa [opens] using (inside e.call (sends e member)).ne_around.1
  have none : later.takeWhile (fun e => !opens c.dialect e) = [] := by
    cases later with
    | nil => rfl
    | cons e rest => simp [fresh e rfl]
  have quiet : sent.countP closes = 0 := by
    refine List.countP_eq_zero.mpr fun e member => ?_
    obtain ⟨-, commits, undoes⟩ := (inside e.call (sends e member)).ne_around
    simp [closes, commits, undoes]
  rw [List.takeWhile_append_of_pos open_, none, List.append_nil, List.countP_append, quiet,
    List.countP_singleton, if_pos closed]

section

variable {name : String} {script : Script} {call : Call} {sent later block earlier : List Exchange}

/-- An accepted start of a transaction fits in if what follows closes it. -/
private theorem fits_started {n : Nat}
    (once : (after.takeWhile fun e => !opens c.dialect e).countP closes = 1) :
    c.Fits files direction names before (.executed (starting c.dialect) (.ok n)) after r where
  once _ _ := once
  complete committed := by
    change c.dialect.beginKeyword ++ ";" = "COMMIT;" at committed
    cases d : c.dialect <;> rw [d] at committed <;> exact absurd committed (by decide)
  undone _ _ _ _ _ _ _ same := nomatch (Exchange.executed.inj same).2
  unrecorded _ _ _ _ same := nomatch (Exchange.executed.inj same).2
  final _ _ _ same := nomatch (Exchange.executed.inj same).2

/-- A refused start fits in if it is the end. -/
private theorem fits_unopened {failure : Failure} (outcome : r = .error failure) :
    c.Fits files direction names before (.executed (starting c.dialect) (.error failure)) [] r := by
  have outside : ¬ c.Inside files direction names (starting c.dialect) :=
    fun inside => inside.ne_around.1 rfl
  have commits : (starting c.dialect).sql ≠ "COMMIT;" := by
    change c.dialect.beginKeyword ++ ";" ≠ "COMMIT;"
    cases c.dialect <;> decide
  exact {
    once := fun _ accepted => nomatch accepted
    complete := fun committed => absurd committed commits
    undone := fun _ member _ found _ sends _ same =>
      absurd ((Exchange.executed.inj same).1 ▸ .statement member found sends) outside
    unrecorded := fun _ _ enters _ same =>
      absurd ((Exchange.executed.inj same).1 ▸ .entry enters) outside
    final := fun _ _ _ same => by
      obtain rfl := Except.error.inj (Exchange.executed.inj same).2
      exact ⟨rfl, outcome⟩ }

/-- A call that is refused inside of a transaction fits in if the rollback comes next. -/
private theorem fits_refused {refused : Call} {failure : Failure} {answer : Except Failure Nat}
    (inside : c.Inside files direction names refused)
    (statement : ∀ sql, refused = plain sql → r = .error (attachStatement sql failure))
    (entry : (∀ sql, refused ≠ plain sql) → r = .error failure) :
    c.Fits files direction names before (.executed refused (.error failure))
      [.executed (plain "ROLLBACK;") answer] r where
  once _ accepted := nomatch accepted
  complete committed := absurd committed inside.ne_around.2.1
  undone _ _ _ _ sql _ _ same := by
    cases same
    exact ⟨⟨answer, rfl⟩, statement sql rfl⟩
  unrecorded _ _ enters _ same := by
    cases same
    exact ⟨⟨answer, rfl⟩, entry enters.ne_plain⟩
  final ending := by
    rcases ending with opened | committed
    · exact absurd (beq_iff_eq.mp opened) inside.ne_around.1
    · exact absurd committed inside.ne_around.2.1

variable (member : name ∈ names) (found : c.script files direction name = .ok script)
  (enters : c.ledger.Enters name direction call)

include member found enters

private theorem inside_block :
    ∀ call' ∈ script.statements.map plain ++ [call], c.Inside files direction names call' := by
  refine List.forall_mem_append.mpr ⟨fun call' sent => ?_, fun call' last => ?_⟩
  · obtain ⟨sql, sends, rfl⟩ := List.mem_map.mp sent
    exact .statement member found sends
  · obtain rfl := List.mem_singleton.mp last
    exact .entry enters

/-- A commit fits in after what it completes; if it is refused it is the end. -/
private theorem fits_commit {n : Nat} {answer : Except Failure Nat}
    (granted : Granted (script.statements.map plain ++ [call]) sent)
    (ends : ∀ failure, answer = .error failure → after = [] ∧ r = .error failure) :
    c.Fits files direction names
      (earlier ++ .executed (starting c.dialect) (.ok n) :: sent)
      (.executed (plain "COMMIT;") answer) after r := by
  have outside : ¬ c.Inside files direction names (plain "COMMIT;") :=
    fun inside => inside.ne_around.2.1 rfl
  have starts : opens c.dialect (.executed (plain "COMMIT;") answer) = false := by
    change ("COMMIT;" == c.dialect.beginKeyword ++ ";") = false
    cases c.dialect <;> decide
  exact {
    once := fun opened => by rw [starts] at opened; cases opened
    complete := fun _ => ⟨name, member, script, call, earlier, _, found, enters, rfl,
      (Granted.single (starting c.dialect) n).append granted⟩
    undone := fun _ member _ found _ sends _ same =>
      absurd ((Exchange.executed.inj same).1 ▸ .statement member found sends) outside
    unrecorded := fun _ _ enters _ same =>
      absurd ((Exchange.executed.inj same).1 ▸ .entry enters) outside
    final := fun _ _ failure same => ends failure (Exchange.executed.inj same).2 }

/-- A transaction that reaches its commit fits in. -/
private theorem fits_closed {n : Nat} {answer : Except Failure Nat}
    (granted : Granted (script.statements.map plain ++ [call]) sent)
    (fresh : Fresh c.dialect later)
    (ends : ∀ failure, answer = .error failure → later = [] ∧ r = .error failure)
    (parts : .executed (starting c.dialect) (.ok n) ::
      (sent ++ [.executed (plain "COMMIT;") answer]) = before ++ e :: after) :
    c.Fits files direction names (earlier ++ before) e (after ++ later) r := by
  have inside := inside_block member found enters
  cases before with
  | nil =>
    obtain ⟨rfl, rfl⟩ := List.cons.inj parts
    exact fits_started (countP_closes inside
      (fun e sends => granted.1 ▸ List.mem_map_of_mem sends) (closes_commit answer) fresh)
  | cons first before =>
    obtain ⟨rfl, tail⟩ := List.cons.inj parts
    rcases Traversal.split_append tail with ⟨rest, rfl, rfl⟩ | ⟨rest, rfl, last⟩
    · exact .of_granted inside granted (by simp)
    · cases rest with
      | cons _ rest => cases rest <;> cases (List.cons.inj last).2
      | nil =>
        obtain ⟨rfl, rfl⟩ := List.cons.inj last
        rw [List.append_nil]
        exact fits_commit member found enters granted ends

/-- A transaction breaks off at a call that it sends inside. -/
private theorem breaks_at {failure : Failure} (breaks : Breaks script.statements call sent failure) :
    ∃ calls done refused reason, (∀ call ∈ refused :: calls, c.Inside files direction names call) ∧
      Granted calls done ∧ sent = done ++ [.executed refused (.error reason)] ∧
      (∀ sql, refused = plain sql → failure = attachStatement sql reason) ∧
      ((∀ sql, refused ≠ plain sql) → failure = reason) := by
  have inside := inside_block member found enters
  cases breaks with
  | @statement before after sql done reason parts granted =>
    refine ⟨_, done, plain sql, reason, fun call' sent => inside call' ?_, granted, rfl, ?_, ?_⟩
    · rw [parts]
      rcases List.mem_cons.mp sent with rfl | sent
      · simp
      · simp only [List.map_append, List.mem_append]
        exact .inl (.inl sent)
    · rintro sql' same
      cases same
      rfl
    · intro other
      exact absurd rfl (other sql)
  | last granted =>
    refine ⟨_, _, call, failure, fun call' sent => inside call' ?_, granted, rfl, ?_, fun _ => rfl⟩
    · rcases List.mem_cons.mp sent with rfl | sent
      · simp
      · exact List.mem_append_left _ sent
    · intro sql same
      exact absurd same (enters.ne_plain sql)

/-- A transaction that breaks off fits in. -/
private theorem fits_undone {n : Nat} {answer : Except Failure Nat}
    {failure : Failure} (breaks : Breaks script.statements call sent failure)
    (outcome : r = .error failure)
    (parts : .executed (starting c.dialect) (.ok n) ::
      (sent ++ [.executed (plain "ROLLBACK;") answer]) = before ++ e :: after) :
    c.Fits files direction names (earlier ++ before) e after r := by
  obtain ⟨calls, done, refused, reason, inside, granted, rfl, statement, entry⟩ :=
    breaks_at member found enters breaks
  cases before with
  | nil =>
    obtain ⟨rfl, rfl⟩ := List.cons.inj parts
    have sends : ∀ e ∈ done ++ [.executed refused (.error reason)], e.call ∈ refused :: calls := by
      refine List.forall_mem_append.mpr ⟨fun e sent => ?_, by simp [Exchange.call]⟩
      exact List.mem_cons_of_mem _ (granted.1 ▸ List.mem_map_of_mem sent)
    have nothing : Fresh c.dialect [] := fun _ first => nomatch first
    have once := countP_closes inside sends (closes_rollback answer) nothing
    rw [List.append_nil] at once
    exact fits_started once
  | cons first before =>
    obtain ⟨rfl, tail⟩ := List.cons.inj parts
    rcases Traversal.split_append tail with ⟨rest, body, rfl⟩ | ⟨rest, rfl, last⟩
    · rcases Traversal.split_append body with ⟨rest, rfl, rfl⟩ | ⟨rest, rfl, broken⟩
      · exact .of_granted (fun call sent => inside call (List.mem_cons_of_mem _ sent)) granted
          (by simp)
      · cases rest with
        | cons _ rest => cases rest <;> cases (List.cons.inj broken).2
        | nil =>
          obtain ⟨rfl, rfl⟩ := List.cons.inj broken
          refine fits_refused (inside refused List.mem_cons_self) ?_ ?_
          · intro sql same
            rw [outcome, statement sql same]
          · intro other
            rw [outcome, entry other]
    · cases rest with
      | cons _ rest => cases rest <;> cases (List.cons.inj last).2
      | nil =>
        obtain ⟨rfl, rfl⟩ := List.cons.inj last
        exact .of_rollback

/-- A transaction fits in that ends well before others, or with the failure of the run. -/
theorem fits_transacts {ended : Except Failure Unit}
    (block : Transacts c.dialect script.statements call sent ended) (fresh : Fresh c.dialect later)
    (ends : ∀ failure, ended = .error failure → later = [] ∧ r = .error failure)
    (parts : sent = before ++ e :: after) :
    c.Fits files direction names (earlier ++ before) e (after ++ later) r := by
  cases block with
  | @unopened failure =>
    obtain ⟨rfl, outcome⟩ := ends failure rfl
    cases before with
    | cons _ before => cases before <;> cases (List.cons.inj parts).2
    | nil =>
      obtain ⟨rfl, rfl⟩ := List.cons.inj parts
      exact fits_unopened outcome
  | @undone n sent failure answer breaks =>
    obtain ⟨rfl, outcome⟩ := ends failure rfl
    rw [List.append_nil]
    exact fits_undone member found enters breaks outcome parts
  | @closed n sent answer granted =>
    refine fits_closed member found enters granted fresh (fun failure refused => ?_) parts
    exact ends failure (by rw [refused]; rfl)

end

/-- Transactions one after the other start with one, if there is any. -/
theorem Passes.fresh {sent : List Exchange} {ended : Except Failure Unit}
    (passes : c.Passes files direction names sent ended) : Fresh c.dialect sent := by
  have first {statements : List String} {call : Call} {sent later : List Exchange}
      {ended : Except Failure Unit} (block : Transacts c.dialect statements call sent ended) :
      Fresh c.dialect (sent ++ later) := by
    intro e head
    cases block <;> cases head <;> exact beq_self_eq_true _
  cases passes with
  | nil => exact fun _ first => nomatch first
  | next _ _ block _ => exact first block
  | stop _ _ block => exact List.append_nil sent ▸ first block

/-- Transactions one after the other fit in. -/
theorem Passes.fits {all : List String} (listed : ∀ name ∈ names, name ∈ all)
    {sent earlier : List Exchange} {ended : Except Failure Unit}
    (passes : c.Passes files direction names sent ended)
    (outcome : ∀ failure, ended = .error failure → r = .error failure)
    (parts : sent = before ++ e :: after) :
    c.Fits files direction all (earlier ++ before) e after r := by
  induction passes generalizing earlier before after with
  | nil => cases before <;> cases parts
  | @next name names script call sent later ended found enters block rest ih =>
    have member := listed name List.mem_cons_self
    have others := fun other sends => listed other (List.mem_cons_of_mem _ sends)
    rcases Traversal.split_append parts with ⟨inner, here, rfl⟩ | ⟨inner, rfl, there⟩
    · exact fits_transacts member found enters block rest.fresh (fun _ same => nomatch same) here
    · rw [← List.append_assoc]
      exact ih others outcome there
  | @stop name names script call sent failure found enters block =>
    have member := listed name List.mem_cons_self
    have nothing : Fresh c.dialect [] := fun _ first => nomatch first
    rw [← List.append_nil after]
    refine fits_transacts member found enters block nothing (fun failure' same => ?_) parts
    exact ⟨rfl, outcome failure' same⟩

end Collection

/-- What is said before the first transaction: the queries about the ledger, and the statements that
make its table and repair it. -/
inductive Ledger.Consults (l : Ledger) : Exchange → Prop
  | query {sql : String} {answer : Except Failure (List Row)}
      (words : StartsWith "SELECT " sql ∨ StartsWith "SHOW " sql) :
      Consults l (.fetched (plain sql) answer)
  | table {answer : Except Failure Nat} : Consults l (.executed (plain l.createStatement) answer)
  | column {answer : Except Failure Nat} : Consults l (.executed (plain l.addBatchColumn) answer)

namespace Ledger

variable (l : Ledger)

theorem utters_ensure : Work.Utters l.Consults l.ensure := by
  have words : StartsWith "SELECT " l.batchColumnQuery ∨ StartsWith "SHOW " l.batchColumnQuery := by
    unfold batchColumnQuery
    cases l.dialect <;> simp only [String.append_assoc]
    · exact .inl (StartsWith.append (by decide) _)
    · exact .inr (StartsWith.append (by decide) _)
  refine Work.utters_bind (Work.utters_execute fun _ => .table) fun _ => ?_
  refine Work.utters_bind (Work.utters_fetch fun _ => .query words) fun columns => ?_
  by_cases missing : columns.isEmpty = true
  · rw [if_pos missing]
    exact Work.utters_bind (Work.utters_execute fun _ => .column) fun _ => Work.utters_pure ()
  · rw [if_neg missing]
    exact Work.utters_pure ()

theorem utters_isApplied (name : String) : Work.Utters l.Consults (l.isApplied name) := by
  have words : StartsWith "SELECT " l.namesQuery := StartsWith.append (by decide) _
  refine Work.utters_bind (Work.utters_bind Work.utters_get fun cache => ?_)
    fun _ => Work.utters_pure _
  cases cache.applied with
  | some names => exact Work.utters_pure names
  | none =>
    refine Work.utters_bind (Work.utters_fetch fun _ => .query (.inl words)) fun rows => ?_
    refine Work.utters_bind (Work.utters_ofResult _) fun names => ?_
    exact Work.utters_bind (Work.utters_modify _) fun _ => Work.utters_pure names

theorem utters_nextBatch : Work.Utters l.Consults l.nextBatch := by
  have words : StartsWith "SELECT " l.nextBatchQuery := StartsWith.append (by decide) _
  refine Work.utters_bind Work.utters_get fun cache => ?_
  cases cache.batch with
  | some batch => exact Work.utters_pure batch
  | none =>
    refine Work.utters_bind (Work.utters_fetch fun _ => .query (.inl words)) fun rows => ?_
    refine Work.utters_bind (Work.utters_ofResult _) fun batch => ?_
    exact Work.utters_bind (Work.utters_modify _) fun _ => Work.utters_pure batch

theorem utters_split (names : List String) : Work.Utters l.Consults (Collection.split l names) := by
  induction names with
  | nil => exact Work.utters_pure _
  | cons name rest ih =>
    refine Work.utters_bind (l.utters_isApplied name) fun held => ?_
    exact Work.utters_bind ih fun _ => Work.utters_pure _

end Ledger

namespace Collection

variable {c : Collection} {files : Tree} {direction : Direction} {names : List String}
  {before after : List Exchange} {e : Exchange} {r : Except Failure α}

/-- What is said before the first transaction fits in. -/
theorem Fits.of_consults (consults : c.ledger.Consults e) :
    c.Fits files direction names before e after r := by
  have unfinished {first last : String} (final : Char) (ends : last.toList.getLast? = some final)
      (other : final ≠ ';') : ∀ words, first ++ last ≠ words ++ ";" := by
    intro words same
    have finals := congrArg (fun s => s.toList.getLast?) same
    rw [String.toList_append, String.toList_append, List.getLast?_append, ends,
      List.getLast?_append] at finals
    exact other (Option.some.inj finals)
  have schema {sql : String} {answer : Except Failure Nat} (schema : IsSchemaStatement sql)
      (ends : ∀ words, sql ≠ words ++ ";") :
      c.Fits files direction names before (.executed (plain sql) answer) after r := by
    obtain ⟨starts, commits, -⟩ := schema.ne_around c.dialect
    refine .of_quiet starts commits ?_
    rintro call failure same inside
    obtain ⟨rfl, -⟩ := Exchange.executed.inj same
    generalize sent : plain sql = call at inside
    cases inside with
    | statement _ found sends =>
      cases sent
      obtain ⟨words, terminated⟩ := script_terminated found _ sends
      exact ends words terminated
    | entry enters => exact enters.ne_plain sql sent.symm
  cases consults with
  | query words =>
    rcases words with start | start
    · exact .of_quiet (start.ne (by cases c.dialect <;> decide)) (start.ne (by decide))
        fun _ _ same => nomatch same
    · exact .of_quiet (start.ne (by cases c.dialect <;> decide)) (start.ne (by decide))
        fun _ _ same => nomatch same
  | table =>
    exact schema c.ledger.createStatement_schema
      (unfinished ')' (by decide) (by decide))
  | column =>
    exact schema c.ledger.addBatchColumn_schema (unfinished 'L' (by decide) (by decide))

/-- The files that are sorted out are some of those that are looked at. -/
theorem split_subset {l : Ledger} {k k' : Ledger.Cache} {sent : List Exchange}
    {parts : List String × List String}
    (tells : (split l names).Tells k sent (.ok parts) k') :
    (∀ name ∈ parts.1, name ∈ names) ∧ ∀ name ∈ parts.2, name ∈ names := by
  induction names generalizing k k' sent parts with
  | nil =>
    obtain ⟨-, same, -⟩ := tells.of_pure
    obtain rfl := Except.ok.inj same
    exact ⟨List.forall_mem_nil _, List.forall_mem_nil _⟩
  | cons name rest ih =>
    rcases tells.of_bind with ⟨e, -, impossible⟩ | ⟨_, held, k₁, _, -, -, tells⟩
    · cases impossible
    rcases tells.of_bind with ⟨e, -, impossible⟩ | ⟨_, ⟨inside, outside⟩, k₂, _, -, others, tells⟩
    · cases impossible
    obtain ⟨-, same, -⟩ := tells.of_pure
    obtain rfl := Except.ok.inj same
    obtain ⟨known, unknown⟩ := ih others
    have longer {names : List String} (listed : ∀ name ∈ names, name ∈ rest) :
        ∀ other ∈ names, other ∈ name :: rest :=
      fun other member => List.mem_cons_of_mem _ (listed other member)
    cases held with
    | true => exact ⟨List.forall_mem_cons.mpr ⟨List.mem_cons_self, longer known⟩, longer unknown⟩
    | false => exact ⟨longer known, List.forall_mem_cons.mpr ⟨List.mem_cons_self, longer unknown⟩⟩

/-- A run over some files: what is said before the first transaction, and then the transactions, of
which the first that fails is the failure of the run. -/
def Proceeds (c : Collection) (files : Tree) (direction : Direction) (names : List String)
    (exchanges : List Exchange) (r : Except Failure α) : Prop :=
  ∃ opening sent todo ended, exchanges = opening ++ sent ∧
    (∀ e ∈ opening, c.ledger.Consults e) ∧ (∀ name ∈ todo, name ∈ names) ∧
    c.Passes files direction todo sent ended ∧ ∀ failure, ended = .error failure → r = .error failure

/-- A run without transactions. -/
theorem Proceeds.of_consults {exchanges : List Exchange}
    (consults : ∀ e ∈ exchanges, c.ledger.Consults e) :
    c.Proceeds files direction names exchanges r :=
  ⟨exchanges, [], [], .ok (), (List.append_nil _).symm, consults, List.forall_mem_nil _, .nil,
    fun _ same => nomatch same⟩

theorem Proceeds.opened {opening later : List Exchange}
    (opens : ∀ e ∈ opening, c.ledger.Consults e)
    (rest : c.Proceeds files direction names later r) :
    c.Proceeds files direction names (opening ++ later) r := by
  obtain ⟨first, sent, todo, ended, rfl, consults, listed, passes, outcome⟩ := rest
  exact ⟨opening ++ first, sent, todo, ended, (List.append_assoc ..).symm,
    List.forall_mem_append.mpr ⟨opens, consults⟩, listed, passes, outcome⟩

/-- Everything that is said in a run fits in. -/
theorem Proceeds.fits {exchanges : List Exchange}
    (proceeds : c.Proceeds files direction names exchanges r)
    (parts : exchanges = before ++ e :: after) :
    c.Fits files direction names before e after r := by
  obtain ⟨opening, sent, todo, ended, rfl, consults, listed, passes, outcome⟩ := proceeds
  rcases Traversal.split_append parts with ⟨rest, rfl, -⟩ | ⟨rest, rfl, there⟩
  · exact .of_consults (consults e (by simp))
  · exact passes.fits listed outcome there

/-- What a run starts with: it looks at the ledger and sorts its files. -/
private theorem proceeds_opening {k k' : Ledger.Cache} {exchanges : List Exchange}
    {work : List String × List String → Work Ledger.Cache α}
    (tells : Work.Tells (do c.ledger.ensure; work (← split c.ledger names)) k exchanges r k')
    (rest : ∀ ⦃parts k₁ later⦄, (∀ name ∈ parts.1, name ∈ names) →
      (∀ name ∈ parts.2, name ∈ names) → (work parts).Tells k₁ later r k' →
        c.Proceeds files direction names later r) :
    c.Proceeds files direction names exchanges r := by
  rcases tells.of_bind with ⟨e, failed, -⟩ | ⟨first, _, k₁, later, rfl, ensured, tells⟩
  · exact .of_consults (c.ledger.utters_ensure failed)
  refine .opened (c.ledger.utters_ensure ensured) ?_
  rcases tells.of_bind with ⟨e, failed, -⟩ | ⟨first, parts, k₂, later, rfl, sorted, tells⟩
  · exact .of_consults (c.ledger.utters_split names failed)
  obtain ⟨known, unknown⟩ := split_subset sorted
  exact .opened (c.ledger.utters_split names sorted) (rest known unknown tells)

/-- A loop over the scripts of some files, and then the outcome. -/
private theorem proceeds_forM {todo : List String} {scripts : List (String × Script)}
    (listed : ∀ name ∈ todo, name ∈ names)
    (compiled : c.scripts files direction todo = .ok scripts)
    {step : String × Script → Work Ledger.Cache Unit}
    (step_eq : ∀ file, ∃ call last, c.ledger.Enters file.1 direction call ∧ Sends call last ∧
      step file = transact file.2 last)
    {k k' : Ledger.Cache} {exchanges : List Exchange} {outcome : α}
    (tells : Work.Tells (do scripts.forM step; return outcome) k exchanges r k') :
    c.Proceeds files direction names exchanges r := by
  rcases tells.of_bind with ⟨e, failed, rfl⟩ | ⟨first, _, k₁, later, rfl, done, tells⟩
  · exact ⟨[], exchanges, todo, .error e, rfl, List.forall_mem_nil _, listed,
      forM_tells step_eq compiled failed, fun _ same => by rw [Except.error.inj same]⟩
  · obtain ⟨rfl, rfl, -⟩ := tells.of_pure
    exact ⟨[], first, todo, .ok (), List.append_nil _, List.forall_mem_nil _, listed,
      forM_tells step_eq compiled done, fun _ same => nomatch same⟩

theorem applyFiles_proceeds {k k' : Ledger.Cache} {exchanges : List Exchange}
    {r : Except Failure ApplyOutcome} (tells : (c.applyFiles files names).Tells k exchanges r k') :
    c.Proceeds files .up names exchanges r := by
  refine proceeds_opening tells fun {parts k₁ later} known unknown tells => ?_
  obtain ⟨held, pending⟩ := parts
  dsimp only at tells
  by_cases nothing : pending.isEmpty = true
  · rw [if_pos nothing] at tells
    exact .of_consults (Work.utters_pure _ tells)
  rw [if_neg nothing] at tells
  rcases tells.of_bind with ⟨e, failed, -⟩ | ⟨first, scripts, k₂, later, rfl, found, going⟩
  · exact .of_consults (Work.utters_ofResult _ failed)
  obtain ⟨rfl, compiled, -⟩ := found.of_ofResult
  rcases going.of_bind with ⟨e, failed, -⟩ | ⟨first, batch, k₃, later, rfl, numbered, looping⟩
  · exact .of_consults (c.ledger.utters_nextBatch failed)
  rw [List.nil_append]
  refine .opened (c.ledger.utters_nextBatch numbered) ?_
  exact proceeds_forM unknown compiled.symm
    (fun file => ⟨_, _, .record batch, sends_record c.ledger file.1 batch, rfl⟩) looping

theorem rollBackFiles_proceeds {k k' : Ledger.Cache} {exchanges : List Exchange}
    {r : Except Failure RollbackOutcome}
    (tells : (c.rollBackFiles files names).Tells k exchanges r k') :
    c.Proceeds files .down names exchanges r := by
  refine proceeds_opening tells fun {parts k₁ later} known unknown tells => ?_
  obtain ⟨held, absent⟩ := parts
  dsimp only at tells
  rcases tells.of_bind with ⟨e, failed, -⟩ | ⟨first, scripts, k₂, later, rfl, found, looping⟩
  · exact .of_consults (Work.utters_ofResult _ failed)
  obtain ⟨rfl, compiled, -⟩ := found.of_ofResult
  exact proceeds_forM known compiled.symm
    (fun file => ⟨_, _, .removal, sends_forget c.ledger file.1, rfl⟩) looping

/-- A session over some files, run against any server, says what proceeds so. -/
private theorem transacted {direction : Direction} {names : List String}
    {session : Session (Except Failure α)}
    (proceeds : ∀ exchanges r, session.Tells exchanges r →
      c.Proceeds files direction names exchanges r) {σ : Type} (server : Server σ) (s : σ) :
    ∃ exchanges r s', session.run server.recorded ⟨[], s⟩ = (r, s') ∧
      Answers server s exchanges s'.inner ∧ s'.calls = exchanges.map Exchange.call ∧
      ∀ before e after, exchanges = before ++ e :: after →
        c.Fits files direction names before e after r := by
  obtain ⟨exchanges, r, s', tells, answers, ran⟩ := Session.run_tells server session s []
  refine ⟨exchanges, r, _, ran, answers, ?_, fun before e after parts => ?_⟩
  · unfold Recorded.calls
    rw [List.append_nil, List.reverse_reverse]
  · exact (proceeds exchanges r tells).fits parts

/-- Every transaction that a run opens is closed once, forwards and backwards, whatever the server
answers: an accepted start is followed by one commit or rollback before the next start; a commit is
sent only after all statements of a file and the change of the ledger were accepted; after a refused
statement or change only the rollback is sent, and the refusal is the outcome, whatever the answer to
the rollback; and a refused start or commit is the last call. -/
theorem transactions_closed (c : Collection) (files : Tree) (target : Option String) {σ : Type}
    (server : Server σ) (s : σ) :
    (∃ exchanges r s', (c.apply files target).run server.recorded ⟨[], s⟩ = (r, s') ∧
      Answers server s exchanges s'.inner ∧ s'.calls = exchanges.map Exchange.call ∧
      ∀ before e after, exchanges = before ++ e :: after →
        c.Fits files .up (c.considered files target) before e after r) ∧
    (∃ exchanges r s', (c.rollBack files target).run server.recorded ⟨[], s⟩ = (r, s') ∧
      Answers server s exchanges s'.inner ∧ s'.calls = exchanges.map Exchange.call ∧
      ∀ before e after, exchanges = before ++ e :: after →
        c.Fits files .down (c.considered files target) before e after r) := by
  have silent {direction : Direction} {β : Type} {r : Except Failure β} {exchanges : List Exchange}
      {ended : Except Failure β}
      (tells : (pure ended : Session (Except Failure β)).Tells exchanges r) :
      c.Proceeds files direction (c.considered files target) exchanges r := by
    cases tells
    exact .of_consults (List.forall_mem_nil _)
  refine ⟨transacted (fun exchanges r tells => ?_) server s,
    transacted (fun exchanges r tells => ?_) server s⟩
  · rcases c.apply_cases files target with ⟨-, same | ⟨e, same⟩⟩ | same <;> rw [same] at tells
    · exact silent tells
    · exact silent tells
    · obtain ⟨⟨r, k⟩, tells, rfl⟩ := tells.of_map
      exact applyFiles_proceeds tells
  · rcases c.rollBack_cases files target with ⟨-, same⟩ | ⟨-, e, same⟩ | same <;> rw [same] at tells
    · exact silent tells
    · exact silent tells
    · obtain ⟨⟨r, k⟩, tells, rfl⟩ := tells.of_map
      exact rollBackFiles_proceeds tells

end Collection

end SchemaSeed.Migration
