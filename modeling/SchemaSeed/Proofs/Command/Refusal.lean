import Mathlib
import SchemaSeed.Command.Program
import SchemaSeed.Proofs.Migration.Transaction
import SchemaSeed.Proofs.Seed.Exchanges
import SchemaSeed.Proofs.Sql.Refusal

/-!
No command hides a refusal. A lookup survives only the failures that are no refusals, and a
transaction that is rolled back ends with the refusal that broke it off.
-/

set_option autoImplicit false
set_option relaxedAutoImplicit false

namespace SchemaSeed

open SchemaSeed.Sql SchemaSeed.Files

/-- A kind of failures that end any work: none of them is survived, and a failure stays of the kind
when its statement is put to it. -/
structure Failure.Lasting (F : Failure → Prop) : Prop where
  fatal {failure : Failure} : F failure → failure.isRecoverable = false
  attached {failure : Failure} (sql : String) :
    F failure → F (Migration.attachStatement sql failure)

/-- A statement that failed. -/
def Failure.IsRefusal (failure : Failure) : Prop :=
  ∃ reason statement, failure = .statementFailed reason statement

theorem Failure.isRefusal_lasting : Failure.Lasting Failure.IsRefusal where
  fatal := by
    rintro _ ⟨reason, statement, rfl⟩
    rfl
  attached := by
    rintro _ sql ⟨reason, _ | statement, rfl⟩
    · exact ⟨reason, some sql, rfl⟩
    · exact ⟨reason, some statement, rfl⟩

variable {F : Failure → Prop}

/-! Runs over migrations. -/

namespace Migration

namespace Ledger

variable (l : Ledger)

theorem surfaces_ensure : Work.Surfaces F l.ensure := by
  refine Work.surfaces_bind (Work.surfaces_execute _ _) fun _ => ?_
  refine Work.surfaces_bind (Work.surfaces_fetch _ _) fun columns => ?_
  by_cases missing : columns.isEmpty = true
  · rw [if_pos missing]
    exact Work.surfaces_bind (Work.surfaces_execute _ _) fun _ => Work.surfaces_pure ()
  · rw [if_neg missing]
    exact Work.surfaces_pure ()

theorem surfaces_isApplied (name : String) : Work.Surfaces F (l.isApplied name) := by
  refine Work.surfaces_bind (Work.surfaces_bind Work.surfaces_get fun cache => ?_)
    fun _ => Work.surfaces_pure _
  cases cache.applied with
  | some names => exact Work.surfaces_pure names
  | none =>
    refine Work.surfaces_bind (Work.surfaces_fetch _ _) fun rows => ?_
    refine Work.surfaces_bind (Work.surfaces_ofResult _) fun names => ?_
    exact Work.surfaces_bind (Work.surfaces_modify _) fun _ => Work.surfaces_pure names

theorem surfaces_nextBatch : Work.Surfaces F l.nextBatch := by
  refine Work.surfaces_bind Work.surfaces_get fun cache => ?_
  cases cache.batch with
  | some batch => exact Work.surfaces_pure batch
  | none =>
    refine Work.surfaces_bind (Work.surfaces_fetch _ _) fun rows => ?_
    refine Work.surfaces_bind (Work.surfaces_ofResult _) fun batch => ?_
    exact Work.surfaces_bind (Work.surfaces_modify _) fun _ => Work.surfaces_pure batch

theorem surfaces_split (names : List String) : Work.Surfaces F (Collection.split l names) := by
  induction names with
  | nil => exact Work.surfaces_pure _
  | cons name rest ih =>
    refine Work.surfaces_bind (l.surfaces_isApplied name) fun held => ?_
    exact Work.surfaces_bind ih fun _ => Work.surfaces_pure _

end Ledger

/-- The failure of a script that breaks off is that of the call that was refused. -/
theorem Breaks.kind (lasting : Failure.Lasting F) {statements : List String} {last : Call}
    {sent : List Exchange} {failure : Failure} (breaks : Breaks statements last sent failure)
    (kind : ∀ e ∈ sent, ∀ failure, e.refusal? = some failure → F failure) : F failure := by
  cases breaks with
  | statement parts granted =>
    exact lasting.attached _ (kind _ (List.mem_append_right _ (List.mem_singleton_self _)) _ rfl)
  | last granted =>
    exact kind _ (List.mem_append_right _ (List.mem_singleton_self _)) _ rfl

/-- A transaction fails with the first refusal, whatever comes of rolling it back. -/
theorem surfaces_transact (lasting : Failure.Lasting F) {script : Script}
    {last : Work Ledger.Cache Unit} {call : Call} (final : Sends call last) :
    Work.Surfaces F (transact script last) := by
  refine Work.surfaces_bind (Work.surfaces_execute _ _) fun _ => ?_
  intro c c' exchanges r tells refused
  rcases tells.of_bind with ⟨e, failed, -⟩ | ⟨body, outcome, c₁, closing, rfl, tried, ending⟩
  · obtain ⟨outcome, -, impossible⟩ := failed.of_attempt
    cases impossible
  obtain ⟨result, sent, same⟩ := tried.of_attempt
  obtain rfl := Except.ok.inj same
  rcases body_tells final sent with ⟨granted, rfl⟩ | ⟨failure, breaks, rfl⟩
  · have commit := refused.of_append.resolve_left granted.not_refused
    exact Work.surfaces_bind (Work.surfaces_execute _ _) (fun _ => Work.surfaces_pure ())
      ending commit
  · -- The failure is settled before the rollback, whose answer is thrown away.
    have first : F failure := breaks.kind lasting (List.forall_mem_append.mp refused.2).1
    rcases ending.of_bind with ⟨e, failed, -⟩ | ⟨rollback, _, c₂, rest, rfl, undone, thrown⟩
    · obtain ⟨outcome, -, impossible⟩ := failed.of_attempt
      cases impossible
    · obtain ⟨-, rfl, -⟩ := thrown.of_throw
      exact ⟨failure, rfl, first⟩

namespace Collection

variable (c : Collection) (files : Tree)

theorem surfaces_applyFiles (lasting : Failure.Lasting F) (names : List String) :
    Work.Surfaces F (c.applyFiles files names) := by
  unfold applyFiles
  refine Work.surfaces_bind c.ledger.surfaces_ensure fun _ => ?_
  refine Work.surfaces_bind (c.ledger.surfaces_split names) fun ⟨held, pending⟩ => ?_
  dsimp only
  by_cases nothing : pending.isEmpty = true
  · rw [if_pos nothing]
    exact Work.surfaces_pure _
  · rw [if_neg nothing]
    refine Work.surfaces_bind (Work.surfaces_ofResult _) fun scripts => ?_
    refine Work.surfaces_bind c.ledger.surfaces_nextBatch fun batch => ?_
    have each (file : String × Script) : Work.Surfaces F (applyScript c.ledger batch file) := by
      unfold applyScript
      exact surfaces_transact lasting (sends_record c.ledger file.1 batch)
    exact Work.surfaces_bind (Work.surfaces_forM each scripts) fun _ => Work.surfaces_pure _

theorem surfaces_rollBackFiles (lasting : Failure.Lasting F) (names : List String) :
    Work.Surfaces F (c.rollBackFiles files names) := by
  unfold rollBackFiles
  refine Work.surfaces_bind c.ledger.surfaces_ensure fun _ => ?_
  refine Work.surfaces_bind (c.ledger.surfaces_split names) fun parts => ?_
  refine Work.surfaces_bind (Work.surfaces_ofResult _) fun scripts => ?_
  have each (file : String × Script) : Work.Surfaces F (rollBackScript c.ledger file) := by
    unfold rollBackScript
    exact surfaces_transact lasting (sends_forget c.ledger file.1)
  exact Work.surfaces_bind (Work.surfaces_forM each scripts) fun _ => Work.surfaces_pure _

theorem surfaces_apply (lasting : Failure.Lasting F) (target : Option String) :
    Session.Surfaces F (c.apply files target) := by
  unfold apply
  split_ifs
  · exact Session.surfaces_pure _
  · cases Directory.candidates files c.directory target with
    | error e => exact Session.surfaces_pure _
    | ok names => exact (c.surfaces_applyFiles files lasting names).session {}

theorem surfaces_rollBack (lasting : Failure.Lasting F) (target : Option String) :
    Session.Surfaces F (c.rollBack files target) := by
  unfold rollBack
  split_ifs
  · exact Session.surfaces_pure _
  · cases Directory.candidates files c.directory target with
    | error e => exact Session.surfaces_pure _
    | ok names => exact (c.surfaces_rollBackFiles files lasting names).session {}

theorem surfaces_status : Session.Surfaces F (c.status files) := by
  unfold status
  split_ifs
  · exact Session.surfaces_pure _
  · cases Directory.list files c.directory with
    | error e => exact Session.surfaces_pure _
    | ok names =>
      refine Work.Surfaces.session ?_ ({} : Ledger.Cache)
      refine Work.surfaces_bind c.ledger.surfaces_ensure fun _ => ?_
      refine Work.surfaces_bind ?_ fun _ => Work.surfaces_pure _
      exact Work.surfaces_bind (Work.surfaces_fetch _ _) fun _ => Work.surfaces_ofResult _

end Collection

end Migration

/-! Runs over seeders. -/

namespace Seed

variable {γ : Type} (e : Engine γ)

namespace Engine

/-- A column that is looked up fails with the refusal of its query. -/
theorem surfaces_cell (lasting : Failure.Lasting F) (rule : Factory.Rule) :
    Work.Surfaces F (e.cell rule) := by
  intro c c' exchanges r tells refused
  cases cell_tells tells with
  | lookedUp plain given resolved =>
    obtain ⟨failure, rfl, kind⟩ := refused.fetched
    cases resolved with
    | found first => cases first
    | survived first recovered =>
      cases first
      rw [lasting.fatal kind] at recovered
      cases recovered
    | failed first =>
      cases first
      exact ⟨failure, rfl, kind⟩
  | _ => exact absurd refused not_refused_nil

theorem surfaces_buildRow (lasting : Failure.Lasting F) (factory : Factory.Document) :
    Work.Surfaces F (e.buildRow factory) := by
  refine Work.surfaces_mapM (fun cell => ?_) factory.rules
  exact Work.surfaces_bind (e.surfaces_cell lasting cell.2) fun _ => Work.surfaces_pure _

theorem surfaces_send (call : Call) : Work.Surfaces F (send call : Work γ Unit) :=
  Work.surfaces_bind (Work.surfaces_execute _ _) fun _ => Work.surfaces_pure ()

theorem surfaces_writeRow (table : String) (row : SeedRow) (upsert : Option Upsert) :
    Work.Surfaces F (e.writeRow table row upsert) := by
  cases upsert with
  | none => exact Work.surfaces_bind (surfaces_send _) fun _ => Work.surfaces_pure _
  | some u =>
    refine Work.surfaces_bind (Work.surfaces_ofResult _) fun count => ?_
    refine Work.surfaces_bind (Work.surfaces_fetch _ _) fun rows => ?_
    refine Work.surfaces_bind (Work.surfaces_ofResult _) fun found => ?_
    split_ifs
    · refine Work.surfaces_bind (Work.surfaces_ofResult _) fun update => ?_
      exact Work.surfaces_bind (surfaces_send _) fun _ => Work.surfaces_pure _
    · exact Work.surfaces_bind (surfaces_send _) fun _ => Work.surfaces_pure _

theorem surfaces_writeRows (lasting : Failure.Lasting F) (spec : Spec) (factory : Factory.Document)
    (n : Nat) (summary : Summary) : Work.Surfaces F (e.writeRows spec factory n summary) := by
  induction n generalizing summary with
  | zero => exact Work.surfaces_pure summary
  | succ n ih =>
    refine Work.surfaces_bind (e.surfaces_buildRow lasting factory) fun row => ?_
    exact Work.surfaces_bind (e.surfaces_writeRow spec.table row spec.upsert) fun outcome => ih _

theorem surfaces_sendQuery (query : String) (n : Nat) (summary : Summary) :
    Work.Surfaces F (e.sendQuery query n summary) := by
  induction n generalizing summary with
  | zero => exact Work.surfaces_pure summary
  | succ n ih => exact Work.surfaces_bind (surfaces_send _) fun _ => ih _

theorem surfaces_run (lasting : Failure.Lasting F) (spec : Spec)
    (factory : Option Factory.Document) : Work.Surfaces F (e.run spec factory) := by
  refine Work.surfaces_bind (Work.surfaces_ofResult _) fun _ => ?_
  cases factory with
  | some f =>
    refine Work.surfaces_bind (e.surfaces_writeRows lasting spec f spec.count {}) fun summary => ?_
    cases spec.customQuery with
    | some q => exact e.surfaces_sendQuery q.query q.count summary
    | none => exact Work.surfaces_pure summary
  | none =>
    refine Work.surfaces_bind (Work.surfaces_pure _) fun summary => ?_
    cases spec.customQuery with
    | some q => exact e.surfaces_sendQuery q.query q.count summary
    | none => exact Work.surfaces_pure summary

end Engine

variable (d : Directories) (tree : Tree)

theorem surfaces_runSpec (lasting : Failure.Lasting F) (spec : Spec) :
    Work.Surfaces F (runSpec e d tree spec) := by
  unfold runSpec
  cases spec.factoryName? with
  | none => exact Work.surfaces_bind (e.surfaces_run lasting spec none) fun _ => Work.surfaces_pure _
  | some name =>
    refine Work.surfaces_bind (Work.surfaces_ofResult _) fun factory => ?_
    cases factory with
    | none => exact Work.surfaces_pure _
    | some factory =>
      exact Work.surfaces_bind (e.surfaces_run lasting spec factory) fun _ => Work.surfaces_pure _

theorem surfaces_runSpecs (lasting : Failure.Lasting F) (specs : List Spec) (summary : Summary) :
    Work.Surfaces F (runSpecs e d tree specs summary) := by
  induction specs generalizing summary with
  | nil => exact Work.surfaces_pure summary
  | cons spec rest ih =>
    exact Work.surfaces_bind (surfaces_runSpec e d tree lasting spec) fun _ => ih _

theorem surfaces_runFiles (lasting : Failure.Lasting F) (paths : List String) (summary : Summary) :
    Work.Surfaces F (runFiles e d tree paths summary) := by
  induction paths generalizing summary with
  | nil => exact Work.surfaces_pure summary
  | cons path rest ih =>
    refine Work.surfaces_bind (Work.surfaces_ofResult _) fun document => ?_
    exact Work.surfaces_bind (surfaces_runSpecs e d tree lasting document.specs summary)
      fun _ => ih _

theorem surfaces_run (lasting : Failure.Lasting F) (target : Option String) :
    Work.Surfaces F (run e d tree target) :=
  Work.surfaces_bind (Work.surfaces_ofResult _) fun paths =>
    surfaces_runFiles e d tree lasting paths {}

end Seed

/-! Commands. -/

namespace Command

/-- A step that is passed. -/
private theorem of_passed {α β : Type} {x : Except Fault α} {f : α → Except Fault β} {b : β}
    (passed : x >>= f = .ok b) : ∃ a, f a = .ok b := by
  cases x with
  | error e => cases passed
  | ok a => exact ⟨a, passed⟩

/-- A command that talks to a server hides no refusal. -/
theorem Context.surfaces_task (lasting : Failure.Lasting F) {c : Context} {desk : Desk}
    {request : Request} {session : Session (Except Failure String)}
    (asked : c.task desk request = .ok (.online session)) : session.Surfaces F := by
  cases request with
  | migrate file =>
    obtain rfl := Task.online.inj (Except.ok.inj asked)
    exact (c.collection.surfaces_apply desk.files lasting file).map _
  | rollBack file force =>
    obtain ⟨_, asked⟩ := of_passed asked
    obtain rfl := Task.online.inj (Except.ok.inj asked)
    exact (c.collection.surfaces_rollBack desk.files lasting file).map _
  | status =>
    obtain rfl := Task.online.inj (Except.ok.inj asked)
    exact (c.collection.surfaces_status desk.files).map _
  | seed file force =>
    obtain ⟨_, asked⟩ := of_passed asked
    obtain ⟨_, asked⟩ := of_passed asked
    obtain rfl := Task.online.inj (Except.ok.inj asked)
    exact ((Seed.surfaces_run _ _ _ lasting file).session desk.chance).map _
  | compile name rollback =>
    obtain ⟨_, asked⟩ := of_passed asked
    cases Except.ok.inj asked
  | makeMigration title =>
    dsimp only [task] at asked
    generalize Migration.Directory.create desk.files c.migrations desk.now title = result at asked
    cases result <;> cases asked
  | makeSeeder name =>
    dsimp only [task] at asked
    generalize c.seedDirectories.createSeeder desk.files name = result at asked
    cases result <;> cases asked
  | makeFactory name =>
    dsimp only [task] at asked
    generalize c.seedDirectories.createFactory desk.files name = result at asked
    cases result <;> cases asked

end Command

end SchemaSeed
