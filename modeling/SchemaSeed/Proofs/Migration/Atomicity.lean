import Mathlib
import SchemaSeed.Proofs.Migration.Pending
import SchemaSeed.Proofs.Migration.Scripts
import SchemaSeed.Proofs.Server.Transactional

/-!
Executing a file and recording it are one step for whoever looks at the committed contents. Whatever
calls a server with transactions refuses, a run publishes the files up to one of them completely,
and nothing of the others.

A run is taken apart in three: what it does inside of a transaction (`Inside`), a transaction as a
whole (`Atomic`), and a loop of transactions, which stops after some number of them. What comes
before the first transaction publishes at most the creation or the repair of the ledger table.
-/

set_option autoImplicit false
set_option relaxedAutoImplicit false

namespace SchemaSeed.Migration

open SchemaSeed.Sql SchemaSeed.Files SchemaSeed.Server

variable {α β σ : Type} {l : Ledger}

/-- Work that publishes nothing, and whose success leads from one kind of working copy to
another. -/
def Unpublished (server : Transactional l σ) (P Q : Option Contents → Prop)
    (work : Work Ledger.Cache α) : Prop :=
  ∀ ⦃c c' : Ledger.Cache⦄ ⦃s s' : σ⦄ ⦃r : Except Failure α⦄,
    Work.runOn server.toServer work c s = ((r, c'), s') → P (server.working s) →
      server.committed s' = server.committed s ∧ ∀ a, r = .ok a → Q (server.working s')

/-- Work inside of a transaction, whose success changes the working copy in one way. -/
def Inside (server : Transactional l σ) (f : Contents → Contents) (work : Work Ledger.Cache α) :
    Prop :=
  ∀ w, Unpublished server (· = some w) (· = some (f w)) work

/-- Work that publishes nothing and leaves no transaction open. -/
def Idle (server : Transactional l σ) (work : Work Ledger.Cache α) : Prop :=
  Unpublished server (· = none) (· = none) work

/-- Work that publishes its whole effect if it succeeds, and nothing if it fails. -/
def Atomic (server : Transactional l σ) (f : Contents → Contents)
    (work : Work Ledger.Cache Unit) : Prop :=
  ∀ ⦃c c' : Ledger.Cache⦄ ⦃s s' : σ⦄ ⦃r : Except Failure Unit⦄,
    Work.runOn server.toServer work c s = ((r, c'), s') → server.working s = none →
      match r with
      | .ok _ => server.committed s' = f (server.committed s) ∧ server.working s' = none
      | .error _ => server.committed s' = server.committed s

section Transaction

variable (server : Transactional l σ)

theorem unpublished_pure (P : Option Contents → Prop) (a : α) :
    Unpublished server P P (pure a) := by
  intro c c' s s' r ran before
  obtain ⟨-, rfl⟩ : (.ok a = r ∧ c = c') ∧ s = s' := by simpa using ran
  exact ⟨rfl, fun _ _ => before⟩

theorem unpublished_get (P : Option Contents → Prop) :
    Unpublished server P P (get : Work Ledger.Cache Ledger.Cache) := by
  intro c c' s s' r ran before
  obtain ⟨-, rfl⟩ : (.ok c = r ∧ c = c') ∧ s = s' := by simpa using ran
  exact ⟨rfl, fun _ _ => before⟩

theorem unpublished_modify (P : Option Contents → Prop) (f : Ledger.Cache → Ledger.Cache) :
    Unpublished server P P (modify f : Work Ledger.Cache PUnit) := by
  intro c c' s s' r ran before
  obtain ⟨-, rfl⟩ : (.ok ⟨⟩ = r ∧ f c = c') ∧ s = s' := by simpa using ran
  exact ⟨rfl, fun _ _ => before⟩

theorem unpublished_ofResult (P : Option Contents → Prop) (result : Except Failure α) :
    Unpublished server P P (Work.ofResult result) := by
  intro c c' s s' r ran before
  obtain ⟨-, rfl⟩ : (result = r ∧ c = c') ∧ s = s' := by simpa using ran
  exact ⟨rfl, fun _ _ => before⟩

theorem unpublished_bind {P Q R : Option Contents → Prop} {x : Work Ledger.Cache α}
    {k : α → Work Ledger.Cache β} (first : Unpublished server P Q x)
    (second : ∀ a, Unpublished server Q R (k a)) : Unpublished server P R (x >>= k) := by
  intro c c' s s' r ran before
  rcases Work.runOn_bind_cases ran with ⟨e, failed, rfl⟩ | ⟨a, c₁, s₁, done, ran⟩
  · exact ⟨(first failed before).1, by simp⟩
  · obtain ⟨same, between⟩ := first done before
    obtain ⟨same', after⟩ := second a ran (between a rfl)
    exact ⟨same'.trans same, after⟩

theorem idle_fetch (sql : String) (params : List Value) :
    Idle server (Work.fetch sql params) := by
  intro c c' s s' r ran idle
  rw [Work.runOn_fetch] at ran
  obtain ⟨⟨rfl, rfl⟩, rfl⟩ :
      ((server.fetch sql params s).1 = r ∧ c = c') ∧ (server.fetch sql params s).2 = s' := by
    simpa using ran
  obtain ⟨same, closed⟩ := server.fetch_keeps (s := s) rfl
  exact ⟨same, fun _ _ => closed idle⟩

theorem inside_execute {sql : String} {params : List Value} {f : Contents → Contents}
    (effect : Effect l sql params f) : Inside server f (Work.execute sql params) := by
  intro w c c' s s' r ran opened
  obtain ⟨answered, rfl⟩ := Work.of_runOn_execute ran
  cases r with
  | error e => exact ⟨server.refusal_publishes_nothing answered, by simp⟩
  | ok n =>
    obtain ⟨same, copy⟩ := server.effect_inside effect answered opened
    exact ⟨same, fun _ _ => copy⟩

theorem inside_record (name : String) (batch : Int) :
    Inside server (·.withRow name batch) (l.record name batch) := fun w =>
  unpublished_bind server (inside_execute server (.record name batch) w) fun _ =>
    unpublished_modify server _ _

theorem inside_forget (name : String) :
    Inside server (·.withoutRows name) (discard (l.forget name)) := fun w =>
  have removal : Unpublished server (· = some w) (· = some (w.withoutRows name))
      (l.forget name) :=
    unpublished_bind server (inside_execute server (.forget name) w) fun n =>
      unpublished_bind server (unpublished_modify server _ _) fun _ => unpublished_pure server _ n
  unpublished_bind server removal fun _ => unpublished_pure server _ ()

/-- The statements of a script, as far as they are accepted, change the working copy only. -/
theorem inside_sendAll {statements : List String}
    (schema : ∀ sql ∈ statements, IsSchemaStatement sql) :
    Inside server (·.withSchema statements) (sendAll statements) := by
  induction statements with
  | nil =>
    intro w
    dsimp only
    rw [Contents.withSchema_nil]
    exact unpublished_pure server _ ()
  | cons sql rest ih =>
    intro w c c' s s' r ran opened
    have one := inside_execute server (.schema (schema sql List.mem_cons_self)) w
    have others := ih (fun sql member => schema sql (List.mem_cons_of_mem _ member))
      (w.withSchema [sql])
    rcases sent : Work.runOn server.toServer (Work.execute sql []) c s with ⟨⟨answer, c₁⟩, s₁⟩
    obtain ⟨same, copy⟩ := one sent opened
    unfold sendAll at ran
    rw [Work.runOn_bind_ok (Work.runOn_attempt sent)] at ran
    cases answer with
    | error e =>
      obtain ⟨⟨rfl, rfl⟩, rfl⟩ : (.error (attachStatement sql e) = r ∧ c₁ = c') ∧ s₁ = s' := by
        simpa using ran
      exact ⟨same, by simp⟩
    | ok n =>
      obtain ⟨same', copy'⟩ := others ran (copy n rfl)
      refine ⟨same'.trans same, fun a done => ?_⟩
      simpa using copy' a done

/-- A transaction publishes its statements together with the last piece of work, or nothing. -/
theorem atomic_transact {statements : List String} {last : Work Ledger.Cache Unit}
    {f : Contents → Contents} (schema : ∀ sql ∈ statements, IsSchemaStatement sql)
    (final : Inside server f last) :
    Atomic server (fun d => f (d.withSchema statements))
      (transact (l.dialect.wrap statements) last) := by
  intro c c' s s' r ran idle
  unfold transact at ran
  dsimp only [Dialect.wrap] at ran
  have block : Inside server (fun d => f (d.withSchema statements))
      (sendAll statements *> last) := fun w =>
    unpublished_bind server (inside_sendAll server schema w) fun _ => final _
  rcases Work.runOn_bind_cases ran with ⟨e, refused, rfl⟩ | ⟨n, c₁, s₁, start, ran⟩
  · exact server.refusal_publishes_nothing (Work.of_runOn_execute refused).1
  obtain ⟨started, rfl⟩ := Work.of_runOn_execute start
  obtain ⟨same, copy⟩ := server.start_opens started idle
  rcases body : Work.runOn server.toServer (sendAll statements *> last) c s₁ with
    ⟨⟨answer, c₂⟩, s₂⟩
  obtain ⟨same₂, copy₂⟩ := block _ body copy
  rw [Work.runOn_bind_ok (Work.runOn_attempt body)] at ran
  cases answer with
  | error e =>
    rcases undo : Work.runOn server.toServer (Work.execute "ROLLBACK;" []) c₂ s₂ with
      ⟨⟨answer, c₃⟩, s₃⟩
    obtain ⟨undone, rfl⟩ := Work.of_runOn_execute undo
    dsimp only at ran
    rw [Work.runOn_bind_ok (Work.runOn_attempt undo)] at ran
    obtain ⟨⟨rfl, rfl⟩, rfl⟩ : (.error e = r ∧ c₂ = c') ∧ s₃ = s' := by simpa using ran
    -- the rollback may be refused as well
    have same₃ : server.committed s₃ = server.committed s₂ := by
      cases answer with
      | error _ => exact server.refusal_publishes_nothing undone
      | ok _ => exact (server.rollback_discards undone).1
    exact same₃.trans (same₂.trans same)
  | ok a =>
    dsimp only at ran
    rcases Work.runOn_bind_cases ran with ⟨e, refused, rfl⟩ | ⟨n, c₃, s₃, published, ran⟩
    · have same₃ := server.refusal_publishes_nothing (Work.of_runOn_execute refused).1
      exact same₃.trans (same₂.trans same)
    · obtain ⟨⟨rfl, rfl⟩, rfl⟩ : (.ok () = r ∧ c₃ = c') ∧ s₃ = s' := by simpa using ran
      exact server.commit_publishes (Work.of_runOn_execute published).1 (copy₂ a rfl)

/-- A loop of transactions publishes the first so many of them; if it succeeds, all. -/
theorem forM_publishes_prefix {ι : Type} {step : ι → Work Ledger.Cache Unit}
    (effect : Contents → ι → Contents) (items : List ι)
    (atomic : ∀ i ∈ items, Atomic server (effect · i) (step i)) {c c' : Ledger.Cache} {s s' : σ}
    {r : Except Failure PUnit}
    (ran : Work.runOn server.toServer (items.forM step) c s = ((r, c'), s'))
    (idle : server.working s = none) :
    ∃ k, k ≤ items.length ∧
      server.committed s' = (items.take k).foldl effect (server.committed s) ∧
      ∀ a, r = .ok a → k = items.length := by
  induction items generalizing c s with
  | nil =>
    obtain ⟨⟨rfl, rfl⟩, rfl⟩ : (.ok ⟨⟩ = r ∧ c = c') ∧ s = s' := by simpa using ran
    exact ⟨0, le_rfl, rfl, fun _ _ => rfl⟩
  | cons i rest ih =>
    rw [List.forM_eq_forM, List.forM_cons] at ran
    rcases Work.runOn_bind_cases ran with ⟨e, failed, rfl⟩ | ⟨_, c₁, s₁, done, ran⟩
    · have nothing := atomic i List.mem_cons_self failed idle
      exact ⟨0, Nat.zero_le _, nothing, by simp⟩
    · obtain ⟨shown, closed⟩ := atomic i List.mem_cons_self done idle
      obtain ⟨k, bound, published, all⟩ :=
        ih (fun j member => atomic j (List.mem_cons_of_mem _ member)) ran closed
      refine ⟨k + 1, Nat.succ_le_succ bound, ?_, fun a done => ?_⟩
      · rw [published, shown]
        rfl
      · rw [all a done, List.length_cons]

end Transaction

section Preparation

variable (server : Transactional l σ)

theorem idle_nextBatch : Idle server l.nextBatch := by
  refine unpublished_bind server (unpublished_get server _) fun cache => ?_
  cases cache.batch with
  | some batch => exact unpublished_pure server _ batch
  | none =>
    refine unpublished_bind server (idle_fetch server _ _) fun rows => ?_
    refine unpublished_bind server (unpublished_ofResult server _ _) fun batch => ?_
    exact unpublished_bind server (unpublished_modify server _ _) fun _ =>
      unpublished_pure server _ batch

/-- A change of the schema outside of a transaction is published at once. -/
theorem executed_outside {sql : String} (schema : IsSchemaStatement sql) {c c' : Ledger.Cache}
    {s s' : σ} {r : Except Failure Nat}
    (ran : Work.runOn server.toServer (Work.execute sql []) c s = ((r, c'), s'))
    (idle : server.working s = none) :
    c = c' ∧ match r with
      | .ok _ => server.committed s' = (server.committed s).withSchema [sql] ∧
          server.working s' = none
      | .error _ => server.committed s' = server.committed s := by
  obtain ⟨answered, rfl⟩ := Work.of_runOn_execute ran
  cases r with
  | error e => exact ⟨rfl, server.refusal_publishes_nothing answered⟩
  | ok n => exact ⟨rfl, server.effect_outside (.schema schema) answered idle⟩

/-- Making sure of the ledger table publishes its creation at most, and then its repair. -/
theorem ensure_publishes {c c' : Ledger.Cache} {s s' : σ} {r : Except Failure Unit}
    (ran : Work.runOn server.toServer l.ensure c s = ((r, c'), s'))
    (idle : server.working s = none) :
    ∃ repair, repair <+: [l.createStatement, l.addBatchColumn] ∧
      server.committed s' = (server.committed s).withSchema repair ∧
      ∀ a, r = .ok a → c' = c ∧ server.working s' = none := by
  unfold Ledger.ensure at ran
  rcases Work.runOn_bind_cases ran with ⟨e, refused, rfl⟩ | ⟨n, c₁, s₁, created, ran⟩
  · obtain ⟨-, same⟩ := executed_outside server l.createStatement_schema refused idle
    exact ⟨[], List.nil_prefix, by simpa using same, by simp⟩
  obtain ⟨rfl, shown, closed⟩ := executed_outside server l.createStatement_schema created idle
  have one : [l.createStatement] <+: [l.createStatement, l.addBatchColumn] := by simp
  rcases Work.runOn_bind_cases ran with ⟨e, refused, rfl⟩ | ⟨columns, c₂, s₂, asked, ran⟩
  · obtain ⟨same, -⟩ := idle_fetch server _ _ refused closed
    exact ⟨_, one, same.trans shown, by simp⟩
  obtain ⟨same, closed₂⟩ := idle_fetch server _ _ asked closed
  obtain rfl : c = c₂ := (Prod.mk.inj (Prod.mk.inj asked).1).2
  by_cases missing : columns.isEmpty = true
  · rw [if_pos missing] at ran
    rcases Work.runOn_bind_cases ran with ⟨e, refused, rfl⟩ | ⟨n, c₃, s₃, repaired, ran⟩
    · obtain ⟨-, same₃⟩ :=
        executed_outside server l.addBatchColumn_schema refused (closed₂ columns rfl)
      exact ⟨_, one, same₃.trans (same.trans shown), by simp⟩
    obtain ⟨rfl, shown₃, closed₃⟩ :=
      executed_outside server l.addBatchColumn_schema repaired (closed₂ columns rfl)
    obtain ⟨⟨rfl, rfl⟩, rfl⟩ : (.ok () = r ∧ c = c') ∧ s₃ = s' := by simpa using ran
    refine ⟨_, List.prefix_refl _, ?_, fun _ _ => ⟨rfl, closed₃⟩⟩
    rw [shown₃, same, shown, Contents.withSchema_withSchema]
    rfl
  · rw [if_neg missing] at ran
    obtain ⟨⟨rfl, rfl⟩, rfl⟩ : (.ok () = r ∧ c = c') ∧ s₂ = s' := by simpa using ran
    exact ⟨_, one, same.trans shown, fun _ _ => ⟨rfl, closed₂ columns rfl⟩⟩

/-- The names that a server without an open transaction answers are those of the committed rows. -/
theorem split_finds {names : List String} {c' : Ledger.Cache} {s s' : σ}
    {r : Except Failure (List String × List String)}
    (ran : Work.runOn server.toServer (Collection.split l names) {} s = ((r, c'), s'))
    (idle : server.working s = none) :
    server.committed s' = server.committed s ∧
      ∀ parts, r = .ok parts → server.working s' = none ∧
        parts = (Collection.held ((server.committed s).rows.map Prod.fst) names,
          Collection.pending ((server.committed s).rows.map Prod.fst) names) := by
  cases names with
  | nil =>
    obtain ⟨⟨rfl, -⟩, rfl⟩ : (.ok ([], []) = r ∧ {} = c') ∧ s = s' := by
      simpa [Collection.split] using ran
    exact ⟨rfl, fun parts found => ⟨idle, (Except.ok.inj found).symm⟩⟩
  | cons name rest =>
    rw [Collection.split_cons] at ran
    rcases asked : server.fetch l.namesQuery [] s with ⟨answer, s₁⟩
    obtain ⟨same, closed⟩ := server.fetch_keeps asked
    cases answer with
    | error e =>
      rw [Work.runOn_bind_error (Ledger.runOn_applied_error asked none)] at ran
      obtain ⟨⟨rfl, rfl⟩, rfl⟩ : (.error e = r ∧ ⟨none, none⟩ = c') ∧ s₁ = s' := by simpa using ran
      exact ⟨same, by simp⟩
    | ok rows =>
      have cells : rows.map (·.byIndex 0) =
          ((server.committed s).rows.map Prod.fst).map fun name => .ok (.text name) := by
        rw [server.names_visible asked, idle, Option.getD_none, List.map_map]
        rfl
      obtain ⟨known, found, members⟩ := Ledger.namesOfRows_texts cells
      rw [Work.runOn_bind_ok (Ledger.runOn_applied_ok asked found none)] at ran
      obtain ⟨⟨rfl, rfl⟩, rfl⟩ :
          (.ok (Collection.held known (name :: rest), Collection.pending known (name :: rest)) = r ∧
            ⟨none, some known⟩ = c') ∧ s₁ = s' := by
        simpa using ran
      refine ⟨same, fun parts done => ⟨closed idle, ?_⟩⟩
      rw [← Except.ok.inj done, Collection.held_congr members, Collection.pending_congr members]

/-- What a run does before it looks at its files publishes the creation or the repair of the ledger
table; then it goes on with the files that the committed rows name and those that they do not. -/
theorem preparation_publishes {names : List String} {k : List String × List String →
    Work Ledger.Cache β} {c' : Ledger.Cache} {s s' : σ} {r : Except Failure β}
    (ran : Work.runOn server.toServer (do
      l.ensure
      let parts ← Collection.split l names
      k parts) {} s = ((r, c'), s'))
    (idle : server.working s = none) :
    ∃ repair, repair <+: [l.createStatement, l.addBatchColumn] ∧
      ((∃ e, r = .error e ∧ server.committed s' = (server.committed s).withSchema repair) ∨
        ∃ c₁ s₁, server.working s₁ = none ∧
          server.committed s₁ = (server.committed s).withSchema repair ∧
          Work.runOn server.toServer
            (k (Collection.held ((server.committed s).rows.map Prod.fst) names,
              Collection.pending ((server.committed s).rows.map Prod.fst) names)) c₁ s₁ =
            ((r, c'), s')) := by
  rcases Work.runOn_bind_cases ran with ⟨e, failed, rfl⟩ | ⟨_, c₀, s₀, ensured, ran⟩
  · obtain ⟨repair, part, shown, -⟩ := ensure_publishes server failed idle
    exact ⟨repair, part, .inl ⟨e, rfl, shown⟩⟩
  obtain ⟨repair, part, shown, ready⟩ := ensure_publishes server ensured idle
  obtain ⟨rfl, closed⟩ := ready _ rfl
  refine ⟨repair, part, ?_⟩
  rcases Work.runOn_bind_cases ran with ⟨e, failed, rfl⟩ | ⟨parts, c₁, s₁, parted, ran⟩
  · exact .inl ⟨e, rfl, (split_finds server failed closed).1.trans shown⟩
  · obtain ⟨same, found⟩ := split_finds server parted closed
    obtain ⟨closed₁, rfl⟩ := found parts rfl
    rw [shown, Contents.rows_withSchema] at ran
    exact .inr ⟨c₁, s₁, closed₁, same.trans shown, ran⟩

end Preparation

namespace Collection

variable (c : Collection) (server : Transactional c.ledger σ) (files : Tree)

/-- Sending a file and recording it is one step. -/
theorem atomic_applyScript {name : String} {script : Script} (batch : Int)
    (found : c.script files .up name = .ok script) :
    Atomic server (·.withApplied batch (name, script))
      (applyScript c.ledger batch (name, script)) := by
  obtain ⟨statements, rfl, schema⟩ := script_schema found
  exact atomic_transact server schema (inside_record server name batch)

/-- Sending a file back and removing it from the ledger is one step. -/
theorem atomic_rollBackScript {name : String} {script : Script}
    (found : c.script files .down name = .ok script) :
    Atomic server (·.withRolledBack (name, script)) (rollBackScript c.ledger (name, script)) := by
  obtain ⟨statements, rfl, schema⟩ := script_schema found
  exact atomic_transact server schema (inside_forget server name)

/-- The loop over the scripts of some files publishes the scripts of the first of them. -/
theorem sending_publishes {direction : Direction} {names : List String}
    {scripts : List (String × Script)} {step : String × Script → Work Ledger.Cache Unit}
    (effect : Contents → String × Script → Contents)
    (compiled : c.scripts files direction names = .ok scripts)
    (atomic : ∀ name script, c.script files direction name = .ok script →
      Atomic server (effect · (name, script)) (step (name, script)))
    {outcome : α} {c₁ c' : Ledger.Cache} {s₁ s' : σ} {r : Except Failure α}
    (ran : Work.runOn server.toServer (do scripts.forM step; return outcome) c₁ s₁ = ((r, c'), s'))
    (closed : server.working s₁ = none) :
    ∃ k sent, c.scripts files direction (names.take k) = .ok sent ∧
      server.committed s' = sent.foldl effect (server.committed s₁) ∧
      ∀ a, r = .ok a → k = names.length := by
  have each : ∀ file ∈ scripts, Atomic server (effect · file) (step file) := fun file member =>
    atomic file.1 file.2 (script_of_mem compiled file member)
  rcases Work.runOn_bind_cases ran with ⟨e, failed, rfl⟩ | ⟨_, c₂, s₂, looped, ran⟩
  · obtain ⟨k, -, published, -⟩ := forM_publishes_prefix server effect scripts each failed closed
    exact ⟨k, scripts.take k, scripts_take compiled k, published, by simp⟩
  · obtain ⟨k, -, published, all⟩ := forM_publishes_prefix server effect scripts each looped closed
    obtain ⟨⟨rfl, rfl⟩, rfl⟩ : (.ok outcome = r ∧ c₂ = c') ∧ s₂ = s' := by simpa using ran
    refine ⟨k, scripts.take k, scripts_take compiled k, published, fun _ _ => ?_⟩
    rw [all _ rfl, ← names_of_scripts compiled, List.length_map]

/-- A run over some files publishes a first part of the pending ones. -/
theorem applyFiles_publishes {names : List String} {c' : Ledger.Cache} {s s' : σ}
    {r : Except Failure ApplyOutcome}
    (ran : Work.runOn server.toServer (c.applyFiles files names) {} s = ((r, c'), s'))
    (idle : server.working s = none) :
    ∃ repair batch k scripts,
      repair <+: [c.ledger.createStatement, c.ledger.addBatchColumn] ∧
      c.scripts files .up ((pending ((server.committed s).rows.map Prod.fst) names).take k) =
        .ok scripts ∧
      server.committed s' =
        scripts.foldl (·.withApplied batch ·) ((server.committed s).withSchema repair) ∧
      ∀ outcome, r = .ok outcome →
        k = (pending ((server.committed s).rows.map Prod.fst) names).length := by
  obtain ⟨repair, part, ⟨e, rfl, shown⟩ | ⟨c₁, s₁, closed, shown, rest⟩⟩ :=
    preparation_publishes server ran idle
  · exact ⟨repair, 0, 0, [], part, rfl, shown, by simp⟩
  refine ⟨repair, ?_⟩
  generalize pending ((server.committed s).rows.map Prod.fst) names = todo at rest ⊢
  dsimp only at rest
  by_cases nothing : todo.isEmpty = true
  · rw [if_pos nothing] at rest
    obtain rfl : todo = [] := by simpa using nothing
    obtain ⟨-, rfl⟩ := Prod.mk.inj rest
    exact ⟨0, 0, [], part, rfl, shown, by simp⟩
  rw [if_neg nothing] at rest
  cases compiled : c.scripts files .up todo with
  | error e =>
    rw [compiled, Work.runOn_bind_error (Work.runOn_ofResult _ _ _ _)] at rest
    obtain ⟨⟨rfl, rfl⟩, rfl⟩ : (.error e = r ∧ c₁ = c') ∧ s₁ = s' := by simpa using rest
    exact ⟨0, 0, [], part, rfl, shown, by simp⟩
  | ok scripts =>
    rw [compiled, Work.runOn_bind_ok (Work.runOn_ofResult _ _ _ _)] at rest
    rcases Work.runOn_bind_cases rest with ⟨e, failed, rfl⟩ | ⟨batch, c₂, s₂, numbered, rest⟩
    · obtain ⟨same, -⟩ := idle_nextBatch server failed closed
      exact ⟨0, 0, [], part, rfl, same.trans shown, by simp⟩
    · obtain ⟨same, closed₂⟩ := idle_nextBatch server numbered closed
      obtain ⟨k, sent, found, published, all⟩ :=
        sending_publishes c server files (·.withApplied batch ·) compiled
          (fun _ _ => atomic_applyScript c server files batch) rest (closed₂ batch rfl)
      rw [same, shown] at published
      exact ⟨batch, k, sent, part, found, published, all⟩

/-- A run back over some files publishes the removal of a first part of the recorded ones. -/
theorem rollBackFiles_publishes {names : List String} {c' : Ledger.Cache} {s s' : σ}
    {r : Except Failure RollbackOutcome}
    (ran : Work.runOn server.toServer (c.rollBackFiles files names) {} s = ((r, c'), s'))
    (idle : server.working s = none) :
    ∃ repair k scripts,
      repair <+: [c.ledger.createStatement, c.ledger.addBatchColumn] ∧
      c.scripts files .down ((held ((server.committed s).rows.map Prod.fst) names).take k) =
        .ok scripts ∧
      server.committed s' =
        scripts.foldl (·.withRolledBack ·) ((server.committed s).withSchema repair) ∧
      ∀ outcome, r = .ok outcome →
        k = (held ((server.committed s).rows.map Prod.fst) names).length := by
  obtain ⟨repair, part, ⟨e, rfl, shown⟩ | ⟨c₁, s₁, closed, shown, rest⟩⟩ :=
    preparation_publishes server ran idle
  · exact ⟨repair, 0, [], part, rfl, shown, by simp⟩
  refine ⟨repair, ?_⟩
  generalize held ((server.committed s).rows.map Prod.fst) names = todo at rest ⊢
  dsimp only at rest
  cases compiled : c.scripts files .down todo with
  | error e =>
    rw [compiled, Work.runOn_bind_error (Work.runOn_ofResult _ _ _ _)] at rest
    obtain ⟨⟨rfl, rfl⟩, rfl⟩ : (.error e = r ∧ c₁ = c') ∧ s₁ = s' := by simpa using rest
    exact ⟨0, [], part, rfl, shown, by simp⟩
  | ok scripts =>
    rw [compiled, Work.runOn_bind_ok (Work.runOn_ofResult _ _ _ _)] at rest
    obtain ⟨k, sent, found, published, all⟩ :=
      sending_publishes c server files (·.withRolledBack ·) compiled
        (fun _ _ => atomic_rollBackScript c server files) rest closed
    rw [shown] at published
    exact ⟨k, sent, part, found, published, all⟩

/-- Against any server with transactions, and whatever calls it refuses, a run publishes the scripts
and ledger changes of the first so many files that it has to treat, completely, and nothing of the
others; when it succeeds these are all of them. The end of the connection changes nothing of this.
The creation or the repair of the ledger table itself is published besides. -/
theorem runs_publish_whole_files (target : Option String) (s : σ)
    (idle : server.working s = none) :
    (∃ repair batch k scripts,
      repair <+: [c.ledger.createStatement, c.ledger.addBatchColumn] ∧
      c.scripts files .up ((pending ((server.committed s).rows.map Prod.fst)
        (c.considered files target)).take k) = .ok scripts ∧
      (let run := (c.apply files target).run server.toServer s
      server.committed run.2 =
        scripts.foldl (·.withApplied batch ·) ((server.committed s).withSchema repair) ∧
      server.committed (server.close run.2).2 = server.committed run.2 ∧
      ∀ outcome, run.1 = .ok outcome → k = (pending ((server.committed s).rows.map Prod.fst)
        (c.considered files target)).length)) ∧
    (∃ repair k scripts,
      repair <+: [c.ledger.createStatement, c.ledger.addBatchColumn] ∧
      c.scripts files .down ((held ((server.committed s).rows.map Prod.fst)
        (c.considered files target)).take k) = .ok scripts ∧
      (let run := (c.rollBack files target).run server.toServer s
      server.committed run.2 =
        scripts.foldl (·.withRolledBack ·) ((server.committed s).withSchema repair) ∧
      server.committed (server.close run.2).2 = server.committed run.2 ∧
      ∀ outcome, run.1 = .ok outcome → k = (held ((server.committed s).rows.map Prod.fst)
        (c.considered files target)).length)) := by
  have ended : ∀ s' : σ, server.committed (server.close s').2 = server.committed s' :=
    fun _ => (server.close_discards rfl).1
  constructor
  · rcases c.apply_cases files target with ⟨empty, same | ⟨e, same⟩⟩ | same
    · rw [same, empty]
      exact ⟨[], 0, 0, [], List.nil_prefix, rfl, (Contents.withSchema_nil _).symm, ended _,
        fun _ _ => rfl⟩
    · rw [same]
      refine ⟨[], 0, 0, [], List.nil_prefix, rfl, (Contents.withSchema_nil _).symm, ended _, ?_⟩
      exact fun _ done => nomatch done
    · rw [same, Work.run_fst_session]
      obtain ⟨repair, batch, k, scripts, part, found, published, all⟩ :=
        applyFiles_publishes c server files rfl idle
      exact ⟨repair, batch, k, scripts, part, found, published, ended _, all⟩
  · rcases c.rollBack_cases files target with ⟨-, same⟩ | ⟨-, e, same⟩ | same
    · rw [same]
      refine ⟨[], 0, [], List.nil_prefix, rfl, (Contents.withSchema_nil _).symm, ended _, ?_⟩
      exact fun _ done => nomatch done
    · rw [same]
      refine ⟨[], 0, [], List.nil_prefix, rfl, (Contents.withSchema_nil _).symm, ended _, ?_⟩
      exact fun _ done => nomatch done
    · rw [same, Work.run_fst_session]
      obtain ⟨repair, k, scripts, part, found, published, all⟩ :=
        rollBackFiles_publishes c server files rfl idle
      exact ⟨repair, k, scripts, part, found, published, ended _, all⟩

/-- The commit of the second file is refused, and then the end of the connection. -/
theorem second_commit_refused :
    let server := Scheduled.transactional sample.ledger
    let s : Scheduled :=
      { refusals := List.replicate 11 none ++ List.replicate 3 (some (.statementFailed "" none)) }
    server.working s = none ∧
      ∃ repair batch k scripts,
        repair <+: [sample.ledger.createStatement, sample.ledger.addBatchColumn] ∧
        sample.scripts sampleFiles .up ((pending [] (sample.considered sampleFiles none)).take k) =
          .ok scripts ∧
        (let run := (sample.apply sampleFiles none).run server.toServer s
        server.committed run.2 = scripts.foldl (·.withApplied batch ·) ⟨repair, []⟩ ∧
        server.committed (server.close run.2).2 = server.committed run.2 ∧
        ∀ outcome, run.1 = .ok outcome →
          k = (pending [] (sample.considered sampleFiles none)).length) := by
  intro server s
  exact ⟨rfl, (runs_publish_whole_files sample server sampleFiles none s rfl).1⟩

end Collection

end SchemaSeed.Migration
