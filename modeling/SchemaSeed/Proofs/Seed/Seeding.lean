import Mathlib
import SchemaSeed.Proofs.Seed.Calls
import SchemaSeed.Seed.Run

/-!
What is said when the seeders of a directory are run: job by job in the order of the seeders, up to
the first job that fails or the first document that cannot be loaded. Documents are loaded when their
turn comes.
-/

set_option autoImplicit false
set_option relaxedAutoImplicit false

namespace SchemaSeed.Seed

open SchemaSeed.Sql SchemaSeed.Files SchemaSeed.Factory

/-- A job of a run: what it asks for, and its factory. -/
structure Job where
  spec : Spec
  factory : Option Factory.Document

/-- What becomes of a job when its turn comes: its factory is loaded if it names one, and the job is
left out if there is none of that name. -/
inductive Loads (d : Directories) (tree : Tree) (spec : Spec) : Except Failure (Option Job) → Prop
  | plain : spec.factoryName? = none → Loads d tree spec (.ok (some ⟨spec, none⟩))
  | found {name : String} {factory : Factory.Document} : spec.factoryName? = some name →
      d.loadFactory tree name = .ok (some factory) →
        Loads d tree spec (.ok (some ⟨spec, some factory⟩))
  | missing {name : String} : spec.factoryName? = some name →
      d.loadFactory tree name = .ok none → Loads d tree spec (.ok none)
  | failed {name : String} {failure : Failure} : spec.factoryName? = some name →
      d.loadFactory tree name = .error failure → Loads d tree spec (.error failure)

/-- What the seeders at some paths ask for, one after the other, up to the first that cannot be
loaded. -/
inductive Agenda (tree : Tree) : List String → List Spec → Option Failure → Prop
  | nil : Agenda tree [] [] none
  | unreadable {path : String} {paths : List String} {failure : Failure} :
      Directories.loadSeeder tree path = .error failure →
        Agenda tree (path :: paths) [] (some failure)
  | cons {path : String} {paths : List String} {document : Document} {specs : List Spec}
      {last : Option Failure} : Directories.loadSeeder tree path = .ok document →
      Agenda tree paths specs last → Agenda tree (path :: paths) (document.specs ++ specs) last

/-- A job that was done, with what was said for it. -/
structure Done where
  job : Job
  sent : List Exchange

/-- Jobs that were done one after the other; some were left out. -/
inductive Completes {γ : Type} (e : Engine γ) (d : Directories) (tree : Tree) :
    γ → List Spec → List Done → γ → Prop
  | nil {c : γ} : Completes e d tree c [] [] c
  | skipped {c c' : γ} {spec : Spec} {specs : List Spec} {done : List Done} :
      Loads d tree spec (.ok none) → Completes e d tree c specs done c' →
        Completes e d tree c (spec :: specs) done c'
  | ran {c c₁ c' : γ} {spec : Spec} {specs : List Spec} {job : Job} {sent : List Exchange}
      {total : Summary} {done : List Done} : Loads d tree spec (.ok (some job)) →
      (e.run job.spec job.factory).Tells c sent (.ok total) c₁ →
      Completes e d tree c₁ specs done c' →
        Completes e d tree c (spec :: specs) (⟨job, sent⟩ :: done) c'

/-- How a run stops: the next job cannot be loaded or fails, or the next seeder cannot be loaded. -/
inductive Stops {γ : Type} (e : Engine γ) (d : Directories) (tree : Tree) (last : Option Failure) :
    γ → List Spec → List Exchange → Failure → γ → Prop
  | unreadable {c : γ} {failure : Failure} :
      last = some failure → Stops e d tree last c [] [] failure c
  | unloadable {c : γ} {spec : Spec} {specs : List Spec} {failure : Failure} :
      Loads d tree spec (.error failure) → Stops e d tree last c (spec :: specs) [] failure c
  | failed {c c' : γ} {spec : Spec} {specs : List Spec} {job : Job} {sent : List Exchange}
      {failure : Failure} : Loads d tree spec (.ok (some job)) →
      (e.run job.spec job.factory).Tells c sent (.error failure) c' →
        Stops e d tree last c (spec :: specs) sent failure c'

section

variable {γ : Type} {e : Engine γ} {d : Directories} {tree : Tree} {c c' : γ}
  {sent : List Exchange} {r : Except Failure Summary}

private theorem runSpec_tells {spec : Spec} (tells : (runSpec e d tree spec).Tells c sent r c') :
    (∃ failure, Loads d tree spec (.error failure) ∧ sent = [] ∧ r = .error failure ∧ c' = c) ∨
      (∃ total, Loads d tree spec (.ok none) ∧ sent = [] ∧ r = .ok total ∧ c' = c) ∨
      ∃ job result, Loads d tree spec (.ok (some job)) ∧
        (e.run job.spec job.factory).Tells c sent result c' ∧
        r = result.map fun total => total.add { specsRun := 1 } := by
  unfold runSpec at tells
  cases named : spec.factoryName? with
  | none =>
    rw [named] at tells
    obtain ⟨result, ran, rfl⟩ := Work.Tells.of_map tells
    exact .inr (.inr ⟨_, result, .plain named, ran, rfl⟩)
  | some name =>
    rw [named] at tells
    dsimp only at tells
    cases loaded : d.loadFactory tree name with
    | error failure =>
      rw [loaded] at tells
      obtain ⟨rfl, rfl, rfl⟩ := Work.Tells.of_throw tells
      exact .inl ⟨failure, .failed named loaded, rfl, rfl, rfl⟩
    | ok found =>
      rw [loaded, Work.ofResult_ok_bind] at tells
      cases found with
      | none =>
        obtain ⟨rfl, rfl, rfl⟩ := Work.Tells.of_pure tells
        exact .inr (.inl ⟨_, .missing named loaded, rfl, rfl, rfl⟩)
      | some factory =>
        obtain ⟨result, ran, rfl⟩ := Work.Tells.of_map tells
        exact .inr (.inr ⟨_, result, .found named loaded, ran, rfl⟩)

/-- A job that fails stops the run. -/
private theorem stops_of_runSpec {spec : Spec} {specs : List Spec} {failure : Failure}
    (tells : (runSpec e d tree spec).Tells c sent (.error failure) c') (last : Option Failure) :
    Stops e d tree last c (spec :: specs) sent failure c' := by
  rcases runSpec_tells tells with ⟨failure', loads, rfl, same, rfl⟩ |
    ⟨total, -, -, impossible, -⟩ | ⟨job, result, loads, did, same⟩
  · cases same
    exact .unloadable loads
  · cases impossible
  · cases result <;> cases same
    exact .failed loads did

/-- After a job that does not fail, the others go on. -/
private theorem completes_of_runSpec {spec : Spec} {total : Summary}
    (tells : (runSpec e d tree spec).Tells c sent (.ok total) c') :
    ∃ done, sent = done.flatMap Done.sent ∧ ∀ {specs done' c''},
      Completes e d tree c' specs done' c'' →
        Completes e d tree c (spec :: specs) (done ++ done') c'' := by
  rcases runSpec_tells tells with ⟨failure, -, -, impossible, -⟩ |
    ⟨total', loads, rfl, -, rfl⟩ | ⟨job, result, loads, did, same⟩
  · cases impossible
  · exact ⟨[], rfl, .skipped loads⟩
  · cases result <;> cases same
    exact ⟨[⟨job, sent⟩], by simp, .ran loads did⟩

/-- Jobs one after the other: all are done, or the run stops after some of them. -/
private theorem runSpecs_tells {specs : List Spec} {summary : Summary}
    (tells : (runSpecs e d tree specs summary).Tells c sent r c') :
    (∃ done total, Completes e d tree c specs done c' ∧ sent = done.flatMap Done.sent ∧
      r = .ok total) ∨
    ∃ before rest done c₁ last failure, specs = before ++ rest ∧
      Completes e d tree c before done c₁ ∧ Stops e d tree none c₁ rest last failure c' ∧
      sent = done.flatMap Done.sent ++ last ∧ r = .error failure := by
  induction specs generalizing summary c sent with
  | nil =>
    obtain ⟨rfl, rfl, rfl⟩ := Work.Tells.of_pure tells
    exact .inl ⟨[], summary, .nil, rfl, rfl⟩
  | cons spec specs ih =>
    unfold runSpecs at tells
    rcases tells.of_bind with ⟨failure, stopped, rfl⟩ | ⟨first, total, c₁, rest, rfl, did, later⟩
    · exact .inr ⟨[], spec :: specs, [], c, sent, failure, rfl, .nil,
        stops_of_runSpec stopped none, rfl, rfl⟩
    · obtain ⟨done, rfl, goOn⟩ := completes_of_runSpec did
      rcases ih later with ⟨done', total', others, rfl, rfl⟩ |
        ⟨before, rest', done', c₂, last, failure, rfl, others, stops, rfl, rfl⟩
      · exact .inl ⟨done ++ done', total', goOn others, List.flatMap_append.symm, rfl⟩
      · refine .inr ⟨spec :: before, rest', done ++ done', c₂, last, failure, rfl, goOn others,
          stops, ?_, rfl⟩
        rw [List.flatMap_append, List.append_assoc]

theorem Completes.append {c₁ : γ} {before specs : List Spec} {done done' : List Done}
    (first : Completes e d tree c before done c₁) (second : Completes e d tree c₁ specs done' c') :
    Completes e d tree c (before ++ specs) (done ++ done') c' := by
  induction first with
  | nil => exact second
  | skipped loads _ ih => exact .skipped loads (ih second)
  | ran loads did _ ih => exact .ran loads did (ih second)

/-- What stops the jobs of one seeder stops a run that has more. -/
private theorem Stops.extend {rest : List Spec} {failure : Failure}
    (stops : Stops e d tree none c rest sent failure c') (more : List Spec)
    (last : Option Failure) : Stops e d tree last c (rest ++ more) sent failure c' := by
  cases stops with
  | unreadable impossible => cases impossible
  | unloadable loads => exact .unloadable loads
  | failed loads did => exact .failed loads did

private theorem Agenda.exists (tree : Tree) (paths : List String) :
    ∃ specs last, Agenda tree paths specs last := by
  induction paths with
  | nil => exact ⟨[], none, .nil⟩
  | cons path paths ih =>
    obtain ⟨specs, last, agenda⟩ := ih
    cases loaded : Directories.loadSeeder tree path with
    | error failure => exact ⟨[], some failure, .unreadable loaded⟩
    | ok document => exact ⟨document.specs ++ specs, last, .cons loaded agenda⟩

/-- Seeders one after the other: all of their jobs are done, or the run stops after some of them. -/
theorem runFiles_tells {paths : List String} {summary : Summary}
    (tells : (runFiles e d tree paths summary).Tells c sent r c') :
    ∃ specs last, Agenda tree paths specs last ∧
      ((∃ done total, Completes e d tree c specs done c' ∧ last = none ∧
        sent = done.flatMap Done.sent ∧ r = .ok total) ∨
      ∃ before rest done c₁ final failure, specs = before ++ rest ∧
        Completes e d tree c before done c₁ ∧ Stops e d tree last c₁ rest final failure c' ∧
        sent = done.flatMap Done.sent ++ final ∧ r = .error failure) := by
  induction paths generalizing summary c sent with
  | nil =>
    obtain ⟨rfl, rfl, rfl⟩ := Work.Tells.of_pure tells
    exact ⟨[], none, .nil, .inl ⟨[], summary, .nil, rfl, rfl, rfl⟩⟩
  | cons path paths ih =>
    unfold runFiles at tells
    cases loaded : Directories.loadSeeder tree path with
    | error failure =>
      rw [loaded] at tells
      obtain ⟨rfl, rfl, rfl⟩ := Work.Tells.of_throw tells
      exact ⟨[], some failure, .unreadable loaded, .inr ⟨[], [], [], c', [], failure, rfl, .nil,
        .unreadable rfl, rfl, rfl⟩⟩
    | ok document =>
      rw [loaded, Work.ofResult_ok_bind] at tells
      rcases tells.of_bind with ⟨failure, stopped, rfl⟩ | ⟨first, total, c₁, rest, rfl, did, later⟩
      · obtain ⟨specs, last, agenda⟩ := Agenda.exists tree paths
        refine ⟨document.specs ++ specs, last, .cons loaded agenda, ?_⟩
        rcases runSpecs_tells stopped with ⟨_, _, _, _, impossible⟩ |
          ⟨before, rest, done, c₁, final, failure', parts, finished, stops, rfl, same⟩
        · cases impossible
        · cases same
          refine .inr ⟨before, rest ++ specs, done, c₁, final, failure, ?_, finished,
            stops.extend specs last, rfl, rfl⟩
          rw [parts, List.append_assoc]
      · rcases runSpecs_tells did with ⟨done, _, finished, rfl, -⟩ |
          ⟨_, _, _, _, _, _, _, _, _, _, impossible⟩
        · obtain ⟨specs, last, agenda, ended⟩ := ih later
          refine ⟨document.specs ++ specs, last, .cons loaded agenda, ?_⟩
          rcases ended with ⟨done', total', others, rfl, rfl, rfl⟩ |
            ⟨before, rest', done', c₂, final, failure, rfl, others, stops, rfl, rfl⟩
          · exact .inl ⟨done ++ done', total', finished.append others, rfl,
              List.flatMap_append.symm, rfl⟩
          · refine .inr ⟨document.specs ++ before, rest', done ++ done', c₂, final, failure,
              (List.append_assoc _ _ _).symm, finished.append others, stops, ?_, rfl⟩
            rw [List.flatMap_append, List.append_assoc]
        · cases impossible

end

end SchemaSeed.Seed
