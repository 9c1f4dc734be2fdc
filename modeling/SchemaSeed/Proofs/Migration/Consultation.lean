import Mathlib
import SchemaSeed.Proofs.Files.Contents
import SchemaSeed.Proofs.Files.Resolution
import SchemaSeed.Proofs.Migration.Defect
import SchemaSeed.Proofs.Migration.Outcome

/-!
Which documents a run looks into, and when. It compiles all that it is going to send before it sends
the first, and it opens no other file, so that neither the result nor the calls depend on what the
others hold.
-/

set_option autoImplicit false
set_option relaxedAutoImplicit false

namespace SchemaSeed.Migration.Collection

open SchemaSeed.Sql SchemaSeed.Files SchemaSeed.Server

/-- The failure of the first of some files that has a defect. -/
def FirstDefect (c : Collection) (files : Tree) (direction : Direction) (names : List String)
    (e : Failure) : Prop :=
  ∃ before name after, names = before ++ name :: after ∧
    (∀ earlier ∈ before, ∀ reason, ¬ Defect c files direction earlier reason) ∧
    Defect c files direction name e

/-- A place that none of some files leads to. -/
def Spares (c : Collection) (files : Tree) (names : List String) (place : List String) : Prop :=
  ∀ name ∈ names, files.resolve (Path.join c.directory name) ≠ .ok (files.home ++ place)

section

variable {c : Collection} {files : Tree} {direction : Direction} {names : List String}

/-- If one of some files has a defect, the first one that has decides. -/
theorem scripts_of_defect {name : String} {reason : Failure} (member : name ∈ names)
    (defect : Defect c files direction name reason) :
    ∃ e, c.scripts files direction names = .error e ∧ FirstDefect c files direction names e := by
  cases compiled : c.scripts files direction names with
  | ok scripts =>
    have names := names_of_scripts compiled
    rw [← names] at member
    obtain ⟨file, listed, rfl⟩ := List.mem_map.mp member
    have found := script_of_mem compiled file listed
    rw [script_eq_error_iff.mpr defect] at found
    cases found
  | error e =>
    obtain ⟨before, first, after, parts, good, bad⟩ := scripts_eq_error_iff.mp compiled
    refine ⟨e, rfl, before, first, after, parts, ?_, script_eq_error_iff.mp bad⟩
    intro earlier member reason defect
    obtain ⟨script, found⟩ := good earlier member
    rw [script_eq_error_iff.mpr defect] at found
    cases found

variable (change : List String → ByteArray → ByteArray)

theorem candidates_rewrite (directory : String) (target : Option String) :
    Directory.candidates (files.rewrite change) directory target =
      Directory.candidates files directory target := by
  unfold Directory.candidates Directory.list
  rw [Tree.isDirectory_rewrite, Tree.entries_rewrite]

/-- The scripts of some files do not depend on what stands elsewhere. -/
theorem scripts_rewrite (spared : ∀ place content, change place content ≠ content →
    c.Spares files names place) :
    c.scripts (files.rewrite change) direction names = c.scripts files direction names := by
  have each : ∀ name ∈ names,
      c.script (files.rewrite change) direction name = c.script files direction name := by
    intro name member
    have text : (files.rewrite change).readText (Path.join c.directory name) =
        files.readText (Path.join c.directory name) := by
      refine files.readText_rewrite change fun place led content => ?_
      by_contra changed
      exact spared place content changed name member led
    unfold Collection.script Directory.load Document.load
    rw [text]
  unfold scripts
  refine Traversal.mapM_congr fun name member => ?_
  rw [each name member]

variable {target : Option String} {entries : List LedgerEntry} (hasBatch : Bool)
  (calls : List Call)

/-- What a run does depends on what it does with the files that it finds in the ledger, and with
those that it does not find. -/
private theorem opening_congr {α : Type} (names : List String) (l : Ledger)
    {k k' : List String × List String → Work Ledger.Cache α}
    (same : k (held (entries.map (·.migration)) names, pending (entries.map (·.migration)) names) =
      k' (held (entries.map (·.migration)) names, pending (entries.map (·.migration)) names)) :
    Work.runOn Memory.server.recorded (do
        l.ensure
        let parts ← split l names
        k parts) {} (Memory.simulated calls ⟨l.table, entries, hasBatch⟩) =
      Work.runOn Memory.server.recorded (do
        l.ensure
        let parts ← split l names
        k' parts) {} (Memory.simulated calls ⟨l.table, entries, hasBatch⟩) := by
  obtain ⟨known, s₁, -, opened⟩ := opening_simulated entries hasBatch calls names l
  rw [opened, opened, same]

/-- An applying run does not depend on what stands where no pending file leads. -/
theorem apply_rewrite (spared : ∀ place content, change place content ≠ content →
    c.Spares files (pending (entries.map (·.migration)) (c.considered files target)) place) :
    (c.apply (files.rewrite change) target).run Memory.server.recorded
        (Memory.simulated calls ⟨c.table, entries, hasBatch⟩) =
      (c.apply files target).run Memory.server.recorded
        (Memory.simulated calls ⟨c.table, entries, hasBatch⟩) := by
  unfold considered at spared
  unfold apply
  rw [Tree.isDirectory_rewrite, candidates_rewrite]
  split
  · rfl
  cases found : Directory.candidates files c.directory target with
  | error e => rfl
  | ok names =>
    rw [found] at spared
    have same : Work.runOn Memory.server.recorded (c.applyFiles (files.rewrite change) names) {}
        (Memory.simulated calls ⟨c.table, entries, hasBatch⟩) =
        Work.runOn Memory.server.recorded (c.applyFiles files names) {}
          (Memory.simulated calls ⟨c.table, entries, hasBatch⟩) := by
      refine opening_congr hasBatch calls names c.ledger ?_
      dsimp only
      rw [scripts_rewrite change spared]
    dsimp only
    rw [Work.run_fst_session, Work.run_fst_session, same]

/-- A run back does not depend on what stands where no recorded file leads. -/
theorem rollBack_rewrite (spared : ∀ place content, change place content ≠ content →
    c.Spares files (held (entries.map (·.migration)) (c.considered files target)) place) :
    (c.rollBack (files.rewrite change) target).run Memory.server.recorded
        (Memory.simulated calls ⟨c.table, entries, hasBatch⟩) =
      (c.rollBack files target).run Memory.server.recorded
        (Memory.simulated calls ⟨c.table, entries, hasBatch⟩) := by
  unfold considered at spared
  unfold rollBack
  rw [Tree.isDirectory_rewrite, candidates_rewrite]
  split
  · rfl
  cases found : Directory.candidates files c.directory target with
  | error e => rfl
  | ok names =>
    rw [found] at spared
    have same : Work.runOn Memory.server.recorded (c.rollBackFiles (files.rewrite change) names) {}
        (Memory.simulated calls ⟨c.table, entries, hasBatch⟩) =
        Work.runOn Memory.server.recorded (c.rollBackFiles files names) {}
          (Memory.simulated calls ⟨c.table, entries, hasBatch⟩) := by
      refine opening_congr hasBatch calls names c.ledger ?_
      dsimp only
      rw [scripts_rewrite change spared]
    dsimp only
    rw [Work.run_fst_session, Work.run_fst_session, same]

theorem endsWith_of_considered {name : String} (member : name ∈ c.considered files target) :
    name.endsWith ".json" = true := by
  have candidates := c.considered_isCandidates files target
  cases target with
  | none => exact ((candidates.2 name).mp member).2.1
  | some given =>
    rw [show c.considered files (some given) = [Path.withJson given] from candidates] at member
    rw [List.mem_singleton.mp member]
    unfold Path.withJson
    split
    · assumption
    · rw [Path.endsWith_iff, String.toList_append]
      exact List.suffix_append _ _

/-- A candidate with a plain name leads to the file of that name in the directory, and to no other
file there. -/
theorem spares_of_not_mem {todo : List String}
    (part : ∀ name ∈ todo, name ∈ c.considered files target)
    (plain : ∀ name ∈ todo, '/' ∉ name.toList) {directory : List String}
    (there : files.resolve c.directory = .ok (files.home ++ directory)) {name : String}
    (other : name ∉ todo) : c.Spares files todo (directory ++ [name]) := by
  intro candidate member led
  have ending := Path.endsWith_iff.mp (endsWith_of_considered (part candidate member))
  have below := Tree.resolve_join there (plain candidate member)
    (by rintro rfl; exact absurd ending (by decide))
    (by rintro rfl; exact absurd ending (by decide))
    (by rintro rfl; exact absurd ending (by decide)) led
  rw [← List.append_assoc] at below
  obtain rfl : name = candidate := by simpa using below
  exact other member

/-- The files of the sample, all of them empty. -/
def blankFiles : Tree := sampleFiles.rewrite fun _ _ => ByteArray.empty

private theorem blank_files : blankFiles.files =
    [(["migrations", "1_a.json"], ByteArray.empty),
      (["migrations", "2_b.json"], ByteArray.empty)] := rfl

private theorem blank_isDirectory : blankFiles.isDirectory sample.directory = true := by
  unfold blankFiles
  rw [Tree.isDirectory_rewrite]
  exact sample_isDirectory

private theorem blank_resolve :
    blankFiles.resolve sample.directory = .ok (blankFiles.home ++ ["migrations"]) := by
  unfold blankFiles
  rw [Tree.resolve_rewrite]
  exact sample_resolve

private theorem mem_blank {name : String} :
    name ∈ sample.considered blankFiles none ↔ name = "1_a.json" ∨ name = "2_b.json" := by
  refine ((sample.considered_isCandidates blankFiles none).2 name).trans ⟨?_, fun member => ?_⟩
  · rintro ⟨-, -, place, content, -, file⟩
    rw [blank_files] at file
    rcases List.mem_pair.mp file with same | same
    · exact .inl (by simpa using congrArg List.getLast? (congrArg Prod.fst same))
    · exact .inr (by simpa using congrArg List.getLast? (congrArg Prod.fst same))
  · refine ⟨blank_isDirectory, ?_, ["migrations"], ByteArray.empty, blank_resolve, ?_⟩
    · rcases member with rfl | rfl <;> cbv
    · rw [blank_files]
      rcases member with rfl | rfl <;> simp

private theorem blank_defect (direction : Direction) {name : String}
    (member : name ∈ sample.considered blankFiles none) :
    ∃ e, Defect sample blankFiles direction name e := by
  have none : (sample.script blankFiles direction name).isOk = false := by
    rcases mem_blank.mp member with rfl | rfl <;> cases direction <;> decide +kernel
  cases found : sample.script blankFiles direction name with
  | error e => exact ⟨e, script_eq_error_iff.mp found⟩
  | ok script =>
    rw [found] at none
    cases none

end

end SchemaSeed.Migration.Collection
