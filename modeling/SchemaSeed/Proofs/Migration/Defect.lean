import Mathlib
import SchemaSeed.Migration.Run

/-!
Why a file has no script: it cannot be read, its text is no document, the document lacks the section
for the direction, or one of the operations there is invalid. The first of these reasons counts.
-/

set_option autoImplicit false
set_option relaxedAutoImplicit false

namespace SchemaSeed.Migration

open SchemaSeed.Sql SchemaSeed.Files

/-- Operations are refused for the first of them that there is an objection to. -/
theorem Operation.validateFrom_eq_error_iff {position : Nat} {ops : List Operation} {e : Failure} :
    Operation.validateFrom position ops = .error e ↔
      ∃ before op after objection, ops = before ++ op :: after ∧
        (∀ earlier ∈ before, earlier.objection? = none) ∧ op.objection? = some objection ∧
        e = Operation.invalid (position + before.length) op objection := by
  induction ops generalizing position with
  | nil => simp [validateFrom]
  | cons op rest ih =>
    unfold validateFrom
    cases first : op.objection? with
    | some objection =>
      constructor
      · intro failed
        exact ⟨[], op, rest, objection, rfl, by simp, first, (Except.error.inj failed).symm⟩
      · rintro ⟨before, op', after, objection', parts, good, bad, rfl⟩
        cases before with
        | nil =>
          obtain ⟨rfl, rfl⟩ := List.cons.inj parts
          rw [Option.some.inj (first.symm.trans bad)]
          rfl
        | cons earlier before =>
          obtain ⟨rfl, rfl⟩ := List.cons.inj parts
          rw [good op List.mem_cons_self] at first
          cases first
    | none =>
      dsimp only
      rw [ih]
      constructor
      · rintro ⟨before, op', after, objection, rfl, good, bad, rfl⟩
        refine ⟨op :: before, op', after, objection, rfl, ?_, bad, ?_⟩
        · intro earlier member
          rcases List.mem_cons.mp member with rfl | member
          · exact first
          · exact good earlier member
        · rw [List.length_cons, Nat.add_assoc, Nat.add_comm 1]
      · rintro ⟨before, op', after, objection, parts, good, bad, rfl⟩
        cases before with
        | nil =>
          obtain ⟨rfl, rfl⟩ := List.cons.inj parts
          rw [first] at bad
          cases bad
        | cons earlier before =>
          obtain ⟨rfl, rfl⟩ := List.cons.inj parts
          refine ⟨before, op', after, objection, rfl,
            fun earlier member => good earlier (List.mem_cons_of_mem _ member), bad, ?_⟩
          rw [List.length_cons, Nat.add_assoc, Nat.add_comm 1]

namespace Collection

/-- Why a file has no script for a direction, with the failure that it is. -/
inductive Defect (c : Collection) (files : Tree) (direction : Direction) (name : String) :
    Failure → Prop
  | absent (unread : files.readText (Path.join c.directory name) = .error .notFound) :
    Defect c files direction name
      (.invalidDocument ("migration file " ++ Path.join c.directory name ++ " not found"))
  | unreadable {fault : FileFault}
    (unread : files.readText (Path.join c.directory name) = .error fault)
    (other : fault ≠ .notFound) : Defect c files direction name (.file fault)
  | malformed {text : String} {fault : ReadError}
    (read : files.readText (Path.join c.directory name) = .ok text)
    (refused : Reading.ofText (Document.read .text) text = .error fault) :
    Defect c files direction name
      (.invalidDocument (Path.join c.directory name ++ ": " ++ fault.message))
  | sectionless {document : Document}
    (loaded : Directory.load files c.directory name = .ok document)
    (missing :
      (match direction with | .up => document.migrations | .down => document.rollback) = none) :
    Defect c files direction name (.invalidDocument
      (name ++ ": " ++ ("`" ++ direction.key ++ "` key not defined in migration document")))
  | invalid {document : Document} {before after : List Operation} {op : Operation}
    {objection : Objection} {reason : String}
    (loaded : Directory.load files c.directory name = .ok document)
    (listed : document.operations direction = .ok (before ++ op :: after))
    (good : ∀ earlier ∈ before, earlier.objection? = none)
    (bad : op.objection? = some objection)
    (text : Operation.invalid (before.length + 1) op objection = .invalidDocument reason) :
    Defect c files direction name (.invalidDocument (name ++ ": " ++ reason))

section

variable {c : Collection} {files : Tree} {direction : Direction} {name : String} {e : Failure}

private theorem defect_of_load (failed : Directory.load files c.directory name = .error e) :
    Defect c files direction name e := by
  unfold Directory.load Document.load at failed
  cases read : files.readText (Path.join c.directory name) with
  | error fault =>
    rw [read] at failed
    by_cases other : fault = .notFound
    · subst other
      obtain rfl := Except.error.inj failed
      exact .absent read
    · have failed : (Except.error (.file fault) : Except Failure Document) = .error e := by
        cases fault <;> first | exact absurd rfl other | exact failed
      obtain rfl := Except.error.inj failed
      exact .unreadable read other
  | ok text =>
    rw [read] at failed
    cases refused : Reading.ofText (Document.read .text) text with
    | ok document =>
      dsimp only at failed
      rw [refused] at failed
      cases failed
    | error fault =>
      dsimp only at failed
      rw [refused] at failed
      obtain rfl := Except.error.inj failed
      exact .malformed read refused

private theorem defect_of_compile {document : Document}
    (loaded : Directory.load files c.directory name = .ok document)
    (failed : (document.compile c.dialect direction).mapError (fun
      | .invalidDocument reason => .invalidDocument (name ++ ": " ++ reason)
      | other => other) = .error e) : Defect c files direction name e := by
  unfold Document.compile at failed
  cases listed : document.operations direction with
  | error f =>
    rw [listed] at failed
    unfold Document.operations at listed
    split at listed
    · cases listed
    · rename_i missing
      obtain rfl := Except.error.inj listed
      obtain rfl := Except.error.inj failed
      exact .sectionless loaded missing
  | ok ops =>
    rw [listed] at failed
    change (Migration.compile c.dialect ops).mapError _ = _ at failed
    unfold Migration.compile at failed
    cases valid : Operation.validate ops with
    | ok _ =>
      rw [valid] at failed
      cases failed
    | error f =>
      rw [valid] at failed
      obtain ⟨before, op, after, objection, rfl, good, bad, rfl⟩ :=
        Operation.validateFrom_eq_error_iff.mp valid
      obtain rfl := Except.error.inj failed
      rw [Nat.add_comm]
      exact .invalid loaded listed good bad rfl

/-- A file has no script exactly if it has a defect, and the failure is the one for the defect. -/
theorem script_eq_error_iff :
    c.script files direction name = .error e ↔ Defect c files direction name e := by
  constructor
  · intro failed
    unfold Collection.script at failed
    cases loaded : Directory.load files c.directory name with
    | error f =>
      rw [loaded] at failed
      obtain rfl := Except.error.inj failed
      exact defect_of_load loaded
    | ok document =>
      rw [loaded] at failed
      exact defect_of_compile loaded failed
  · intro defect
    unfold Collection.script
    cases defect with
    | absent unread =>
      unfold Directory.load Document.load
      rw [unread]
      rfl
    | @unreadable fault unread other =>
      unfold Directory.load Document.load
      rw [unread]
      cases fault <;> first | exact absurd rfl other | rfl
    | malformed read refused =>
      unfold Directory.load Document.load
      rw [read]
      dsimp only
      rw [refused]
      rfl
    | @sectionless document loaded missing =>
      have none : document.operations direction =
          .error (.invalidDocument
            ("`" ++ direction.key ++ "` key not defined in migration document")) := by
        unfold Document.operations
        cases direction with
        | up =>
          dsimp only at missing ⊢
          rw [missing]
        | down =>
          dsimp only at missing ⊢
          rw [missing]
      rw [loaded]
      change (document.compile c.dialect direction).mapError _ = _
      unfold Document.compile
      rw [none]
      rfl
    | @invalid document before after op objection reason loaded listed good bad text =>
      have refused :
          Operation.validate (before ++ op :: after) = .error (.invalidDocument reason) := by
        refine Operation.validateFrom_eq_error_iff.mpr
          ⟨before, op, after, objection, rfl, good, bad, ?_⟩
        rw [Nat.add_comm, text]
      rw [loaded]
      change (document.compile c.dialect direction).mapError _ = _
      unfold Document.compile
      rw [listed]
      change (Migration.compile c.dialect (before ++ op :: after)).mapError _ = _
      unfold Migration.compile
      rw [refused]
      rfl

end

end Collection

end SchemaSeed.Migration
