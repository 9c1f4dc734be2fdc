import Mathlib
import SchemaSeed.Migration.Run
import SchemaSeed.Proofs.Sql.Running

/-!
Which files a run considers, and which of them it finds in the ledger. Both kinds of run ask for the
names in the ledger once, and only if there is a file to look for; asking again is answered from the
cache.
-/

set_option autoImplicit false
set_option relaxedAutoImplicit false

namespace SchemaSeed.Migration

open SchemaSeed.Sql SchemaSeed.Files

variable {α σ : Type}

namespace Ledger

/-- Without a cache the query for names is sent, and a readable answer is kept. -/
theorem applied_fresh (l : Ledger) (batch : Option Int) :
    l.applied ⟨batch, none⟩ = .fetch l.namesQuery [] fun answer =>
      match answer >>= namesOfRows with
      | .ok names => .done (.ok names, ⟨batch, some names⟩)
      | .error e => .done (.error e, ⟨batch, none⟩) := by
  refine congrArg (Session.fetch l.namesQuery []) (funext fun answer => ?_)
  cases answer with
  | error e => rfl
  | ok rows =>
    change Session.bind (Session.bind (.done (namesOfRows rows, _)) _) _ =
      match namesOfRows rows with
      | .ok names => _
      | .error e => _
    cases namesOfRows rows with
    | error e => rfl
    | ok names => rfl

/-- Asking for the names twice is asking once. -/
theorem applied_twice (l : Ledger) (f : List String → List String → Work Cache α) :
    (do let a ← l.applied; let b ← l.applied; f a b) = (do let a ← l.applied; f a a) := by
  funext cache
  rcases cache with ⟨batch, _ | names⟩
  · change Session.bind (l.applied _) _ = Session.bind (l.applied _) _
    rw [applied_fresh]
    refine congrArg (Session.fetch l.namesQuery []) (funext fun answer => ?_)
    dsimp only
    cases answer >>= namesOfRows with
    | error e => rfl
    | ok names => rfl
  · rfl

section

variable {l : Ledger} {server : Server σ} {s s' : σ}

/-- A readable answer to the first query for names is kept. -/
theorem runOn_applied_ok {rows : List Row} {names : List String}
    (asked : server.fetch l.namesQuery [] s = (.ok rows, s')) (found : namesOfRows rows = .ok names)
    (batch : Option Int) :
    Work.runOn server l.applied ⟨batch, none⟩ s = ((.ok names, ⟨batch, some names⟩), s') := by
  have readable : (Except.ok rows >>= namesOfRows) = .ok names := found
  unfold Work.runOn Work.session
  rw [applied_fresh, Session.run, asked]
  dsimp only
  rw [readable]
  rfl

/-- A refusal of the first query for names leaves nothing to keep. -/
theorem runOn_applied_error {e : Failure}
    (asked : server.fetch l.namesQuery [] s = (.error e, s')) (batch : Option Int) :
    Work.runOn server l.applied ⟨batch, none⟩ s = ((.error e, ⟨batch, none⟩), s') := by
  unfold Work.runOn Work.session
  rw [applied_fresh, Session.run, asked]
  rfl

end

/-- A name that is put to others is among them. -/
theorem mem_addName {name other : String} {names : List String} :
    other ∈ addName name names ↔ other ∈ names ∨ other = name := by
  unfold addName
  split
  · rename_i present
    have member : name ∈ names := by simpa using present
    exact ⟨Or.inl, fun h => h.elim id fun equal => equal ▸ member⟩
  · simp

private theorem namesOfRows_from (rows : List Row) (names found : List String)
    (cells : rows.map (·.byIndex 0) = names.map fun name => .ok (.text name)) :
    ∃ known, rows.foldlM (fun names row => do
        match ← row.byIndex 0 with
        | .text name => .ok (addName name names)
        | _ => .ok names) found = Except.ok known ∧
      ∀ name, name ∈ known ↔ name ∈ found ∨ name ∈ names := by
  induction rows generalizing names found with
  | nil =>
    obtain rfl : names = [] := by simpa using cells.symm
    exact ⟨found, rfl, by simp⟩
  | cons row rows ih =>
    cases names with
    | nil => simp at cells
    | cons first names =>
      obtain ⟨cell, others⟩ : row.byIndex 0 = .ok (.text first) ∧
          rows.map (·.byIndex 0) = names.map fun name => .ok (.text name) := by
        simpa using cells
      obtain ⟨known, fold, members⟩ := ih names (addName first found) others
      refine ⟨known, ?_, fun name => ?_⟩
      · rw [List.foldlM_cons, cell]
        exact fold
      · rw [members, mem_addName, List.mem_cons, or_assoc]

/-- If the first cells of an answer are texts, exactly these are the names that it gives. -/
theorem namesOfRows_texts {rows : List Row} {names : List String}
    (cells : rows.map (·.byIndex 0) = names.map fun name => .ok (.text name)) :
    ∃ known, namesOfRows rows = .ok known ∧ ∀ name, name ∈ known ↔ name ∈ names := by
  obtain ⟨known, fold, members⟩ := namesOfRows_from rows names [] cells
  exact ⟨known, fold, fun name => by simpa using members name⟩

end Ledger

namespace Collection

/-- Those of some files that are among the names of a ledger. -/
def held (known names : List String) : List String := names.filter (· ∈ known)

/-- Those of some files that are not among the names of a ledger. -/
def pending (known names : List String) : List String := names.filter (· ∉ known)

@[simp] theorem pending_nil (known : List String) : pending known [] = [] := rfl

theorem split_known {name : String} {known : List String} (member : name ∈ known) :
    held known [name] = [name] ∧ pending known [name] = [] := by
  simp [held, pending, member]

theorem split_unknown {name : String} {known : List String} (missing : name ∉ known) :
    held known [name] = [] ∧ pending known [name] = [name] := by
  simp [held, pending, missing]

theorem held_congr {known known' : List String} (same : ∀ name, name ∈ known ↔ name ∈ known')
    (names : List String) : held known names = held known' names := by
  unfold held
  exact List.filter_congr fun name _ => by simp only [same]

theorem pending_congr {known known' : List String} (same : ∀ name, name ∈ known ↔ name ∈ known')
    (names : List String) : pending known names = pending known' names := by
  unfold pending
  exact List.filter_congr fun name _ => by simp only [same]

private theorem sorted_cons (known : List String) (name : String) (rest : List String) :
    (held known (name :: rest), pending known (name :: rest)) =
      if known.contains name then (name :: held known rest, pending known rest)
      else (held known rest, name :: pending known rest) := by
  unfold held pending
  by_cases member : name ∈ known <;> simp [member]

private theorem applied_split (l : Ledger) (names : List String)
    (f : List String → List String × List String → Work Ledger.Cache α) :
    (do let known ← l.applied; let parts ← split l names; f known parts) =
      (do let known ← l.applied; f known (held known names, pending known names)) := by
  induction names generalizing f with
  | nil => rfl
  | cons name rest ih =>
    -- the name is looked up in the names that are already at hand
    calc (do let known ← l.applied; let parts ← split l (name :: rest); f known parts)
        = (do let known ← l.applied; let again ← l.applied; let parts ← split l rest
              f known (if again.contains name then (name :: parts.1, parts.2)
                else (parts.1, name :: parts.2))) := by
            simp only [split, Ledger.isApplied, bind_assoc, pure_bind]
      _ = (do let known ← l.applied; let parts ← split l rest
              f known (if known.contains name then (name :: parts.1, parts.2)
                else (parts.1, name :: parts.2))) := Ledger.applied_twice l _
      _ = (do let known ← l.applied
              f known (if known.contains name then (name :: held known rest, pending known rest)
                else (held known rest, name :: pending known rest))) :=
            ih fun known parts => f known (if known.contains name then (name :: parts.1, parts.2)
              else (parts.1, name :: parts.2))
      _ = _ := by simp only [sorted_cons]

/-- Splitting some files needs the names in the ledger once. -/
theorem split_cons (l : Ledger) (name : String) (rest : List String) :
    split l (name :: rest) = (do
      let known ← l.applied
      return (held known (name :: rest), pending known (name :: rest))) := by
  calc split l (name :: rest)
      = (do let known ← l.applied; let parts ← split l rest
            return (if known.contains name then (name :: parts.1, parts.2)
              else (parts.1, name :: parts.2))) := by
          simp only [split, Ledger.isApplied, bind_assoc, pure_bind]
    _ = (do let known ← l.applied
            return (if known.contains name then (name :: held known rest, pending known rest)
              else (held known rest, name :: pending known rest))) :=
          applied_split l rest fun known parts =>
            return (if known.contains name then (name :: parts.1, parts.2)
              else (parts.1, name :: parts.2))
    _ = _ := by simp only [sorted_cons]

/-- The files that a run looks at: the one that is named, or else all of the directory. -/
def considered (c : Collection) (files : Tree) (target : Option String) : List String :=
  match Directory.candidates files c.directory target with
  | .ok names => names
  | .error _ => []

/-- An applying run has no files and ends before it meets the server, or it goes over the files that
it considers. -/
theorem apply_cases (c : Collection) (files : Tree) (target : Option String) :
    (c.considered files target = [] ∧
      (c.apply files target = pure (.ok {}) ∨ ∃ e, c.apply files target = pure (.error e))) ∨
      c.apply files target =
        Prod.fst <$> (c.applyFiles files (c.considered files target)).session {} := by
  unfold apply considered
  by_cases absent : (target.isNone && !files.isDirectory c.directory) = true
  · obtain ⟨untargeted, missing⟩ : target = none ∧ files.isDirectory c.directory = false := by
      simpa using absent
    rw [if_pos absent]
    refine .inl ⟨?_, .inl rfl⟩
    subst untargeted
    simp [Directory.candidates, Directory.list, missing]
  · rw [if_neg absent]
    cases Directory.candidates files c.directory target with
    | error e => exact .inl ⟨rfl, .inr ⟨e, rfl⟩⟩
    | ok names => exact .inr rfl

/-- A run back lacks its directory or has no files and ends before it meets the server, or it goes
over the files that it considers. -/
theorem rollBack_cases (c : Collection) (files : Tree) (target : Option String) :
    (files.isDirectory c.directory = false ∧
        c.rollBack files target = pure (.error (.directoryNotFound c.directory))) ∨
      (c.considered files target = [] ∧ ∃ e, c.rollBack files target = pure (.error e)) ∨
      c.rollBack files target =
        Prod.fst <$> (c.rollBackFiles files (c.considered files target)).session {} := by
  unfold rollBack considered
  by_cases absent : (!files.isDirectory c.directory) = true
  · rw [if_pos absent]
    exact .inl ⟨by simpa using absent, rfl⟩
  · rw [if_neg absent]
    cases Directory.candidates files c.directory target with
    | error e => exact .inr (.inl ⟨rfl, e, rfl⟩)
    | ok names => exact .inr (.inr rfl)

end Collection

end SchemaSeed.Migration
