import Mathlib
import SchemaSeed.Proofs.Migration.SchemaStatement
import SchemaSeed.Proofs.Traversal

/-!
The scripts of some files. They are there for all files, in order, or the first file without one
tells why.
-/

set_option autoImplicit false
set_option relaxedAutoImplicit false

namespace SchemaSeed.Migration.Collection

open SchemaSeed.Sql SchemaSeed.Files

variable {c : Collection} {files : Tree} {direction : Direction}

/-- A file that has a script holds a document whose section compiles to it. -/
theorem script_eq_ok {name : String} {script : Script}
    (found : c.script files direction name = .ok script) :
    ∃ document, Directory.load files c.directory name = .ok document ∧
      document.compile c.dialect direction = .ok script := by
  unfold Collection.script at found
  cases loaded : Directory.load files c.directory name with
  | error e =>
    rw [loaded] at found
    cases found
  | ok document =>
    rw [loaded] at found
    change (document.compile c.dialect direction).mapError _ = .ok script at found
    cases compiled : document.compile c.dialect direction with
    | error e =>
      rw [compiled] at found
      cases found
    | ok script' =>
      rw [compiled] at found
      exact ⟨document, rfl, compiled.trans (congrArg Except.ok (Except.ok.inj found))⟩

/-- The script of a file is a transaction around the statements of some operations. -/
theorem script_wraps {name : String} {script : Script}
    (found : c.script files direction name = .ok script) :
    ∃ ops : List Operation,
      script = c.dialect.wrap (ops.flatMap (Operation.statements c.dialect)) := by
  obtain ⟨document, -, compiled⟩ := script_eq_ok found
  unfold Document.compile at compiled
  cases section_ : document.operations direction with
  | error e =>
    rw [section_] at compiled
    cases compiled
  | ok ops =>
    rw [section_] at compiled
    exact ⟨ops, compile_wraps compiled⟩

/-- The script of a file is a transaction around changes of the schema. -/
theorem script_schema {name : String} {script : Script}
    (found : c.script files direction name = .ok script) :
    ∃ statements, script = c.dialect.wrap statements ∧
      ∀ sql ∈ statements, IsSchemaStatement sql := by
  obtain ⟨ops, rfl⟩ := script_wraps found
  refine ⟨_, rfl, fun sql member => ?_⟩
  obtain ⟨op, -, statement⟩ := List.mem_flatMap.mp member
  exact op.statements_schema c.dialect sql statement

/-- Every statement of a script ends with a semicolon. -/
theorem script_terminated {name : String} {script : Script}
    (found : c.script files direction name = .ok script) :
    ∀ sql ∈ script.statements, ∃ words, sql = words ++ ";" := by
  obtain ⟨ops, rfl⟩ := script_wraps found
  intro sql member
  obtain ⟨op, -, statement⟩ := List.mem_flatMap.mp member
  exact op.statements_terminated c.dialect sql statement

theorem scripts_nil : c.scripts files direction [] = .ok [] := rfl

/-- Scripts are given file by file. -/
theorem scripts_eq_ok_iff {names : List String} {scripts : List (String × Script)} :
    c.scripts files direction names = .ok scripts ↔
      List.Forall₂ (fun name file => file.1 = name ∧ c.script files direction name = .ok file.2)
        names scripts := by
  have named (name : String) (file : String × Script) :
      (name, ·) <$> c.script files direction name = .ok file ↔
        file.1 = name ∧ c.script files direction name = .ok file.2 := by
    cases c.script files direction name with
    | error e => exact ⟨(nomatch ·), fun found => nomatch found.2⟩
    | ok script =>
      constructor
      · intro found
        obtain rfl := Except.ok.inj found
        exact ⟨rfl, rfl⟩
      · rintro ⟨rfl, found⟩
        obtain rfl := Except.ok.inj found
        rfl
  unfold Collection.scripts
  rw [Traversal.mapM_eq_ok_iff]
  exact ⟨fun all => all.imp fun _ _ => (named _ _).mp, fun all => all.imp fun _ _ => (named _ _).mpr⟩

/-- The scripts carry the names of their files. -/
theorem names_of_scripts {names : List String} {scripts : List (String × Script)}
    (all : c.scripts files direction names = .ok scripts) : scripts.map Prod.fst = names := by
  have pairs := scripts_eq_ok_iff.mp all
  clear all
  induction pairs with
  | nil => rfl
  | cons first _ ih => rw [List.map_cons, first.1, ih]

/-- The first of some files have the first of their scripts. -/
theorem scripts_take {names : List String} {scripts : List (String × Script)}
    (all : c.scripts files direction names = .ok scripts) (k : Nat) :
    c.scripts files direction (names.take k) = .ok (scripts.take k) :=
  scripts_eq_ok_iff.mpr (List.forall₂_take k (scripts_eq_ok_iff.mp all))

/-- Each of the scripts is the script of the file that it is named for. -/
theorem script_of_mem {names : List String}
    {scripts : List (String × Script)} (all : c.scripts files direction names = .ok scripts) :
    ∀ file ∈ scripts, c.script files direction file.1 = .ok file.2 := by
  have pairs := scripts_eq_ok_iff.mp all
  clear all
  induction pairs with
  | nil => simp
  | cons first _ ih =>
    intro file member
    rcases List.mem_cons.mp member with rfl | later
    · exact first.1 ▸ first.2
    · exact ih file later

/-- There are no scripts exactly if a file has none, and the first such file tells why. -/
theorem scripts_eq_error_iff {names : List String} {e : Failure} :
    c.scripts files direction names = .error e ↔
      ∃ before name after, names = before ++ name :: after ∧
        (∀ earlier ∈ before, ∃ script, c.script files direction earlier = .ok script) ∧
        c.script files direction name = .error e := by
  have failed (name : String) : (name, ·) <$> c.script files direction name = .error e ↔
      c.script files direction name = .error e := by
    cases c.script files direction name with
    | error e' =>
      exact ⟨fun same => congrArg Except.error (Except.error.inj same),
        fun same => congrArg Except.error (Except.error.inj same)⟩
    | ok script => exact ⟨(nomatch ·), (nomatch ·)⟩
  have given (name : String) :
      (∃ file, (name, ·) <$> c.script files direction name = .ok file) ↔
        ∃ script, c.script files direction name = .ok script := by
    cases c.script files direction name with
    | error e' =>
      constructor
      · rintro ⟨_, found⟩
        cases found
      · rintro ⟨_, found⟩
        cases found
    | ok script => exact ⟨fun _ => ⟨script, rfl⟩, fun _ => ⟨(name, script), rfl⟩⟩
  unfold Collection.scripts
  rw [Traversal.mapM_eq_error_iff]
  simp only [failed, given]

/-- A collection with two files, for examples. -/
def sample : Collection where
  dialect := .postgres
  directory := "migrations"

/-- A document that drops one table, and another one on the way back. -/
def sampleDocument (forward back : String) : ByteArray :=
  ("\x7b\"migrations\": [\x7b\"action\": \"drop\", \"table\": \"" ++ forward ++ "\"\x7d], " ++
    "\"rollback\": [\x7b\"action\": \"drop\", \"table\": \"" ++ back ++ "\"\x7d]\x7d").toUTF8

/-- The files of the example. -/
def sampleFiles : Tree where
  files :=
    [(["migrations", "1_a.json"], sampleDocument "users" "guests"),
      (["migrations", "2_b.json"], sampleDocument "posts" "drafts")]
  distinct := by decide

theorem sample_isDirectory : sampleFiles.isDirectory sample.directory = true := by decide +kernel

theorem sample_resolve :
    sampleFiles.resolve sample.directory = .ok (sampleFiles.home ++ ["migrations"]) := by
  decide +kernel

private theorem sample_loads : Directory.load sampleFiles sample.directory "1_a.json" =
    .ok ⟨some [.drop { table := "users" }], some [.drop { table := "guests" }]⟩ := by
  decide +kernel

/-- Forwards and backwards, one table is dropped. -/
theorem sample_scripts (direction : Direction) : ∃ statement, StartsWith "DROP " statement ∧
    sample.scripts sampleFiles direction ["1_a.json"] =
      .ok [("1_a.json", sample.dialect.wrap [statement])] := by
  have found : ∃ op : DropTable, sample.script sampleFiles direction "1_a.json" =
      .ok (sample.dialect.wrap [Clause.dropTable sample.dialect op]) := by
    unfold Collection.script
    rw [sample_loads]
    cases direction <;> exact ⟨_, rfl⟩
  obtain ⟨op, compiled⟩ := found
  exact ⟨_, dropTable_start sample.dialect op, scripts_eq_ok_iff.mpr (.cons ⟨rfl, compiled⟩ .nil)⟩

end SchemaSeed.Migration.Collection
