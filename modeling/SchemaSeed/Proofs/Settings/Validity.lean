import Mathlib
import SchemaSeed.Command.Context
import SchemaSeed.Proofs.Settings.Assembly

/-!
Settings that are valid. A command that names no kind of database gets the one whose settings were
checked, and what it connects to is the URL of a host, of a scheme for that kind.
-/

set_option autoImplicit false
set_option relaxedAutoImplicit false

namespace SchemaSeed

open SchemaSeed.Sql

/-- The names of a kind of database in lower case. -/
def Sql.Dialect.names : Dialect → List String
  | .postgres => ["pg", "postgres", "postgresql"]
  | .mysql => ["mysql"]

/-- The kind of database that a name stands for to a command. -/
theorem Sql.Dialect.ofName_eq_ok_iff {kind : String} {d : Dialect} :
    Dialect.ofName kind = .ok d ↔ Text.lowercase (Text.trim kind) ∈ d.names := by
  unfold ofName ofName?
  dsimp only
  generalize Text.lowercase (Text.trim kind) = name
  by_cases first : name = "pg" ∨ name = "postgresql" ∨ name = "postgres"
  · rw [if_pos first]
    cases d with
    | postgres => exact iff_of_true rfl (by rcases first with rfl | rfl | rfl <;> decide)
    | mysql => exact iff_of_false (by rintro ⟨⟩) (by rcases first with rfl | rfl | rfl <;> decide)
  · rw [if_neg first]
    by_cases second : name = "mysql"
    · rw [if_pos second]
      cases d with
      | postgres => exact iff_of_false (by rintro ⟨⟩) (by rw [second]; decide)
      | mysql => exact iff_of_true rfl (by rw [second]; decide)
    · rw [if_neg second]
      refine iff_of_false (by rintro ⟨⟩) ?_
      cases d with
      | postgres => simpa [names, and_comm] using first
      | mysql => simpa [names] using second

/-- All dialects are at hand. -/
theorem Sql.Registry.get_standard (d : Dialect) : Registry.standard.get d = .ok d := by
  cases d <;> rfl

namespace Settings

/-- The settings that a name stands for. -/
theorem database_eq_ok_iff {s : Settings} {kind : String} {selected : DatabaseSettings} :
    s.database kind = .ok selected ↔
      ∃ d : Dialect, Text.lowercase (Text.trim kind) ∈ d.names ∧ s.forDialect d = selected := by
  unfold database
  generalize Text.lowercase (Text.trim kind) = name
  constructor
  · intro found
    split at found
    · exact ⟨.postgres, by decide, Except.ok.inj found⟩
    · exact ⟨.postgres, by decide, Except.ok.inj found⟩
    · exact ⟨.postgres, by decide, Except.ok.inj found⟩
    · exact ⟨.mysql, by decide, Except.ok.inj found⟩
    · cases found
  · rintro ⟨d, among, rfl⟩
    cases d with
    | postgres =>
      simp only [Dialect.names, List.mem_cons, List.not_mem_nil, or_false] at among
      rcases among with rfl | rfl | rfl <;> rfl
    | mysql =>
      obtain rfl := List.mem_singleton.mp among
      rfl

/-! ### Settings that are read -/

theorem of_readDatabase {get : Lookup} {d : Dialect} {s : DatabaseSettings}
    (read : readDatabase get d = .ok s) : s.dialect = d ∧ s.port < 65536 := by
  have standard : (DatabaseSettings.standard d).dialect = d ∧
      (DatabaseSettings.standard d).port < 65536 := by
    cases d <;> decide
  unfold readDatabase at read
  dsimp only at read
  split at read
  · obtain rfl := Except.ok.inj read
    exact standard
  · split at read
    · rename_i port small
      obtain rfl := Except.ok.inj read
      exact ⟨standard.1, of_decide_eq_true (Option.filter_eq_some_iff.mp small).2⟩
    · cases read

theorem of_read {lookup : Lookup} {s : Settings} (read : Settings.read lookup = .ok s)
    (d : Dialect) : (s.forDialect d).dialect = d ∧ (s.forDialect d).port < 65536 := by
  unfold Settings.read at read
  obtain ⟨⟨environment, key, source⟩, -, read⟩ := Traversal.bind_eq_ok_iff.mp read
  obtain ⟨postgres, first, read⟩ := Traversal.bind_eq_ok_iff.mp read
  obtain ⟨mysql, second, read⟩ := Traversal.bind_eq_ok_iff.mp read
  obtain rfl := Except.ok.inj read
  cases d with
  | postgres => exact of_readDatabase first
  | mysql => exact of_readDatabase second

/-! ### Settings that are valid -/

section

variable {s : Settings}

/-- What is checked: the settings for every kind of database, and that those for the default one
make a URL. -/
theorem of_validate (valid : s.validate = .ok ()) :
    (∀ d, checkDatabase (s.forDialect d) = .ok ()) ∧
      ∃ selected text, s.database s.defaultDatabase = .ok selected ∧ selected.url = .ok text := by
  unfold validate at valid
  obtain ⟨-, -, valid⟩ := Traversal.bind_eq_ok_iff.mp valid
  obtain ⟨selected, chosen, valid⟩ := Traversal.bind_eq_ok_iff.mp valid
  split at valid
  · cases valid
  · obtain ⟨_, first, valid⟩ := Traversal.bind_eq_ok_iff.mp valid
    obtain ⟨_, second, valid⟩ := Traversal.bind_eq_ok_iff.mp valid
    obtain ⟨text, made, -⟩ := Traversal.bind_eq_ok_iff.mp valid
    refine ⟨fun d => ?_, selected, text, chosen, made⟩
    cases d with
    | postgres => exact first
    | mysql => exact second

/-- A URL that is accepted has one of the schemes, and a host. -/
theorem of_checkUrl {schemes : List String} {text : String}
    (accepted : DatabaseSettings.checkUrl schemes text = .ok ()) :
    ∃ u, Url.parse text = .ok u ∧ u.scheme ∈ schemes ∧ u.host ≠ [] := by
  unfold DatabaseSettings.checkUrl at accepted
  split at accepted
  · cases accepted
  · rename_i u read
    split at accepted
    · cases accepted
    · split at accepted
      · cases accepted
      · rename_i among named
        exact ⟨u, read, by simpa using among, by simpa using named⟩

/-- The URL of settings that were checked is one for their kind of database, whether it was given or
made. -/
theorem url_of_checkDatabase {s : DatabaseSettings} {text : String}
    (checked : checkDatabase s = .ok ()) (isPort : s.port < 65536) (made : s.url = .ok text) :
    ∃ u, Url.parse text = .ok u ∧ u.scheme ∈ DatabaseSettings.schemes s.dialect ∧ u.host ≠ [] := by
  unfold checkDatabase at checked
  obtain ⟨-, -, checked⟩ := Traversal.bind_eq_ok_iff.mp checked
  cases parts : s.urlOverride with
  | some given =>
    rw [parts] at checked
    unfold DatabaseSettings.url at made
    rw [parts] at made
    obtain rfl := Except.ok.inj made
    exact of_checkUrl checked
  | none =>
    obtain ⟨u, assembled, rfl⟩ := DatabaseSettings.assembled_of_url parts made
    obtain ⟨read, scheme, named⟩ := DatabaseSettings.parse_assembled assembled isPort
    refine ⟨u, read, ?_, named⟩
    rw [scheme]
    cases s.dialect <;> decide

/-- The directory of a kind of database is one of its names. -/
theorem database_directory (s : Settings) (d : Dialect) :
    s.database d.directory = .ok (s.forDialect d) := by
  cases d <;> rfl

/-- Settings that are valid can be used. A command that names no kind of database gets the one that
was checked, since commands and settings know the same names, and the URL that it connects to is one
for that kind, with a host. -/
theorem valid_settings_usable {lookup : Lookup} {s : Settings}
    (read : Settings.read lookup = .ok s) (valid : s.validate = .ok ()) (root : Option String)
    (asJson : Bool) :
    (∀ d, (s.forDialect d).dialect = d) ∧
      (∀ kind d, Dialect.ofName kind = .ok d ↔ Text.lowercase (Text.trim kind) ∈ d.names) ∧
      (∀ kind selected, s.database kind = .ok selected ↔
        ∃ d, Dialect.ofName kind = .ok d ∧ s.forDialect d = selected) ∧
      ∃ c, Command.Context.make s none root asJson = .ok c ∧
        s.database s.defaultDatabase = .ok (s.forDialect c.dialect) ∧
        ∃ text u, c.url = .ok text ∧ Url.parse text = .ok u ∧
          u.scheme ∈ DatabaseSettings.schemes c.dialect ∧ u.host ≠ [] := by
  have agree (kind : String) (selected : DatabaseSettings) : s.database kind = .ok selected ↔
      ∃ d, Dialect.ofName kind = .ok d ∧ s.forDialect d = selected := by
    simp only [database_eq_ok_iff, Dialect.ofName_eq_ok_iff]
  obtain ⟨checked, selected, text, chosen, made⟩ := of_validate valid
  obtain ⟨d, named, rfl⟩ := (agree s.defaultDatabase selected).mp chosen
  obtain ⟨dialect, isPort⟩ := of_read read d
  obtain ⟨u, parsed, scheme, hosted⟩ := url_of_checkDatabase (checked d) isPort made
  rw [dialect] at scheme
  refine ⟨fun d => (of_read read d).1, fun kind d => Dialect.ofName_eq_ok_iff, agree,
    ⟨s, d, root.getD s.databaseDirectory, asJson⟩, ?_, chosen, text, u, ?_, parsed, scheme, hosted⟩
  · unfold Command.Context.make
    rw [Option.getD_none]
    exact Traversal.bind_eq_ok_iff.mpr ⟨d, named, Traversal.bind_eq_ok_iff.mpr
      ⟨d, Registry.get_standard d, rfl⟩⟩
  · unfold Command.Context.url
    rw [database_directory]
    exact Traversal.mapError_eq_ok_iff.mpr made

end

/-- Variables that name the kind of database with blanks and capitals. One kind is given by its
parts, the other by a URL. -/
def shopVariables : Lookup
  | "DEFAULT_DB_TYPE" => some " PostgreSQL "
  | "PG_HOST" => some "localhost"
  | "PG_DATABASE" => some "shop"
  | "MYSQL_DATABASE_URL" => some "mysql://root@localhost/shop"
  | _ => none

theorem shopVariables_usable :
    ∃ s, Settings.read shopVariables = .ok s ∧ s.validate = .ok () ∧
      ∃ c, Command.Context.make s none none false = .ok c ∧
        s.database s.defaultDatabase = .ok (s.forDialect c.dialect) ∧
        ∃ text u, c.url = .ok text ∧ Url.parse text = .ok u ∧
          u.scheme ∈ DatabaseSettings.schemes c.dialect ∧ u.host ≠ [] := by
  have checked : (Settings.read shopVariables).bind validate = .ok () := by rfl
  obtain ⟨s, read, valid⟩ := Traversal.bind_eq_ok_iff.mp checked
  obtain ⟨-, -, -, usable⟩ := valid_settings_usable read valid none false
  exact ⟨s, read, valid, usable⟩

end Settings

end SchemaSeed
