import Mathlib
import SchemaSeed.Proofs.Seed.Writing
import SchemaSeed.Proofs.Server.Table
import SchemaSeed.Proofs.Sql.Running
import SchemaSeed.Proofs.Traversal
import SchemaSeed.Seed.Engine

/-!
Writing rows that are matched by a key. As long as nobody else writes, the table stays a map from
keys to rows, and a write puts its row in the place of its key.
-/

set_option autoImplicit false
set_option relaxedAutoImplicit false

namespace SchemaSeed.Seed

open SchemaSeed.Sql SchemaSeed.Server

/-- The values of a row by column; a column that the row lacks is left empty. -/
def valuesOf (row : SeedRow) : TableRow := fun column => (row.lookup column).getD .null

/-- The columns that rows are matched by are a key of rows with some columns: they are among them,
and all of them must match. Before a job writes a row it is checked that they are among the columns
of its factory, and a job without such columns only adds rows. -/
structure Upsert.IsKey (u : Upsert) (columns : List String) : Prop where
  distinct : columns.Nodup
  something : u.columns ≠ []
  among : ∀ column ∈ u.columns, column ∈ columns
  conjunctive : u.columns.length = 1 ∨ u.operator = some .and

section

variable (equality : Equality) (keys : List String)

/-- Whether a row of the table has the key of a row that is written. -/
def hasKey (row : SeedRow) (r : TableRow) : Bool := equality.sameKey keys r (valuesOf row)

/-- What the writing of a row makes of a row of the table that is there before: if it has the same
key, the written cells are put into it. -/
def replace (row : SeedRow) (r : TableRow) : TableRow :=
  if hasKey equality keys row r then r.put row else r

/-- What an update makes of a row of the table: if the row meets the condition, the written cells
are put into it. -/
def overwrite (u : Upsert) (row : SeedRow) (r : TableRow) : TableRow :=
  if equality.meets (u.condition row) r then r.put row else r

/-- No two rows of a table have the same key. -/
def OnePerKey (rows : Multiset TableRow) : Prop :=
  ∀ key : TableRow, rows.countP (fun r => equality.sameKey keys r key = true) ≤ 1

/-- What the writing of some rows makes of a table: rows whose key was not written are unchanged,
and for each key that was written there is one row, with the values that were written last. -/
structure Upserted (written : List SeedRow) (before after : Multiset TableRow) : Prop where
  unwritten : after.filter (fun r => ∀ row ∈ written, hasKey equality keys row r = false) =
    before.filter (fun r => ∀ row ∈ written, hasKey equality keys row r = false)
  last : ∀ earlier row later, written = earlier ++ row :: later →
    (∀ row' ∈ later, hasKey equality keys row' (valuesOf row) = false) →
      ∃ r, after.filter (fun r => hasKey equality keys row r = true) = {r} ∧
        ∀ cell ∈ row, r cell.1 = cell.2

end

section

variable {equality : Equality} {keys : List String} {row : SeedRow}
  {before middle after : Multiset TableRow} {written : List SeedRow}

theorem Upserted.nil : Upserted equality keys [] before before := by
  refine ⟨rfl, fun earlier row later parts => ?_⟩
  simp at parts

/-- One row is written if the row with its key is replaced or added, and nothing else changes. -/
private theorem Upserted.single {r : TableRow}
    (unwritten : after.filter (fun r => hasKey equality keys row r = false) =
      before.filter fun r => hasKey equality keys row r = false)
    (one : after.filter (fun r => hasKey equality keys row r = true) = {r})
    (agrees : ∀ cell ∈ row, r cell.1 = cell.2) : Upserted equality keys [row] before after := by
  constructor
  · simpa using unwritten
  · intro earlier row' later parts _
    obtain ⟨rfl, rfl, rfl⟩ : earlier = [] ∧ row' = row ∧ later = [] := by
      simpa [List.singleton_eq_append_iff] using parts
    exact ⟨r, one, agrees⟩

/-- A row that has the key of two written rows makes their keys the same. -/
private theorem hasKey_of_both {row' : SeedRow} {r : TableRow}
    (first : hasKey equality keys row r = true) (second : hasKey equality keys row' r = true) :
    hasKey equality keys row' (valuesOf row) = true :=
  Equality.sameKey_trans (Equality.sameKey_symm first) second

/-- What is picked out by a sharper test can be picked out of what a weaker one leaves. -/
private theorem filter_of_imp {p q : TableRow → Prop} [DecidablePred p] [DecidablePred q]
    (sharper : ∀ r, p r → q r) (rows : Multiset TableRow) :
    rows.filter p = (rows.filter q).filter p := by
  rw [Multiset.filter_filter]
  exact Multiset.filter_congr fun r _ => ⟨fun here => ⟨here, sharper r here⟩, And.left⟩

/-- After the writing of one row come the others. -/
theorem Upserted.cons (first : Upserted equality keys [row] before middle)
    (rest : Upserted equality keys written middle after) :
    Upserted equality keys (row :: written) before after := by
  have split_ (rows : Multiset TableRow) :
      rows.filter (fun r => ∀ row' ∈ row :: written, hasKey equality keys row' r = false) =
        (rows.filter fun r => ∀ row' ∈ written, hasKey equality keys row' r = false).filter
          fun r => ∀ row' ∈ [row], hasKey equality keys row' r = false := by
    rw [Multiset.filter_filter]
    exact Multiset.filter_congr fun r _ => by simp
  constructor
  · rw [split_, rest.unwritten, Multiset.filter_comm, first.unwritten, Multiset.filter_comm,
      ← split_]
  · intro earlier row' later parts different
    cases earlier with
    | nil =>
      obtain ⟨rfl, rfl⟩ := List.cons.inj parts
      obtain ⟨r, one, agrees⟩ := first.last [] row [] rfl (by simp)
      -- rows with this key are unwritten from then on
      have same := filter_of_imp (p := fun r => hasKey equality keys row r = true)
        (q := fun r => ∀ row' ∈ written, hasKey equality keys row' r = false)
        fun r here row' member => by
          by_contra both
          have found := hasKey_of_both here (by simpa using both)
          rw [different row' member] at found
          cases found
      exact ⟨r, by rw [same, rest.unwritten, ← same, one], agrees⟩
    | cons row₀ earlier =>
      obtain ⟨rfl, rfl⟩ := List.cons.inj parts
      exact rest.last earlier row' later rfl different

/-- For a key that was written, the table has the row that was written last with it. -/
theorem Upserted.lastFor (upserted : Upserted equality keys written before after) {key : TableRow}
    (found : ∃ row ∈ written, hasKey equality keys row key = true) :
    ∃ earlier row later, written = earlier ++ row :: later ∧
      hasKey equality keys row key = true ∧
      (∀ row' ∈ later, hasKey equality keys row' key = false) ∧
      ∃ r, after.filter (fun r => hasKey equality keys row r = true) = {r} ∧
        ∀ cell ∈ row, r cell.1 = cell.2 := by
  have some : (written.reverse.find? (hasKey equality keys · key)).isSome = true := by
    simpa [List.find?_isSome] using found
  obtain ⟨row, here⟩ := Option.isSome_iff_exists.mp some
  obtain ⟨has, earlier, later, parts, others⟩ := Traversal.find?_reverse_eq_some_iff.mp here
  refine ⟨earlier, row, later, parts, has, others,
    upserted.last earlier row later parts fun row' member => ?_⟩
  by_contra both
  have again : hasKey equality keys row' (valuesOf row) = true := by simpa using both
  have found : hasKey equality keys row' key = true := Equality.sameKey_trans has again
  rw [others row' member] at found
  cases found

/-- The key of a row that was written is in the table. -/
theorem Upserted.present (upserted : Upserted equality keys written before after)
    (member : row ∈ written) : ∃ r ∈ after, hasKey equality keys row r = true := by
  have own : hasKey equality keys row (valuesOf row) = true := Equality.sameKey_of_eq fun _ _ => rfl
  obtain ⟨-, row', -, -, same, -, r, one, -⟩ := upserted.lastFor ⟨row, member, own⟩
  have found : r ∈ after.filter fun r => hasKey equality keys row' r = true :=
    one ▸ Multiset.mem_singleton_self r
  obtain ⟨there, has⟩ := Multiset.mem_filter.mp found
  exact ⟨r, there, Equality.sameKey_trans has (Equality.sameKey_symm same)⟩

/-- There is still at most one row for each key. -/
theorem Upserted.onePerKey (upserted : Upserted equality keys [row] before after)
    (start : OnePerKey equality keys before) : OnePerKey equality keys after := by
  intro key
  rw [Multiset.countP_eq_card_filter]
  by_cases same : equality.sameKey keys (valuesOf row) key = true
  · obtain ⟨r, one, -⟩ := upserted.last [] row [] rfl (by simp)
    have written : after.filter (fun r => equality.sameKey keys r key = true) =
        after.filter (fun r => hasKey equality keys row r = true) :=
      Multiset.filter_congr fun r _ =>
        ⟨fun here => Equality.sameKey_trans here (Equality.sameKey_symm same),
          fun here => Equality.sameKey_trans here same⟩
    rw [written, one, Multiset.card_singleton]
  · have unwritten := filter_of_imp (p := fun r => equality.sameKey keys r key = true)
      (q := fun r => ∀ row' ∈ [row], hasKey equality keys row' r = false)
      fun r here row' member => by
        obtain rfl := List.mem_singleton.mp member
        by_contra both
        have found : hasKey equality keys row' r = true := by simpa using both
        exact same (Equality.sameKey_trans (Equality.sameKey_symm found) here)
    rw [unwritten, upserted.unwritten, ← unwritten, ← Multiset.countP_eq_card_filter]
    exact start key

section

variable {columns : List String}

private theorem lookup_of_mem (distinct : (row.map Prod.fst).Nodup) {cell : String × Value}
    (member : cell ∈ row) : row.lookup cell.1 = some cell.2 := by
  induction row with
  | nil => cases member
  | cons first rest ih =>
    obtain ⟨fresh, distinct⟩ := List.nodup_cons.mp distinct
    rcases List.mem_cons.mp member with rfl | later
    · exact List.lookup_cons_self
    · have other : cell.1 ≠ first.1 := fun same =>
        fresh (same ▸ List.mem_map_of_mem later)
      rw [List.lookup_cons, beq_eq_false_iff_ne.mpr other]
      exact ih distinct later

/-- A row into which cells were put has their values. -/
theorem put_agrees (distinct : (row.map Prod.fst).Nodup) (r : TableRow) :
    ∀ cell ∈ row, r.put row cell.1 = cell.2 := by
  intro cell member
  unfold TableRow.put
  rw [lookup_of_mem distinct member]
  rfl

/-- Other columns keep their values. -/
theorem put_of_notMem {column : String} (outside : column ∉ row.map Prod.fst) (r : TableRow) :
    r.put row column = r column := by
  have unnamed : row.lookup column = none := List.lookup_eq_none_iff.mpr fun cell member =>
    bne_iff_ne.mpr fun same => outside (same ▸ List.mem_map_of_mem member)
  unfold TableRow.put
  rw [unnamed]
  rfl

/-- The columns that are named have the first values for them. -/
theorem put_of_mem {column : String} (inside : column ∈ row.map Prod.fst) (r : TableRow) :
    r.put row column = valuesOf row column := by
  unfold TableRow.put valuesOf
  cases found : row.lookup column with
  | some v => rfl
  | none =>
    obtain ⟨cell, member, rfl⟩ := List.mem_map.mp inside
    have other := List.lookup_eq_none_iff.mp found cell member
    simp at other

/-- Cells that were put into a row are there already. -/
@[simp] theorem put_put (r : TableRow) (row : SeedRow) : (r.put row).put row = r.put row := by
  funext column
  unfold TableRow.put
  cases row.lookup column <;> rfl

/-- A row into which cells were put has their key. -/
private theorem hasKey_put (among : ∀ column ∈ keys, column ∈ row.map Prod.fst) (r : TableRow) :
    hasKey equality keys row (r.put row) = true :=
  Equality.sameKey_of_eq fun column member => put_of_mem (among column member) r

/-- A row whose key is absent is added. -/
private theorem upserted_insert (distinct : (row.map Prod.fst).Nodup)
    (among : ∀ column ∈ keys, column ∈ row.map Prod.fst)
    (absent : ∀ r ∈ before, hasKey equality keys row r = false) (defaults : TableRow) :
    Upserted equality keys [row] before (defaults.put row ::ₘ before) := by
  have own : hasKey equality keys row (defaults.put row) = true :=
    hasKey_put among defaults
  refine .single ?_ ?_ (put_agrees distinct defaults)
  · refine Multiset.filter_cons_of_neg before ?_
    rw [own]
    exact Bool.noConfusion
  · have nothing : before.filter (fun r => hasKey equality keys row r = true) = 0 :=
      Multiset.filter_eq_nil.mpr fun r member here => by
        rw [absent r member] at here
        cases here
    rw [Multiset.filter_cons_of_pos before own, nothing]
    rfl

/-- A row without the key stays. -/
theorem replace_of_absent {r : TableRow} (other : hasKey equality keys row r = false) :
    replace equality keys row r = r := by
  unfold replace
  rw [other]
  rfl

/-- A row in which cells are replaced has the keys that it had before. -/
theorem hasKey_replace (among : ∀ column ∈ keys, column ∈ row.map Prod.fst) (row' : SeedRow)
    (r : TableRow) :
    hasKey equality keys row' (replace equality keys row r) = hasKey equality keys row' r := by
  unfold replace
  split
  · rename_i here
    have same : equality.sameKey keys (r.put row) r = true :=
      Equality.sameKey_trans (hasKey_put among r) (Equality.sameKey_symm here)
    exact Bool.eq_iff_iff.mpr ⟨Equality.sameKey_trans (Equality.sameKey_symm same),
      Equality.sameKey_trans same⟩
  · rfl

/-- The row that has the key is replaced. -/
private theorem upserted_update (distinct : (row.map Prod.fst).Nodup)
    (among : ∀ column ∈ keys, column ∈ row.map Prod.fst) (start : OnePerKey equality keys before)
    (present : ∃ r ∈ before, hasKey equality keys row r = true) :
    Upserted equality keys [row] before (before.map (replace equality keys row)) := by
  have unchanged : (before.filter fun r => hasKey equality keys row r = false).map
      (replace equality keys row) = before.filter fun r => hasKey equality keys row r = false :=
    (Multiset.map_congr rfl fun r member =>
      replace_of_absent (Multiset.mem_filter.mp member).2).trans (Multiset.map_id _)
  obtain ⟨r₀, one⟩ : ∃ r₀, before.filter (fun r => hasKey equality keys row r = true) = {r₀} := by
    obtain ⟨r, member, here⟩ := present
    refine Multiset.card_eq_one.mp (le_antisymm ?_ ?_)
    · rw [← Multiset.countP_eq_card_filter]
      exact start (valuesOf row)
    · exact Multiset.card_pos.mpr fun nothing =>
        Multiset.notMem_zero r (nothing ▸ Multiset.mem_filter.mpr ⟨member, here⟩)
  have replaced : hasKey equality keys row r₀ = true := by
    have member := Multiset.mem_singleton_self r₀
    rw [← one] at member
    exact (Multiset.mem_filter.mp member).2
  refine .single ?_ ?_ (put_agrees distinct r₀)
  · rw [Multiset.filter_map]
    simp only [Function.comp_def, hasKey_replace among]
    exact unchanged
  · rw [Multiset.filter_map]
    simp only [Function.comp_def, hasKey_replace among]
    rw [one, Multiset.map_singleton, replace, if_pos replaced]

end

end

section

variable {γ σ : Type} {d : Dialect} {table : String} {u : Upsert} {columns : List String}
  {row : SeedRow}

/-- The columns that a job matches rows by are a key of the rows of its factory if it has passed its
check, unless it is content with one of several. -/
theorem Upsert.IsKey.of_validate {spec : Spec} {factory : Factory.Document}
    (valid : spec.validate (some factory) = .ok ()) (upserts : spec.upsert = some u)
    (conjunctive : u.columns.length = 1 ∨ u.operator = some .and)
    (distinct : (factory.rules.map Prod.fst).Nodup) : u.IsKey (factory.rules.map Prod.fst) := by
  have named : (factory.rules.map fun cell => (cell.1, Value.null)).map Prod.fst =
      factory.rules.map Prod.fst := by simp
  have fits : u.Fits (factory.rules.map fun cell => (cell.1, Value.null)) :=
    .of_validate valid upserts named
  exact ⟨distinct, fits.something, fun column member => named ▸ fits.inRow column member,
    conjunctive⟩

private theorem Upsert.IsKey.fits (isKey : u.IsKey columns)
    (listed : (row.map Prod.fst).Perm columns) : u.Fits row where
  something := isKey.something
  inRow column member := listed.mem_iff.mpr (isKey.among column member)
  operator several := by
    rcases isKey.conjunctive with one | both
    · omega
    · rw [both]
      rfl

/-- The condition for the rows that a new row is to replace tells whether a row has its key. -/
private theorem Upsert.IsKey.meets (isKey : u.IsKey columns) (equality : Equality) (r : TableRow) :
    equality.meets (u.condition row) r = hasKey equality u.columns row r := by
  have whole : ((cellsIn row u.columns).map fun cell => Comparison.of cell.1 cell.2).all
      (equality.holds r) = hasKey equality u.columns row r := by
    unfold cellsIn hasKey Equality.sameKey
    rw [List.all_map, List.all_map]
    exact List.all_congr rfl fun column => Equality.holds_of r column _
  unfold Upsert.condition Equality.meets joinedBy
  rcases isKey.conjunctive with one | both
  · obtain ⟨column, single⟩ := List.length_eq_one_iff.mp one
    rw [single] at whole ⊢
    cases u.operator.getD .and <;> simpa [cellsIn] using whole
  · rw [both]
    simpa using whole

/-- If all match columns count, the rows that meet the condition are those with the key. -/
private theorem Upsert.IsKey.overwrite_eq (isKey : u.IsKey columns) (equality : Equality) :
    overwrite equality u row = replace equality u.columns row := by
  funext r
  unfold overwrite replace
  rw [isKey.meets]

section

variable {server : Server σ} {e : Engine γ} {s s₁ s₂ : σ} {c : γ} {count call : Call}
  {answer : Row} {found : Int} {n : Nat}

private theorem runOn_send (sent : server.execute call.sql call.params s = (.ok n, s₁)) :
    Work.runOn server (Engine.send call : Work γ Unit) c s = ((.ok (), c), s₁) := by
  have first : Work.runOn server (Work.execute call.sql call.params : Work γ Nat) c s =
      ((.ok n, c), s₁) := by
    rw [Work.runOn_execute, sent]
  exact Work.runOn_bind_ok first _

/-- A write counts first, and then updates or inserts. -/
private theorem runOn_writeRow (counted : Statement.count e.dialect table row u = .ok count)
    (fetched : server.fetch count.sql count.params s = (.ok [answer], s₁))
    (cell : answer.byIndex 0 = .ok (.int64 found)) :
    Work.runOn server (e.writeRow table row (some u)) c s =
      Work.runOn server (if 0 < found then do
        Engine.send (← Work.ofResult (Statement.update e.dialect table row u))
        return .updated
      else do
        Engine.send (Statement.insert e.dialect table row)
        return .inserted) c s₁ := by
  have asked : Work.runOn server (Work.fetch count.sql count.params : Work γ (List Row)) c s =
      ((.ok [answer], c), s₁) := by
    rw [Work.runOn_fetch, fetched]
  have read : Engine.existing [answer] = .ok found := by
    unfold Engine.existing
    dsimp only
    rw [cell]
    rfl
  unfold Engine.writeRow
  dsimp only
  rw [counted, Work.runOn_bind_ok (Work.runOn_ofResult _ _ _ _), Work.runOn_bind_ok asked, read,
    Work.runOn_bind_ok (Work.runOn_ofResult _ _ _ _)]

end

section

variable (server : TableServer d table σ) {e : Engine γ} (dialect : e.dialect = d)
  (fits : u.Fits row) {s : σ} (c : γ)
include dialect fits

/-- What a write is told by its count: how many rows meet the condition. Nothing changes by that. -/
private theorem count_answered : ∃ count answer s₁,
    Statement.count e.dialect table row u = .ok count ∧
      server.fetch count.sql count.params s = (.ok [answer], s₁) ∧
      server.rows s₁ = server.rows s ∧
      answer.byIndex 0 = .ok (.int64 ((server.rows s).countP
        (server.equality.meets (u.condition row) · = true))) := by
  subst dialect
  obtain ⟨count, counted, ⟨-, counts⟩, -⟩ := count_denotes e.dialect table fits
  obtain ⟨answer, s₁, fetched, same, cell⟩ := server.counts s counts
  exact ⟨count, answer, s₁, counted, fetched, same, cell⟩

/-- A write puts the cells of its row into the rows that meet the condition, if there are some. -/
theorem writeRow_overwrites (distinct : (row.map Prod.fst).Nodup)
    (present : ∃ r ∈ server.rows s, server.equality.meets (u.condition row) r = true) :
    ∃ s', Work.runOn server.toServer (e.writeRow table row (some u)) c s =
        ((.ok .updated, c), s') ∧
      server.rows s' = (server.rows s).map (overwrite server.equality u row) := by
  obtain ⟨count, answer, s₁, counted, fetched, same, cell⟩ :=
    count_answered server dialect fits (s := s)
  have some : (0 : Int) < (server.rows s).countP
      (fun r => server.equality.meets (u.condition row) r = true) := by
    exact_mod_cast Multiset.countP_pos.mpr present
  subst dialect
  obtain ⟨update, updated, ⟨-, updates⟩, -⟩ := update_denotes e.dialect table fits
  obtain ⟨n, s₂, sent, rows⟩ := server.updates s₁ updates distinct
  refine ⟨s₂, ?_, rows.trans (congrArg _ same)⟩
  rw [runOn_writeRow counted fetched cell, if_pos some, updated,
    Work.runOn_bind_ok (Work.runOn_ofResult _ _ _ _), Work.runOn_bind_ok (runOn_send sent)]
  rfl

/-- A write adds its row if no row meets the condition; the server fills the other columns. -/
theorem writeRow_adds (distinct : (row.map Prod.fst).Nodup)
    (absent : ∀ r ∈ server.rows s, server.equality.meets (u.condition row) r = false) :
    ∃ s' defaults, Work.runOn server.toServer (e.writeRow table row (some u)) c s =
        ((.ok .inserted, c), s') ∧
      server.rows s' = TableRow.put defaults row ::ₘ server.rows s := by
  obtain ⟨count, answer, s₁, counted, fetched, same, cell⟩ :=
    count_answered server dialect fits (s := s)
  have none : ¬ (0 : Int) < (server.rows s).countP
      (fun r => server.equality.meets (u.condition row) r = true) := by
    have nothing := Multiset.countP_eq_zero.mpr fun r member =>
      Bool.eq_false_iff.mp (absent r member)
    rw [nothing]
    decide
  subst dialect
  obtain ⟨⟨-, inserts⟩, -⟩ := insert_denotes e.dialect table row
  obtain ⟨n, s₂, defaults, sent, rows⟩ := server.inserts s₁ inserts distinct
  refine ⟨s₂, defaults, ?_, by rw [rows, same]⟩
  rw [runOn_writeRow counted fetched cell, if_neg none, Work.runOn_bind_ok (runOn_send sent)]
  rfl

end

section

variable (server : TableServer d table σ) {e : Engine γ} (dialect : e.dialect = d)
  (isKey : u.IsKey columns) (listed : (row.map Prod.fst).Perm columns) {s : σ} (c : γ)
include dialect isKey listed

/-- A write whose key is in the table puts the cells of its row into the rows with the key. -/
theorem writeRow_updates
    (present : ∃ r ∈ server.rows s, hasKey server.equality u.columns row r = true) :
    ∃ s', Work.runOn server.toServer (e.writeRow table row (some u)) c s =
        ((.ok .updated, c), s') ∧
      server.rows s' = (server.rows s).map (replace server.equality u.columns row) := by
  simp only [← isKey.meets server.equality] at present
  rw [← isKey.overwrite_eq]
  exact writeRow_overwrites server dialect (isKey.fits listed) c
    (listed.nodup_iff.mpr isKey.distinct) present

/-- A write whose key is not in the table adds its row; the server fills the other columns. -/
theorem writeRow_inserts
    (absent : ∀ r ∈ server.rows s, hasKey server.equality u.columns row r = false) :
    ∃ s' defaults, Work.runOn server.toServer (e.writeRow table row (some u)) c s =
        ((.ok .inserted, c), s') ∧
      server.rows s' = TableRow.put defaults row ::ₘ server.rows s := by
  simp only [← isKey.meets server.equality] at absent
  exact writeRow_adds server dialect (isKey.fits listed) c
    (listed.nodup_iff.mpr isKey.distinct) absent

/-- A write succeeds, and puts its row in the place of its key. It tells that it has added a row
exactly if the key was absent. -/
theorem writeRow_upserts
    (start : OnePerKey server.equality u.columns (server.rows s)) :
    ∃ outcome s', Work.runOn server.toServer (e.writeRow table row (some u)) c s =
        ((.ok outcome, c), s') ∧
      Upserted server.equality u.columns [row] (server.rows s) (server.rows s') ∧
      (outcome = .inserted ↔
        ∀ r ∈ server.rows s, hasKey server.equality u.columns row r = false) := by
  have distinct : (row.map Prod.fst).Nodup := listed.nodup_iff.mpr isKey.distinct
  have among : ∀ column ∈ u.columns, column ∈ row.map Prod.fst := (isKey.fits listed).inRow
  by_cases present : ∃ r ∈ server.rows s, hasKey server.equality u.columns row r = true
  · obtain ⟨s', ran, rows⟩ := writeRow_updates server dialect isKey listed c present
    refine ⟨.updated, s', ran, ?_, ?_⟩
    · rw [rows]
      exact upserted_update distinct among start present
    · obtain ⟨r, member, here⟩ := present
      refine iff_of_false (by simp) fun absent => ?_
      rw [absent r member] at here
      cases here
  · have absent : ∀ r ∈ server.rows s, hasKey server.equality u.columns row r = false := by
      simpa using present
    obtain ⟨s', defaults, ran, rows⟩ := writeRow_inserts server dialect isKey listed c absent
    refine ⟨.inserted, s', ran, ?_, iff_of_true rfl absent⟩
    rw [rows]
    exact upserted_insert distinct among absent defaults

end

/-- Rows are written one after the other, each on what the others have left. -/
private theorem writeRows_upsert (server : TableServer d table σ) (e : Engine γ)
    (dialect : e.dialect = d) (isKey : u.IsKey columns) {written : List SeedRow}
    (listed : ∀ row ∈ written, (row.map Prod.fst).Perm columns) (s : σ)
    (start : OnePerKey server.equality u.columns (server.rows s)) (c : γ) :
    ∃ outcomes s', Work.runOn server.toServer
        (written.mapM fun row => e.writeRow table row (some u)) c s = ((.ok outcomes, c), s') ∧
      Upserted server.equality u.columns written (server.rows s) (server.rows s') ∧
      OnePerKey server.equality u.columns (server.rows s') := by
  induction written generalizing s with
  | nil => exact ⟨[], s, rfl, .nil, start⟩
  | cons row rest ih =>
    obtain ⟨first, others⟩ := List.forall_mem_cons.mp listed
    obtain ⟨outcome, s₁, ran, one, -⟩ := writeRow_upserts server dialect isKey first c start
    obtain ⟨outcomes, s₂, ran', all, kept⟩ := ih others s₁ (one.onePerKey start)
    refine ⟨outcome :: outcomes, s₂, ?_, one.cons all, kept⟩
    rw [List.mapM_cons, Work.runOn_bind_ok ran, Work.runOn_bind_ok ran']
    rfl

/-- Rows that are matched by a key are written into a table as into a map. From a table with at most
one row for each key, every write succeeds; after any number of them there is still at most one row
for each key, rows whose key was not written are unchanged, and each key that was written has the
values that were written last. The next write tells that it has added a row exactly if no row had
its key before. -/
theorem writes_keep_one_row_per_key (server : TableServer d table σ) (e : Engine γ)
    (dialect : e.dialect = d) (isKey : u.IsKey columns) (written : List SeedRow)
    (listed : ∀ row ∈ written, (row.map Prod.fst).Perm columns)
    (next : SeedRow) (alike : (next.map Prod.fst).Perm columns) (s : σ)
    (start : OnePerKey server.equality u.columns (server.rows s)) (c : γ) :
    ∃ outcomes s₁ outcome s₂,
      Work.runOn server.toServer (written.mapM fun row => e.writeRow table row (some u)) c s =
        ((.ok outcomes, c), s₁) ∧
      OnePerKey server.equality u.columns (server.rows s₁) ∧
      Upserted server.equality u.columns written (server.rows s) (server.rows s₁) ∧
      Work.runOn server.toServer (e.writeRow table next (some u)) c s₁ = ((.ok outcome, c), s₂) ∧
      (outcome = .inserted ↔
        ∀ r ∈ server.rows s₁, hasKey server.equality u.columns next r = false) := by
  obtain ⟨outcomes, s₁, ran, all, kept⟩ := writeRows_upsert server e dialect isKey listed s start c
  obtain ⟨outcome, s₂, ran', -, told⟩ := writeRow_upserts server dialect isKey alike c kept
  exact ⟨outcomes, s₁, outcome, s₂, ran, kept, all, ran', told⟩

/-- A missing address is a key like any other: the second row without one replaces the first. -/
theorem missing_key_replaced :
    let server := Bag.tableServer .postgres "users"
    let e : Engine Unit := ⟨.postgres, fun _ => pure .null⟩
    let u : Upsert := ⟨["email"], none⟩
    let ada : SeedRow := [("email", .text "ada"), ("name", .text "Ada")]
    let nobody : SeedRow := [("email", .null), ("name", .text "N. N.")]
    let again : SeedRow := [("email", .text "ada"), ("name", .text "Lovelace")]
    let other : SeedRow := [("email", .null), ("name", .text "Anon")]
    u.IsKey ["email", "name"] ∧
      (∀ row ∈ [ada, nobody, again], (row.map Prod.fst).Perm ["email", "name"]) ∧
      OnePerKey server.equality u.columns (server.rows 0) ∧
      ∃ outcomes s₁ s₂,
        Work.runOn server.toServer
          ([ada, nobody, again].mapM fun row => e.writeRow "users" row (some u)) () 0 =
            ((.ok outcomes, ()), s₁) ∧
        Upserted server.equality u.columns [ada, nobody, again] (server.rows 0) (server.rows s₁) ∧
        Work.runOn server.toServer (e.writeRow "users" other (some u)) () s₁ =
          ((.ok .updated, ()), s₂) := by
  intro server e u ada nobody again other
  have isKey : u.IsKey ["email", "name"] :=
    ⟨by decide, by decide, by decide, .inl rfl⟩
  have listed : ∀ row ∈ [ada, nobody, again], (row.map Prod.fst).Perm ["email", "name"] := by
    intro row member
    fin_cases member <;> exact .refl _
  have start : OnePerKey server.equality u.columns (server.rows 0) := fun key =>
    (Multiset.countP_zero _).trans_le zero_le_one
  obtain ⟨outcomes, s₁, outcome, s₂, ran, -, all, ran', told⟩ :=
    writes_keep_one_row_per_key server e rfl isKey _ listed other (.refl _) 0 start ()
  refine ⟨isKey, listed, start, outcomes, s₁, s₂, ran, all, ?_⟩
  obtain ⟨r, one, -⟩ := all.last [ada] nobody [again] rfl (by decide)
  cases outcome with
  | updated => exact ran'
  | inserted =>
    have found : r ∈ (server.rows s₁).filter
        (fun r => hasKey server.equality u.columns nobody r = true) := by
      rw [one]
      exact Multiset.mem_singleton_self r
    obtain ⟨member, here⟩ := Multiset.mem_filter.mp found
    have absent : hasKey server.equality u.columns nobody r = false := told.mp rfl r member
    rw [here] at absent
    cases absent

end

end SchemaSeed.Seed
