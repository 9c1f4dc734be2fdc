import Mathlib
import SchemaSeed.Proofs.Seed.Upserting

/-!
Writing the same row twice. A row that was written meets its own condition, and to put its cells into
it again changes nothing; so the second write finds what the first has left, and leaves it as it is.
That holds for either operator, although with `OR` a write can overwrite rows whose keys differ.
-/

set_option autoImplicit false
set_option relaxedAutoImplicit false

namespace SchemaSeed.Seed

open SchemaSeed.Sql SchemaSeed.Server

section

variable {equality : Equality} {u : Upsert} {row : SeedRow}

/-- All comparisons of the condition hold for a row into which the cells were put, be their values
missing or not. -/
theorem holds_put (fits : u.Fits row) (equality : Equality) (r : TableRow) :
    ∀ cell ∈ cellsIn row u.columns,
      equality.holds (r.put row) (Comparison.of cell.1 cell.2) = true := by
  intro cell member
  obtain ⟨column, among, rfl⟩ := List.mem_map.mp member
  rw [Equality.holds_of, put_of_mem (fits.inRow column among)]
  exact Equality.same_refl (valuesOf row column)

/-- So a row that was overwritten, or added, meets the condition, whichever the operator. -/
theorem meets_put (fits : u.Fits row) (equality : Equality) (r : TableRow) :
    equality.meets (u.condition row) (r.put row) = true := by
  have all := holds_put fits equality r
  unfold Upsert.condition Equality.meets joinedBy
  cases u.operator.getD .and with
  | and =>
    refine List.any_eq_true.mpr ⟨_, List.mem_singleton_self _, ?_⟩
    rw [List.all_map]
    exact List.all_eq_true.mpr all
  | or =>
    -- one of the comparisons is enough
    obtain ⟨column, among⟩ := List.exists_mem_of_ne_nil _ fits.something
    have first : (column, (row.lookup column).getD .null) ∈ cellsIn row u.columns :=
      List.mem_map_of_mem among
    refine List.any_eq_true.mpr ⟨_, List.mem_map_of_mem (List.mem_map_of_mem first), ?_⟩
    rw [List.all_cons, all _ first]
    rfl

theorem overwrite_of_meets {r : TableRow} (here : equality.meets (u.condition row) r = true) :
    overwrite equality u row r = r.put row := if_pos here

theorem overwrite_of_not_meets {r : TableRow}
    (other : equality.meets (u.condition row) r = false) : overwrite equality u row r = r := by
  unfold overwrite
  rw [other]
  rfl

/-- The rows that meet the condition still meet it when they have been overwritten, and no others
do. -/
theorem meets_overwrite (fits : u.Fits row) (r : TableRow) :
    equality.meets (u.condition row) (overwrite equality u row r) =
      equality.meets (u.condition row) r := by
  cases here : equality.meets (u.condition row) r with
  | true => rw [overwrite_of_meets here, meets_put fits]
  | false => rw [overwrite_of_not_meets here, here]

/-- To overwrite a row again changes nothing. -/
theorem overwrite_overwrite (fits : u.Fits row) (r : TableRow) :
    overwrite equality u row (overwrite equality u row r) = overwrite equality u row r := by
  cases here : equality.meets (u.condition row) r with
  | true =>
    rw [overwrite_of_meets here, overwrite_of_meets (meets_put fits equality r), put_put]
  | false => rw [overwrite_of_not_meets here, overwrite_of_not_meets here]

end

section

variable {γ σ : Type} {d : Dialect} {table : String} {u : Upsert} {row : SeedRow}

/-- What the first of two writes leaves: there is a row that meets the condition, and all that do
have the cells of the row that was written. -/
private theorem writeRow_leaves (server : TableServer d table σ) {e : Engine γ}
    (dialect : e.dialect = d) (fits : u.Fits row) (distinct : (row.map Prod.fst).Nodup) (s : σ)
    (c : γ) :
    ∃ outcome s₁, Work.runOn server.toServer (e.writeRow table row (some u)) c s =
        ((.ok outcome, c), s₁) ∧
      (∃ r ∈ server.rows s₁, server.equality.meets (u.condition row) r = true) ∧
      ∀ r ∈ server.rows s₁, overwrite server.equality u row r = r := by
  by_cases present : ∃ r ∈ server.rows s, server.equality.meets (u.condition row) r = true
  · obtain ⟨s₁, ran, rows⟩ := writeRow_overwrites server dialect fits c distinct present
    refine ⟨.updated, s₁, ran, ?_, ?_⟩
    · obtain ⟨r, member, here⟩ := present
      refine ⟨overwrite server.equality u row r, ?_, (meets_overwrite fits r).trans here⟩
      rw [rows]
      exact Multiset.mem_map_of_mem _ member
    · intro r member
      rw [rows] at member
      obtain ⟨r, -, rfl⟩ := Multiset.mem_map.mp member
      exact overwrite_overwrite fits r
  · have absent : ∀ r ∈ server.rows s, server.equality.meets (u.condition row) r = false := by
      simpa using present
    obtain ⟨s₁, defaults, ran, rows⟩ := writeRow_adds server dialect fits c distinct absent
    have added := meets_put fits server.equality defaults
    refine ⟨.inserted, s₁, ran, ⟨defaults.put row, ?_, added⟩, ?_⟩
    · rw [rows]
      exact Multiset.mem_cons_self _ _
    · intro r member
      rw [rows] at member
      rcases Multiset.mem_cons.mp member with rfl | other
      · rw [overwrite_of_meets added, put_put]
      · exact overwrite_of_not_meets (absent r other)

/-- Writing a row twice is writing it once, for either operator: whatever the table holds, the second
write tells that it has updated, and the table is as the first has left it. -/
theorem second_write_changes_nothing (server : TableServer d table σ) (e : Engine γ)
    (dialect : e.dialect = d) (fits : u.Fits row) (distinct : (row.map Prod.fst).Nodup) (s : σ)
    (c c' : γ) :
    ∃ outcome s₁ s₂,
      Work.runOn server.toServer (e.writeRow table row (some u)) c s = ((.ok outcome, c), s₁) ∧
      Work.runOn server.toServer (e.writeRow table row (some u)) c' s₁ =
        ((.ok .updated, c'), s₂) ∧
      server.rows s₂ = server.rows s₁ := by
  obtain ⟨outcome, s₁, ran, present, settled⟩ :=
    writeRow_leaves server dialect fits distinct s c
  obtain ⟨s₂, ran', rows⟩ := writeRow_overwrites server dialect fits c' distinct present
  refine ⟨outcome, s₁, s₂, ran, ran', ?_⟩
  rw [rows, Multiset.map_congr rfl settled, Multiset.map_id']

/-- A row without an address overwrites whoever has none, and whoever has the name; to write it once
more does no more. -/
theorem either_match_overwritten_once :
    let server := Bag.tableServer .postgres "users"
    let e : Engine Unit := ⟨.postgres, fun _ => pure .null⟩
    let u : Upsert := ⟨["email", "name"], some .or⟩
    let row : SeedRow := [("email", .null), ("name", .text "Ada"), ("age", .int32 36)]
    let nobody : TableRow := TableRow.put (fun _ => .null) [("name", .text "N. N.")]
    let ada : TableRow := TableRow.put (fun _ => .null) [("email", .text "a"), ("name", .text "Ada")]
    u.Fits row ∧ (row.map Prod.fst).Nodup ∧
      server.equality.meets (u.condition row) nobody = true ∧
      server.equality.meets (u.condition row) ada = true ∧
      ∃ outcome s₁ s₂,
        Work.runOn server.toServer (e.writeRow "users" row (some u)) () {nobody, ada} =
          ((.ok outcome, ()), s₁) ∧
        Work.runOn server.toServer (e.writeRow "users" row (some u)) () s₁ =
          ((.ok .updated, ()), s₂) ∧
        server.rows s₂ = server.rows s₁ := by
  intro server e u row nobody ada
  have fits : u.Fits row := ⟨by decide, by decide, by decide⟩
  have distinct : (row.map Prod.fst).Nodup := by decide
  exact ⟨fits, distinct, by cbv, by cbv,
    second_write_changes_nothing server e rfl fits distinct {nobody, ada} () ()⟩

end

end SchemaSeed.Seed
