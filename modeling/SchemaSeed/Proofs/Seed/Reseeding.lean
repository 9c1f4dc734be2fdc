import Mathlib
import SchemaSeed.Proofs.Seed.Upserting
import SchemaSeed.Proofs.Traversal

/-!
Running the same job again with the same seed. Rows are made up before they are written, so both runs
write the same rows, whatever their counts tell them; and in the second run each key is there
already, with the values that were written last.
-/

set_option autoImplicit false
set_option relaxedAutoImplicit false

namespace SchemaSeed.Factory

/-- What a rule gives comes from the document and the random source alone: it looks nothing up, and
does not depend on the time. -/
structure Rule.SelfContained (r : Rule) : Prop where
  noLookup : r.isFake = false → ∀ members, r.custom = some (.object members) →
    (Json.object members).member? "reference_table" = none
  clockFree : r.isFake = true → ∀ tag, Tag.ofText? (r.tag.getD "") = some tag →
    tag.readsClock = false

/-- Values of most kinds do not depend on the time. -/
theorem Draw.ofTag_of_clockFree {tag : Tag} (free : tag.readsClock = false)
    (now now' : Calendar.Instant) : Draw.ofTag now tag = Draw.ofTag now' tag := by
  cases tag <;> first | rfl | cases free

theorem generator_of_clockFree {word : String}
    (free : ∀ tag, Tag.ofText? word = some tag → tag.readsClock = false)
    (now now' : Calendar.Instant) : generator now word = generator now' word := by
  unfold generator
  cases known : Tag.ofText? word with
  | none => rfl
  | some tag => exact Draw.ofTag_of_clockFree (free tag known) now now'

/-- A self-contained rule without a kind gives a literal or nothing. -/
theorem Rule.SelfContained.customValue {r : Rule} (contained : r.SelfContained)
    (given : r.isFake = false) :
    r.customValue = .ok .nothing ∨ ∃ value, r.customValue = .ok (.literal value) := by
  unfold Rule.customValue
  split
  · exact .inl rfl
  · exact .inl rfl
  · split
    · exact .inl rfl
    · exact .inr ⟨_, rfl⟩
  · rename_i members custom
    rw [contained.noLookup given members custom]
    exact .inl rfl
  · exact .inr ⟨_, rfl⟩

end SchemaSeed.Factory

namespace SchemaSeed.Sql.Work

variable {α β ι σ : Type} {P : α → Prop} {Q : β → Prop}

/-- Work that meets no server: whatever it carries along, it ends with a value of some kind. -/
def Draws (work : Work σ α) (P : α → Prop) : Prop :=
  ∀ c, ∃ a c', work.session c = .done (.ok a, c') ∧ P a

theorem draws_pure {a : α} (here : P a) : Draws (pure a : Work σ α) P := fun c =>
  ⟨a, c, rfl, here⟩

/-- Work goes on from a value that was drawn. -/
theorem session_bind {x : Work σ α} {a : α} {c c' : σ} (drawn : x.session c = .done (.ok a, c'))
    (f : α → Work σ β) : (x >>= f).session c = (f a).session c' := by
  change Session.bind (x.session c) (fun r => (ExceptT.bindCont f r.1) r.2) = _
  rw [drawn]
  rfl

theorem draws_bind {x : Work σ α} {f : α → Work σ β} (first : Draws x P)
    (second : ∀ a, P a → Draws (f a) Q) : Draws (x >>= f) Q := by
  intro c
  obtain ⟨a, c', drawn, here⟩ := first c
  obtain ⟨b, c'', drawn', there⟩ := second a here c'
  exact ⟨b, c'', (session_bind drawn f).trans drawn', there⟩

/-- Values are drawn for all items of a list. -/
theorem draws_mapM {R : ι → β → Prop} {f : ι → Work σ β} {items : List ι}
    (each : ∀ i ∈ items, Draws (f i) (R i)) : Draws (items.mapM f) (List.Forall₂ R items) := by
  induction items with
  | nil => exact draws_pure .nil
  | cons i rest ih =>
    obtain ⟨one, others⟩ := List.forall_mem_cons.mp each
    rw [List.mapM_cons]
    exact draws_bind one fun b here => draws_bind (ih others) fun bs there =>
      draws_pure (.cons here there)

/-- Work that has drawn its value is answered with it by every server. -/
theorem runOn_of_session {τ : Type} {x : Work σ α} {a : α} {c c' : σ}
    (drawn : x.session c = .done (.ok a, c')) (server : Server τ) (s : τ) :
    runOn server x c s = ((.ok a, c'), s) := by
  unfold runOn
  rw [drawn]
  rfl

end SchemaSeed.Sql.Work

namespace SchemaSeed.Seed

open SchemaSeed.Sql SchemaSeed.Factory SchemaSeed.Server

section

variable {γ : Type} {factory : Factory.Document}

private theorem cell_draws (e : Engine γ) {rule : Rule} (contained : rule.SelfContained) :
    (e.cell rule).Draws fun _ => True := by
  have value : (e.ruleValue rule).Draws fun _ => True := by
    unfold Engine.ruleValue
    cases given : rule.isFake with
    | true =>
      rw [if_pos rfl]
      exact fun c => ⟨_, _, rfl, trivial⟩
    | false =>
      rw [if_neg (by simp)]
      rcases contained.customValue given with none | ⟨value, literal⟩
      · rw [none]
        exact fun c => ⟨_, _, rfl, trivial⟩
      · rw [literal]
        exact fun c => ⟨_, _, rfl, trivial⟩
  exact Work.draws_bind value fun v _ => Work.draws_pure trivial

/-- A row of a factory of self-contained rules has a value for each of its columns. -/
private theorem buildRow_draws (e : Engine γ)
    (contained : ∀ cell ∈ factory.rules, cell.2.SelfContained) :
    (e.buildRow factory).Draws fun row => row.map Prod.fst = factory.rules.map Prod.fst := by
  intro c
  have each : ∀ cell ∈ factory.rules,
      Work.Draws (do return (cell.1, ← e.cell cell.2) : Work γ (String × Value))
        fun made => cell.1 = made.1 := fun cell member =>
    Work.draws_bind (cell_draws e (contained cell member)) fun v _ => Work.draws_pure rfl
  obtain ⟨row, c', drawn, named⟩ := Work.draws_mapM each c
  refine ⟨row, c', drawn, ?_⟩
  have names : List.Forall₂ Eq (factory.rules.map Prod.fst) (row.map Prod.fst) :=
    List.forall₂_map_left_iff.mpr (List.forall₂_map_right_iff.mpr named)
  exact (List.forall₂_eq_eq_eq ▸ names).symm

/-- Values of self-contained rules do not depend on the time. -/
private theorem cell_of_clockFree (d : Dialect) (now now' : Calendar.Instant) {rule : Rule}
    (contained : rule.SelfContained) :
    (Engine.mk d (generator now)).cell rule = (Engine.mk d (generator now')).cell rule := by
  have value : (Engine.mk d (generator now)).ruleValue rule =
      (Engine.mk d (generator now')).ruleValue rule := by
    unfold Engine.ruleValue
    split
    · rename_i fake
      unfold Engine.generate
      dsimp only
      rw [generator_of_clockFree (contained.clockFree fake) now now']
    · rfl
  unfold Engine.cell
  rw [value]

/-- Rows of such rules do not either. -/
private theorem buildRow_of_clockFree (d : Dialect) (now now' : Calendar.Instant)
    (contained : ∀ cell ∈ factory.rules, cell.2.SelfContained) :
    (Engine.mk d (generator now)).buildRow factory =
      (Engine.mk d (generator now')).buildRow factory := by
  refine Traversal.mapM_congr fun cell member => ?_
  rcases cell with ⟨column, rule⟩
  dsimp only
  rw [cell_of_clockFree d now now' (contained _ member)]

end

/-- Rows that are made up one after the other, without a server. -/
inductive Drawn {γ : Type} (build : Work γ SeedRow) : γ → List SeedRow → γ → Prop
  | nil (c : γ) : Drawn build c [] c
  | cons {c c' c'' : γ} {row : SeedRow} {rest : List SeedRow} :
      build.session c = .done (.ok row, c') → Drawn build c' rest c'' →
        Drawn build c (row :: rest) c''

/-- Writing a list of rows once more. -/
def replaceAll (equality : Equality) (keys : List String) (written : List SeedRow) (r : TableRow) :
    TableRow :=
  written.foldl (fun r row => replace equality keys row r) r

section

variable {equality : Equality} {keys columns : List String} {before after : Multiset TableRow}
  {written : List SeedRow} (distinct : columns.Nodup) (among : ∀ column ∈ keys, column ∈ columns)
  (listed : ∀ row ∈ written, row.map Prod.fst = columns)

private theorem replaceAll_of_absent {r : TableRow}
    (absent : ∀ row ∈ written, hasKey equality keys row r = false) :
    replaceAll equality keys written r = r := by
  induction written with
  | nil => rfl
  | cons row rest ih =>
    obtain ⟨other, others⟩ := List.forall_mem_cons.mp absent
    unfold replaceAll at ih ⊢
    rw [List.foldl_cons, replace_of_absent other, ih others]

include distinct among listed

/-- Keys stay, and so do the values outside of the written columns. -/
private theorem replaceAll_keeps (r : TableRow) :
    (∀ row : SeedRow, hasKey equality keys row (replaceAll equality keys written r) =
      hasKey equality keys row r) ∧
    ∀ column, column ∉ columns → replaceAll equality keys written r column = r column := by
  induction written generalizing r with
  | nil => exact ⟨fun _ => rfl, fun _ _ => rfl⟩
  | cons row rest ih =>
    obtain ⟨first, others⟩ := List.forall_mem_cons.mp listed
    obtain ⟨keysStay, valuesStay⟩ := ih others (replace equality keys row r)
    subst first
    refine ⟨fun row' => ?_, fun column outside => ?_⟩
    · exact (keysStay row').trans (hasKey_replace among row' r)
    · refine (valuesStay column outside).trans ?_
      unfold replace
      split
      · exact put_of_notMem outside r
      · rfl

/-- Writing all rows once more changes nothing in the table that they have been written into: the
last row with a key restores what was there. -/
private theorem replaceAll_of_upserted (upserted : Upserted equality keys written before after)
    {r : TableRow} (member : r ∈ after) : replaceAll equality keys written r = r := by
  by_cases absent : ∀ row ∈ written, hasKey equality keys row r = false
  · exact replaceAll_of_absent absent
  · obtain ⟨earlier, row, later, rfl, here, others, r', one, agrees⟩ :=
      @Upserted.lastFor _ _ _ _ _ upserted r (by simpa using absent)
    have own : r ∈ after.filter fun r => hasKey equality keys row r = true :=
      Multiset.mem_filter.mpr ⟨member, here⟩
    obtain rfl : r = r' := Multiset.mem_singleton.mp (one ▸ own)
    have named : row.map Prod.fst = columns := listed row (by simp)
    have before_ : ∀ row ∈ earlier, row.map Prod.fst = columns := fun row member =>
      listed row (by simp [member])
    obtain ⟨keysStay, valuesStay⟩ := replaceAll_keeps distinct among before_ r
    have restored : replace equality keys row (replaceAll equality keys earlier r) = r := by
      unfold replace
      rw [keysStay row, if_pos here]
      funext column
      by_cases inside : column ∈ columns
      · obtain ⟨cell, found, rfl⟩ := List.mem_map.mp (named ▸ inside)
        rw [put_agrees (named ▸ distinct) _ cell found, agrees cell found]
      · rw [put_of_notMem (named ▸ inside), valuesStay column inside]
    have parts : replaceAll equality keys (earlier ++ row :: later) r =
        replaceAll equality keys later
          (replace equality keys row (replaceAll equality keys earlier r)) := by
      unfold replaceAll
      rw [List.foldl_append, List.foldl_cons]
    rw [parts, restored, replaceAll_of_absent others]

end

section

variable {γ σ : Type} {d : Dialect} {spec : Spec} {factory : Factory.Document} {u : Upsert}
  (server : TableServer d spec.table σ) {e : Engine γ} (dialect : e.dialect = d)
  (upserts : spec.upsert = some u) (isKey : u.IsKey (factory.rules.map Prod.fst))
include dialect upserts isKey

/-- Rows that are made up and written put their cells into the table. -/
private theorem writeRows_upserted
    (draws : (e.buildRow factory).Draws fun row => row.map Prod.fst = factory.rules.map Prod.fst)
    (n : Nat) (summary : Summary) (c : γ) (s : σ)
    (start : OnePerKey server.equality u.columns (server.rows s)) :
    ∃ written c' s' total, Drawn (e.buildRow factory) c written c' ∧ written.length = n ∧
      (∀ row ∈ written, row.map Prod.fst = factory.rules.map Prod.fst) ∧
      Work.runOn server.toServer (e.writeRows spec factory n summary) c s =
        ((.ok total, c'), s') ∧
      Upserted server.equality u.columns written (server.rows s) (server.rows s') := by
  induction n generalizing summary c s with
  | zero => exact ⟨[], c, s, summary, .nil c, rfl, by simp, rfl, .nil⟩
  | succ n ih =>
    obtain ⟨row, c₁, drawn, named⟩ := draws c
    obtain ⟨outcome, s₁, ran, one, -⟩ :=
      writeRow_upserts server dialect isKey (List.Perm.of_eq named) c₁ start
    obtain ⟨written, c₂, s₂, total, others, length, listed, ran', all⟩ :=
      ih (summary.add outcome.summary) c₁ s₁ (one.onePerKey start)
    refine ⟨row :: written, c₂, s₂, total, .cons drawn others, by simp [length],
      List.forall_mem_cons.mpr ⟨named, listed⟩, ?_, one.cons all⟩
    unfold Engine.writeRows
    rw [Work.runOn_bind_ok (Work.runOn_of_session drawn server.toServer s), upserts,
      Work.runOn_bind_ok ran, ran']

/-- Where each key is there already, rows are only replaced. -/
private theorem writeRows_again {c c' : γ} {written : List SeedRow}
    (drawn : Drawn (e.buildRow factory) c written c')
    (listed : ∀ row ∈ written, row.map Prod.fst = factory.rules.map Prod.fst)
    (summary : Summary) (s : σ)
    (present : ∀ row ∈ written, ∃ r ∈ server.rows s,
      hasKey server.equality u.columns row r = true) :
    ∃ s', Work.runOn server.toServer (e.writeRows spec factory written.length summary) c s =
        ((.ok (summary.add { rowsUpdated := written.length }), c'), s') ∧
      server.rows s' = (server.rows s).map (replaceAll server.equality u.columns written) := by
  induction drawn generalizing summary s with
  | nil c => exact ⟨s, rfl, (Multiset.map_id _).symm⟩
  | cons drawn others ih =>
    rename_i c c₁ c₂ row rest
    obtain ⟨named, listed⟩ := List.forall_mem_cons.mp listed
    obtain ⟨here, present⟩ := List.forall_mem_cons.mp present
    obtain ⟨s₁, ran, rows⟩ :=
      writeRow_updates server dialect isKey (List.Perm.of_eq named) c₁ here
    have distinct : (row.map Prod.fst).Nodup := named ▸ isKey.distinct
    have among : ∀ column ∈ u.columns, column ∈ row.map Prod.fst := named ▸ isKey.among
    obtain ⟨s₂, ran', rows'⟩ := ih listed (summary.add { rowsUpdated := 1 }) s₁
      fun row' member => by
        obtain ⟨r, found, has⟩ := present row' member
        refine ⟨replace server.equality u.columns row r, ?_, ?_⟩
        · rw [rows]
          exact Multiset.mem_map_of_mem _ found
        · rw [hasKey_replace among, has]
    refine ⟨s₂, ?_, ?_⟩
    · rw [List.length_cons, Engine.writeRows,
        Work.runOn_bind_ok (Work.runOn_of_session drawn server.toServer s), upserts,
        Work.runOn_bind_ok ran]
      have counted : Summary.add { rowsUpdated := 1 } { rowsUpdated := rest.length } =
          { rowsUpdated := rest.length + 1 } := by
        simp [Summary.add, Nat.add_comm]
      rw [← counted, ← Summary.add_assoc]
      exact ran'
    · rw [rows', rows, Multiset.map_map]
      rfl

end

/-- Running a job again with the same seed changes nothing. The job has passed its check, and matches
its rows by one column or by all of several; it has no statement of its own, and its factory has
distinct columns and looks nothing up. From a table with at most one row for each key, the first run
succeeds, and so does the second, which replaces as many rows as there are to be written, adds none,
and leaves the table that the first one left. The two runs may be made at different times. -/
theorem reseeding_changes_nothing {σ : Type} {d : Dialect} {spec : Spec}
    {factory : Factory.Document} {u : Upsert} (server : TableServer d spec.table σ)
    (valid : spec.validate (some factory) = .ok ()) (upserts : spec.upsert = some u)
    (conjunctive : u.columns.length = 1 ∨ u.operator = some .and)
    (plain : spec.customQuery = none) (distinct : (factory.rules.map Prod.fst).Nodup)
    (contained : ∀ cell ∈ factory.rules, cell.2.SelfContained) (seed : UInt64)
    (now now' : Calendar.Instant) (s : σ)
    (start : OnePerKey server.equality u.columns (server.rows s)) :
    ∃ total c s₁ s₂,
      Work.runOn server.toServer ((Engine.mk d (generator now)).run spec (some factory))
        (RandomSource.seeded seed) s = ((.ok total, c), s₁) ∧
      Work.runOn server.toServer ((Engine.mk d (generator now')).run spec (some factory))
        (RandomSource.seeded seed) s₁ = ((.ok { rowsUpdated := spec.count }, c), s₂) ∧
      server.rows s₂ = server.rows s₁ := by
  have isKey : u.IsKey (factory.rules.map Prod.fst) :=
    .of_validate valid upserts conjunctive distinct
  have runs (e : Engine RandomSource) {c c' : RandomSource} {s s' : σ} {total : Summary}
      (ran : Work.runOn server.toServer (e.writeRows spec factory spec.count {}) c s =
        ((.ok total, c'), s')) :
      Work.runOn server.toServer (e.run spec (some factory)) c s = ((.ok total, c'), s') := by
    unfold Engine.run
    rw [valid, Work.runOn_bind_ok (Work.runOn_ofResult _ _ _ _), plain, Work.runOn_bind_ok ran]
    rfl
  obtain ⟨written, c, s₁, total, drawn, length, listed, ran, upserted⟩ :=
    writeRows_upserted server (e := ⟨d, generator now⟩) rfl upserts isKey
      (buildRow_draws _ contained) spec.count {} (RandomSource.seeded seed) s start
  rw [buildRow_of_clockFree d now now' contained] at drawn
  have present : ∀ row ∈ written, ∃ r ∈ server.rows s₁,
      hasKey server.equality u.columns row r = true := fun row member =>
    upserted.present member
  obtain ⟨s₂, ran', rows⟩ := writeRows_again server (e := ⟨d, generator now'⟩) rfl upserts isKey
    drawn listed {} s₁ present
  rw [length, Summary.zero_add] at ran'
  refine ⟨total, c, s₁, s₂, runs _ ran, runs _ ran', ?_⟩
  rw [rows]
  exact (Multiset.map_congr rfl fun r member =>
    replaceAll_of_upserted distinct isKey.among listed upserted member).trans (Multiset.map_id _)

/-- The three rows of a run have one key: a second run replaces one row three times, and the age that
is written last is there again. -/
theorem one_key_reseeded :
    let server := Bag.tableServer .postgres "users"
    let u : Upsert := ⟨["email"], none⟩
    let spec : Spec := { table := "users", count := 3, createOrUpdate := some u }
    let factory : Factory.Document :=
      ⟨[[("email", { custom := some (.string "ada") })],
        [("age", { isFake := true, tag := some "number" })]]⟩
    let start : Multiset TableRow := {valuesOf [("email", .text "bob")]}
    spec.validate (some factory) = .ok () ∧ spec.upsert = some u ∧ spec.customQuery = none ∧
      (∀ cell ∈ factory.rules, cell.2.SelfContained) ∧
      OnePerKey server.equality u.columns (server.rows start) ∧
      ∃ total c s₁ s₂,
        Work.runOn server.toServer ((Engine.mk .postgres (generator ⟨0, 0⟩)).run spec (some factory))
          (RandomSource.seeded 7) start = ((.ok total, c), s₁) ∧
        Work.runOn server.toServer ((Engine.mk .postgres (generator ⟨9, 0⟩)).run spec (some factory))
          (RandomSource.seeded 7) s₁ = ((.ok { rowsUpdated := 3 }, c), s₂) ∧
        server.rows s₂ = server.rows s₁ := by
  intro server u spec factory start
  have valid : spec.validate (some factory) = .ok () := by cbv
  have contained : ∀ cell ∈ factory.rules, cell.2.SelfContained := by
    refine List.forall_mem_cons.mpr ⟨⟨?_, ?_⟩, List.forall_mem_singleton.mpr ⟨?_, ?_⟩⟩
    · intro _ members custom
      cases custom
    · intro fake
      cases fake
    · intro given
      cases given
    · intro _ tag known
      have number : Tag.ofText? "number" = some .number := by cbv
      obtain rfl : Tag.number = tag := Option.some.inj (number.symm.trans known)
      rfl
  have one : OnePerKey server.equality u.columns (server.rows start) := fun key =>
    (Multiset.countP_le_card _ _).trans_eq (Multiset.card_singleton _)
  exact ⟨valid, rfl, rfl, contained, one, reseeding_changes_nothing server valid rfl (.inl rfl) rfl
    (by decide) contained 7 ⟨0, 0⟩ ⟨9, 0⟩ start one⟩

end SchemaSeed.Seed
