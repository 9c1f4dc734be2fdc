import Mathlib
import SchemaSeed.Proofs.Sql.Command

/-!
Servers that hold a table. `TableServer` says what is known of any such server that answers the
statements for its table by their meaning; `Bag` is one that does nothing else. A table has no
order, and it may hold a row more than once.
-/

set_option autoImplicit false
set_option relaxedAutoImplicit false

namespace SchemaSeed.Server

open SchemaSeed.Sql

/-- A row of a table: its values by column. -/
abbrev TableRow := String → Value

/-- The row with some cells put into it. -/
def TableRow.put (r : TableRow) (cells : List (String × Value)) : TableRow :=
  fun column => (cells.lookup column).getD (r column)

/-- How a server compares values that are there. -/
structure Equality where
  equal : Value → Value → Bool
  refl : ∀ {a : Value}, a.isNull = false → equal a a = true
  symm : ∀ {a b : Value}, a.isNull = false → b.isNull = false → equal a b = true →
    equal b a = true
  trans : ∀ {a b c : Value}, a.isNull = false → b.isNull = false → c.isNull = false →
    equal a b = true → equal b c = true → equal a c = true

namespace Equality

variable (equality : Equality)

/-- Whether a comparison holds for a row. Nothing equals a missing value. -/
def holds (r : TableRow) : Comparison → Bool
  | .isNull column => (r column).isNull
  | .equals column value =>
    !(r column).isNull && !value.isNull && equality.equal (r column) value

/-- Whether a row meets a condition. -/
def meets (condition : Condition) (r : TableRow) : Bool :=
  condition.any fun part => part.all (equality.holds r)

/-- Whether two values are the same as parts of a key: both are missing, or both are there and
equal. -/
def same (a b : Value) : Bool :=
  if a.isNull then b.isNull else !b.isNull && equality.equal a b

/-- Whether two rows have the same key. -/
def sameKey (columns : List String) (r r' : TableRow) : Bool :=
  columns.all fun column => equality.same (r column) (r' column)

variable {equality}

theorem same_refl (a : Value) : equality.same a a = true := by
  unfold same
  cases missing : a.isNull with
  | true => rfl
  | false =>
    rw [if_neg (by simp), equality.refl missing]
    rfl

theorem same_symm {a b : Value} (h : equality.same a b = true) : equality.same b a = true := by
  unfold same at h ⊢
  cases missing : a.isNull with
  | true =>
    rw [missing, if_pos rfl] at h
    rw [if_pos h]
  | false =>
    rw [missing, if_neg (by simp)] at h
    obtain ⟨there, equal⟩ : b.isNull = false ∧ equality.equal a b = true := by simpa using h
    rw [there, if_neg (by simp), equality.symm missing there equal]
    rfl

theorem same_trans {a b c : Value} (h : equality.same a b = true) (h' : equality.same b c = true) :
    equality.same a c = true := by
  unfold same at h h' ⊢
  cases missing : a.isNull with
  | true =>
    rw [missing, if_pos rfl] at h
    rw [h, if_pos rfl] at h'
    rw [if_pos rfl]
    exact h'
  | false =>
    rw [missing, if_neg (by simp)] at h
    obtain ⟨there, equal⟩ : b.isNull = false ∧ equality.equal a b = true := by simpa using h
    rw [there, if_neg (by simp)] at h'
    obtain ⟨there', equal'⟩ : c.isNull = false ∧ equality.equal b c = true := by simpa using h'
    rw [if_neg (by simp), there', equality.trans missing there there' equal equal']
    rfl

/-- A comparison with a value, be it missing or not, tells whether a row has the same value. -/
theorem holds_of (r : TableRow) (column : String) (value : Value) :
    equality.holds r (Comparison.of column value) = equality.same (r column) value := by
  unfold Comparison.of same
  cases missing : value.isNull with
  | true =>
    rw [if_pos rfl]
    dsimp only [holds]
    cases (r column).isNull <;> simp
  | false =>
    rw [if_neg (by simp)]
    dsimp only [holds]
    rw [missing]
    cases (r column).isNull <;> simp

section

variable {columns : List String} {r r' r'' : TableRow}

theorem sameKey_iff : equality.sameKey columns r r' = true ↔
    ∀ column ∈ columns, equality.same (r column) (r' column) = true := List.all_eq_true

theorem sameKey_of_eq (h : ∀ column ∈ columns, r column = r' column) :
    equality.sameKey columns r r' = true :=
  sameKey_iff.mpr fun column member => h column member ▸ same_refl _

theorem sameKey_symm (h : equality.sameKey columns r r' = true) :
    equality.sameKey columns r' r = true :=
  sameKey_iff.mpr fun column member => same_symm (sameKey_iff.mp h column member)

theorem sameKey_trans (h : equality.sameKey columns r r' = true)
    (h' : equality.sameKey columns r' r'' = true) : equality.sameKey columns r r'' = true :=
  sameKey_iff.mpr fun column member =>
    same_trans (sameKey_iff.mp h column member) (sameKey_iff.mp h' column member)

end

end Equality

/-- A server that holds a table and answers the statements for it by their meaning. What it writes
into columns that an insertion does not name is its own affair. -/
structure TableServer (d : Dialect) (table : String) (σ : Type) extends Server σ where
  equality : Equality
  rows : σ → Multiset TableRow
  counts : ∀ {call : Call} {condition : Condition} (s : σ),
    Command.of? d call = some (.count table condition) →
      ∃ row s', fetch call.sql call.params s = (.ok [row], s') ∧ rows s' = rows s ∧
        row.byIndex 0 = .ok (.int64 ((rows s).countP (equality.meets condition · = true)))
  updates : ∀ {call : Call} {cells : List (String × Value)} {condition : Condition} (s : σ),
    Command.of? d call = some (.update table cells condition) → (cells.map Prod.fst).Nodup →
      ∃ n s', execute call.sql call.params s = (.ok n, s') ∧
        rows s' = (rows s).map fun r => if equality.meets condition r then r.put cells else r
  inserts : ∀ {call : Call} {cells : List (String × Value)} (s : σ),
    Command.of? d call = some (.insert table cells) → (cells.map Prod.fst).Nodup →
      ∃ n s', ∃ defaults : TableRow, execute call.sql call.params s = (.ok n, s') ∧
        rows s' = defaults.put cells ::ₘ rows s

namespace Bag

/-- Equality of values by what is shown of them. -/
def shown : Equality where
  equal a b := a.display == b.display
  refl _ := beq_self_eq_true _
  symm _ _ h := by simpa using (beq_iff_eq.mp h).symm
  trans _ _ _ h h' := by simpa using (beq_iff_eq.mp h).trans (beq_iff_eq.mp h')

/-- The server that holds a table and nothing else; columns without a value are left empty. -/
def server (d : Dialect) (table : String) : Server (Multiset TableRow) where
  execute sql params rows :=
    match Command.of? d ⟨sql, params⟩ with
    | some (.insert name cells) =>
      if name = table then (.ok 1, TableRow.put (fun _ => .null) cells ::ₘ rows)
      else (.error (.statementFailed "no such table" none), rows)
    | some (.update name cells condition) =>
      if name = table then
        (.ok (rows.countP (shown.meets condition · = true)),
          rows.map fun r => if shown.meets condition r then r.put cells else r)
      else (.error (.statementFailed "no such table" none), rows)
    | _ => (.error (.statementFailed "no such statement" none), rows)
  fetch sql params rows :=
    match Command.of? d ⟨sql, params⟩ with
    | some (.count name condition) =>
      if name = table then
        (.ok [Row.ofValues
          [("count", .int64 (rows.countP (shown.meets condition · = true)))]], rows)
      else (.error (.statementFailed "no such table" none), rows)
    | _ => (.error (.statementFailed "no such statement" none), rows)
  close rows := (.ok (), rows)

section

variable {d : Dialect} {table : String} {call : Call} {cells : List (String × Value)}
  {condition : Condition} (rows : Multiset TableRow)

theorem execute_insert (means : Command.of? d call = some (.insert table cells)) :
    (server d table).execute call.sql call.params rows =
      (.ok 1, TableRow.put (fun _ => .null) cells ::ₘ rows) := by
  unfold server
  dsimp only
  rw [means]
  exact if_pos rfl

theorem execute_update (means : Command.of? d call = some (.update table cells condition)) :
    (server d table).execute call.sql call.params rows =
      (.ok (rows.countP (shown.meets condition · = true)),
        rows.map fun r => if shown.meets condition r then r.put cells else r) := by
  unfold server
  dsimp only
  rw [means]
  exact if_pos rfl

theorem fetch_count (means : Command.of? d call = some (.count table condition)) :
    (server d table).fetch call.sql call.params rows =
      (.ok [Row.ofValues
        [("count", .int64 (rows.countP (shown.meets condition · = true)))]], rows) := by
  unfold server
  dsimp only
  rw [means]
  exact if_pos rfl

end

/-- It answers by the meaning of the statements. -/
def tableServer (d : Dialect) (table : String) : TableServer d table (Multiset TableRow) where
  toServer := server d table
  equality := shown
  rows rows := rows
  counts rows means := ⟨_, rows, fetch_count rows means, rfl, rfl⟩
  updates rows means _ := ⟨_, _, execute_update rows means, rfl⟩
  inserts rows means _ := ⟨_, _, _, execute_insert rows means, rfl⟩

end Bag

end SchemaSeed.Server
