import Mathlib
import SchemaSeed.Proofs.Json.Range
import SchemaSeed.Proofs.Sql.Running
import SchemaSeed.Seed.Engine

/-!
The values that the literals of a factory are bound as. They are the literals themselves, as long as
these are no integers beyond the signed ones of 64 bits: such an integer is rounded to a
floating-point number.
-/

set_option autoImplicit false
set_option relaxedAutoImplicit false

namespace SchemaSeed

open SchemaSeed.Number SchemaSeed.Reading

/-! The numbers in a factory. -/

namespace Factory

/-- If the value of a rule is a number, it is one that texts stand for. -/
def Rule.InRange (r : Rule) : Prop := ∀ n, r.custom = some (.number n) → n.InRange

theorem Rule.read_inRange {t : JsonTree} {r : Rule} (all : t.InRange)
    (found : Rule.read t = .ok r) : r.InRange := by
  refine record_keeps (P := Rule.InRange) (fun n present => by cases present) ?_ found
  intro field t' below r r' good taken
  split at taken
  case h_3 =>
    obtain ⟨custom, read, rfl⟩ := of_set_ok taken
    rintro n rfl
    have value : t'.read = .ok (.number n) := of_lift_ok (of_option_ok read).2
    exact (all.child below).number value
  all_goals
    obtain ⟨value, -, rfl⟩ := of_set_ok taken
    exact good

theorem Document.read_inRange {t : JsonTree} {d : Document} (all : t.InRange)
    (found : Document.read t = .ok d) : ∀ entry ∈ d.columns, ∀ member ∈ entry, member.2.InRange := by
  refine record_keeps (P := fun d : Document => ∀ entry ∈ d.columns, ∀ member ∈ entry,
    member.2.InRange) (fun entry member => by cases member) ?_ found
  intro field t' below d d' good taken
  obtain ⟨columns, read, rfl⟩ := of_set_ok taken
  intro entry member
  obtain ⟨t₁, below₁, entry_read⟩ := of_list_ok read entry member
  obtain ⟨-, rules⟩ := of_map_entries entry_read
  intro member among
  obtain ⟨t₂, below₂, rule_read⟩ := rules member among
  exact Rule.read_inRange (((all.child below).child below₁).child below₂) rule_read

/-- The numbers among the literals of a factory document are in range. -/
theorem Document.parse_inRange {text : String} {d : Document} (parsed : Document.parse text = .ok d) :
    ∀ member ∈ d.rules, member.2.InRange := by
  have read := of_ofText_ok (of_mapError_ok parsed)
  intro member listed
  obtain ⟨entry, here, among⟩ := List.mem_flatten.mp listed
  exact Document.read_inRange (JsonTree.ofText_inRange text) read entry here member among

end Factory

/-! Literals as values. -/

namespace Sql.Value

/-- An integer is bound as the narrowest of the two integer types that holds it, or rounded. -/
theorem ofJson_int (n : Int) :
    ofJson (.int n) =
      if n < 2 ^ 63 then if -2 ^ 31 ≤ n ∧ n < 2 ^ 31 then .int32 n else .int64 n
      else .float64 (.ofInt .double n) := by
  have large : (twoTo 63 : Int) = 2 ^ 63 := by decide
  have small : (twoTo 31 : Int) = 2 ^ 31 := by decide
  unfold Json.int ofJson JsonNumber.int64?
  rw [large, small]
  by_cases signed : n < 2 ^ 63
  · simp only [if_pos signed]
  · simp only [if_neg signed]
    rfl

/-- No floating-point value is written as an integer. -/
private theorem toJson_float_ne (b : Binary) (n : Int) : (Value.float64 b).toJson ≠ .int n := by
  have written : (Value.float64 b).toJson = if b.isFinite then .number (.float b) else .null := rfl
  rw [written]
  unfold Json.int
  split_ifs <;> simp

/-- The JSON of what a literal is bound as is the literal, unless it is an integer beyond the signed
ones. -/
theorem toJson_ofJson_iff {v : Json} (inRange : ∀ n, v = .number n → n.InRange) :
    (ofJson v).toJson = v ↔ ∀ n, v = .int n → n < 2 ^ 63 := by
  cases v with
  | number m =>
    cases m with
    | integer n =>
      have bound : ofJson (.number (.integer n)) = _ := ofJson_int n
      rw [bound]
      constructor
      · intro kept n' same
        obtain rfl : n = n' := JsonNumber.integer.inj (Json.number.inj same)
        by_contra beyond
        rw [if_neg beyond] at kept
        exact toJson_float_ne _ n kept
      · intro signed
        rw [if_pos (signed n rfl)]
        split_ifs <;> rfl
    | float b =>
      have finite : b.isFinite = true := inRange _ rfl
      refine iff_of_true ?_ nofun
      change (if b.isFinite then Json.number (.float b) else .null) = _
      rw [if_pos finite]
  | _ => exact iff_of_true rfl nofun

end Sql.Value

namespace Seed

open SchemaSeed.Sql SchemaSeed.Factory

/-- The cell of a rule whose literal is an integer is what the integer is bound as; a replacement
leaves it alone. -/
theorem Engine.cell_int {γ : Type} (e : Engine γ) {rule : Rule} {n : Int}
    (plain : rule.isFake = false) (given : rule.custom = some (.int n)) :
    e.cell rule = pure (Value.ofJson (.int n)) := by
  have literal : rule.customValue = .ok (.literal (.int n)) := by
    unfold Rule.customValue
    rw [given]
    rfl
  have untyped : (Value.ofJson (.int n)).toUntyped = Value.ofJson (.int n) := by
    rw [Value.ofJson_int]
    split_ifs <;> rfl
  have value : e.ruleValue rule = pure (Value.ofJson (.int n)) := by
    unfold Engine.ruleValue
    rw [plain, if_neg (by simp), literal, Work.ofResult_ok_bind]
    exact congrArg pure untyped
  unfold Engine.cell
  rw [value, Value.ofJson_int]
  cases rule.manipulation with
  | none => rfl
  | some m => split_ifs <;> rfl

/-- A literal of a factory is bound as it is, unless it is an integer beyond the signed ones of 64
bits: then it is rounded to a floating-point number. An integer is bound as the narrowest of the two
integer types that holds it. -/
theorem literals_bound_unless_unsigned {γ : Type} (e : Engine γ) {text : String}
    {d : Factory.Document} (parsed : Factory.Document.parse text = .ok d) {column : String}
    {rule : Rule} (listed : (column, rule) ∈ d.rules) {v : Json} (given : rule.custom = some v) :
    ((Value.ofJson v).toJson = v ↔ ∀ n, v = .int n → n < 2 ^ 63) ∧
    ∀ n, v = .int n →
      (-2 ^ 63 ≤ n ∧ n < 2 ^ 64) ∧
      (-2 ^ 31 ≤ n → n < 2 ^ 31 → Value.ofJson v = .int32 n) ∧
      (n < -2 ^ 31 ∨ 2 ^ 31 ≤ n → n < 2 ^ 63 → Value.ofJson v = .int64 n) ∧
      (2 ^ 63 ≤ n → Value.ofJson v = .float64 (.ofInt .double n)) ∧
      (rule.isFake = false → e.cell rule = pure (Value.ofJson v)) := by
  have inRange := Document.parse_inRange parsed (column, rule) listed
  refine ⟨Value.toJson_ofJson_iff fun n same => inRange n (same ▸ given), ?_⟩
  rintro n rfl
  refine ⟨inRange _ given, ?_, ?_, ?_, fun plain => e.cell_int plain given⟩
  · intro low high
    rw [Value.ofJson_int, if_pos (by omega), if_pos ⟨low, high⟩]
  · intro wide signed
    rw [Value.ofJson_int, if_pos signed, if_neg (by omega)]
  · intro beyond
    rw [Value.ofJson_int, if_neg (by omega)]

/-- A factory with the largest of the signed integers and with the largest of the unsigned ones. -/
private def sampleText : String :=
  "\x7b\"columns\":[\x7b\"a\":\x7b\"custom\":9223372036854775807\x7d," ++
    "\"b\":\x7b\"custom\":18446744073709551615\x7d\x7d]\x7d"

/-- What a rule has for integers. -/
private def integers (d : Factory.Document) : List (String × Bool × Option Int) :=
  d.rules.map fun cell => (cell.1, cell.2.isFake, cell.2.custom.bind Json.int?)

private theorem sample_read :
    (Factory.Document.parse sampleText).toOption.map integers =
        some [("a", false, some 9223372036854775807), ("b", false, some 18446744073709551615)] ∧
      Binary.ofInt .double 18446744073709551615 = .finite false 4503599627370496 12 := by
  decide +kernel

private theorem eq_int_of_int? {custom : Option Json} {n : Int}
    (found : custom.bind Json.int? = some n) : custom = some (.int n) := by
  obtain ⟨j, rfl, integer⟩ := Option.bind_eq_some_iff.mp found
  cases j with
  | number m =>
    cases m with
    | integer k =>
      rw [Option.some.inj integer]
      rfl
    | float b => cases integer
  | _ => cases integer

private theorem sample_rules :
    ∃ d a b, Factory.Document.parse sampleText = .ok d ∧ d.rules = [("a", a), ("b", b)] ∧
      a.custom = some (.int 9223372036854775807) ∧ b.custom = some (.int 18446744073709551615) ∧
      a.isFake = false ∧ b.isFake = false := by
  obtain ⟨read, -⟩ := sample_read
  cases parsed : Factory.Document.parse sampleText with
  | error e =>
    rw [parsed] at read
    cases read
  | ok d =>
    rw [parsed] at read
    have listed : integers d = _ := Option.some.inj read
    unfold integers at listed
    obtain ⟨⟨_, a⟩, others, same, first, rest⟩ := List.map_eq_cons_iff.mp listed
    obtain ⟨⟨_, b⟩, none, same', second, rest⟩ := List.map_eq_cons_iff.mp rest
    obtain rfl := List.map_eq_nil_iff.mp rest
    simp only [Prod.mk.injEq] at first second
    obtain ⟨rfl, plain, custom⟩ := first
    obtain ⟨rfl, plain', custom'⟩ := second
    rw [same'] at same
    exact ⟨d, a, b, rfl, same, eq_int_of_int? custom, eq_int_of_int? custom', plain, plain'⟩

/-- The largest of the signed integers is bound as it is, the largest of the unsigned ones is not. -/
theorem largest_integers_bound :
    let e : Engine Unit := ⟨.postgres, fun _ => pure .null⟩
    ∃ d a b, Factory.Document.parse sampleText = .ok d ∧ d.rules = [("a", a), ("b", b)] ∧
      e.cell a = pure (.int64 9223372036854775807) ∧
      e.cell b = pure (.float64 (.ofInt .double 18446744073709551615)) ∧
      (Value.ofJson (.int 9223372036854775807)).toJson = .int 9223372036854775807 := by
  intro e
  obtain ⟨d, a, b, parsed, rules, custom, custom', plain, plain'⟩ := sample_rules
  have listed : ("a", a) ∈ d.rules := by simp [rules]
  have listed' : ("b", b) ∈ d.rules := by simp [rules]
  obtain ⟨kept, bound⟩ := literals_bound_unless_unsigned e parsed listed custom
  obtain ⟨-, bound'⟩ := literals_bound_unless_unsigned e parsed listed' custom'
  obtain ⟨-, -, long, -, cell⟩ := bound _ rfl
  obtain ⟨-, -, -, rounded, cell'⟩ := bound' _ rfl
  refine ⟨d, a, b, parsed, rules, ?_, ?_, kept.mpr ?_⟩
  · rw [cell plain, long (.inr (by norm_num)) (by norm_num)]
  · rw [cell' plain', rounded (by norm_num)]
  · intro n same
    rw [← JsonNumber.integer.inj (Json.number.inj same)]
    norm_num

/-- The literal 18446744073709551615 of a factory is bound as the next power of two, which is another
number and no integer. -/
theorem unsigned_literal_rounded :
    ∃ d rule, Factory.Document.parse sampleText = .ok d ∧ ("b", rule) ∈ d.rules ∧
      rule.custom = some (.int 18446744073709551615) ∧
      (Value.ofJson (.int 18446744073709551615)).toJson =
        .number (.float (.finite false 4503599627370496 12)) ∧
      (Binary.finite false 4503599627370496 12).size = 18446744073709551616 ∧
      (Value.ofJson (.int 18446744073709551615)).toJson ≠ .int 18446744073709551615 := by
  obtain ⟨d, a, b, parsed, rules, -, custom, -⟩ := sample_rules
  have written : (Value.ofJson (.int 18446744073709551615)).toJson =
      .number (.float (.finite false 4503599627370496 12)) := by
    rw [Value.ofJson_int, if_neg (by norm_num), sample_read.2]
    rfl
  refine ⟨d, b, parsed, by simp [rules], custom, written, ?_, ?_⟩
  · norm_num [Binary.size]
  · rw [written]
    simp [Json.int]

end Seed

end SchemaSeed
