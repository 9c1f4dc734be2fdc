import Mathlib
import SchemaSeed.Proofs.Seed.Calls
import SchemaSeed.Proofs.Seed.Reseeding

/-!
What is made up does not depend on the server. Two runs with one random source may meet servers that
give them other rows, other counts and other refusals; still both draw the same for each row they
come to, since nothing is drawn for a lookup, and nothing is drawn while a row is written.
-/

set_option autoImplicit false
set_option relaxedAutoImplicit false

namespace SchemaSeed.Factory

open SchemaSeed.Sql SchemaSeed.Calendar

/-- What is made of a value that was drawn does not change the random source. -/
private theorem Draw.source_after {α : Type} (draw : Draw α) (f g : α → Value)
    (source : RandomSource) :
    ((do return f (← draw) : Draw Value).run source).2 =
      ((do return g (← draw) : Draw Value).run source).2 := rfl

/-- How much is drawn for a value does not depend on the time. -/
private theorem Draw.ofTag_source (tag : Tag) (now now' : Instant) (source : RandomSource) :
    ((Draw.ofTag now tag).run source).2 = ((Draw.ofTag now' tag).run source).2 := by
  cases clock : tag.readsClock with
  | false => rw [Draw.ofTag_of_clockFree clock now now']
  | true =>
    cases tag <;> cases clock
    all_goals
      simp only [Draw.ofTag, Draw.before, Draw.after, bind_assoc, pure_bind]
      exact Draw.source_after _ _ _ source

private theorem generator_source (word : String) (now now' : Instant) (source : RandomSource) :
    ((generator now word).run source).2 = ((generator now' word).run source).2 := by
  unfold generator
  cases Tag.ofText? word with
  | none => rfl
  | some tag => exact Draw.ofTag_source tag now now' source

/-- The value that a self-contained rule gives at some time from a random source, before
replacements. -/
def Rule.given (r : Rule) (now : Instant) (source : RandomSource) : Value :=
  if r.isFake then ((generator now (r.tag.getD "")).run source).1
  else
    match r.customValue with
    | .ok (.literal value) => (Value.ofJson value).toUntyped
    | _ => .null

/-- The time does not count for such a rule. -/
theorem Rule.SelfContained.given_eq {r : Rule} (contained : r.SelfContained) (now now' : Instant)
    (source : RandomSource) : r.given now source = r.given now' source := by
  unfold Rule.given
  split
  · rename_i fake
    rw [generator_of_clockFree (contained.clockFree fake) now now']
  · rfl

/-- The random source after the value of a rule. -/
def Rule.drawn (r : Rule) (now : Instant) (source : RandomSource) : RandomSource :=
  if r.isFake then ((generator now (r.tag.getD "")).run source).2 else source

theorem Rule.drawn_eq (r : Rule) (now now' : Instant) (source : RandomSource) :
    r.drawn now source = r.drawn now' source := by
  unfold Rule.drawn
  rw [generator_source (r.tag.getD "") now now']

end SchemaSeed.Factory

namespace SchemaSeed.Seed

open SchemaSeed.Sql SchemaSeed.Factory SchemaSeed.Calendar

namespace Engine

variable {γ : Type} (e : Engine γ) (spec : Spec) (factory : Factory.Document)

/-- A job up to one of its rows, counted from zero: the rows before it are made up and written, and
then this one is made up. -/
def upToRow (n : Nat) : Work γ (Summary × SeedRow) := do
  Work.ofResult (spec.validate (some factory))
  let summary ← e.writeRows spec factory n {}
  return (summary, ← e.buildRow factory)

/-- What is left of a job when one of its rows has been made up. -/
def fromRow (n : Nat) (made : Summary × SeedRow) : Work γ Summary := do
  let outcome ← e.writeRow spec.table made.2 spec.upsert
  let total ← e.writeRows spec factory (spec.count - (n + 1)) (made.1.add outcome.summary)
  match spec.customQuery with
  | some q => e.sendQuery q.query q.count total
  | none => return total

/-- Rows are written one after the other. -/
private theorem writeRows_add (n m : Nat) (summary : Summary) :
    e.writeRows spec factory (n + m) summary =
      e.writeRows spec factory n summary >>= e.writeRows spec factory m := by
  induction n generalizing summary with
  | zero => rw [Nat.zero_add, writeRows, pure_bind]
  | succ n ih =>
    rw [Nat.succ_add, writeRows, writeRows]
    simp only [bind_assoc, ih]

/-- A job comes to each of its rows. -/
theorem run_eq_upToRow {n : Nat} (inside : n < spec.count) :
    e.run spec (some factory) = e.upToRow spec factory n >>= e.fromRow spec factory n := by
  have rows : e.writeRows spec factory spec.count {} =
      e.writeRows spec factory n {} >>= e.writeRows spec factory (spec.count - (n + 1) + 1) := by
    rw [← writeRows_add]
    congr 1
    omega
  unfold run upToRow fromRow
  dsimp only
  rw [rows]
  cases spec.customQuery <;> simp only [bind_assoc, pure_bind, writeRows]

end Engine

/-- The random source after the values of some columns. -/
def drawnFor (now : Instant) (rules : List (String × Rule)) (source : RandomSource) :
    RandomSource :=
  rules.foldl (fun source cell => cell.2.drawn now source) source

theorem drawnFor_eq (now now' : Instant) : drawnFor now = drawnFor now' := by
  funext rules source
  unfold drawnFor
  simp only [Rule.drawn_eq _ now now']

/-- The random source with which the value of a column is made up: so many rows have been drawn, and
the values of the columns before it. -/
def sourceAt (now : Instant) (rules : List (String × Rule)) (row column : Nat)
    (source : RandomSource) : RandomSource :=
  drawnFor now (rules.take column) ((drawnFor now rules)^[row] source)

theorem sourceAt_eq (now now' : Instant) : sourceAt now = sourceAt now' := by
  unfold sourceAt
  rw [drawnFor_eq now now']

section

variable {d : Dialect} {now : Instant} {c c' : RandomSource} {sent : List Exchange}

private theorem Obtains.source {rule : Rule} {v : Except Failure Value}
    (obtains : Obtains ⟨d, generator now⟩ rule c sent v c') : c' = rule.drawn now c := by
  unfold Rule.drawn
  cases obtains with
  | made fake made => rw [if_pos fake, made]
  | literal other _ | nothing other _ | malformed other _ | lookedUp other _ _ =>
    rw [if_neg (by simp [other])]

private theorem Obtains.value {rule : Rule} {v : Except Failure Value}
    (contained : rule.SelfContained) (obtains : Obtains ⟨d, generator now⟩ rule c sent v c') :
    v = .ok (rule.replaced (rule.given now c)) := by
  unfold Rule.given
  cases obtains with
  | made fake made => rw [if_pos fake, made]
  | literal other known =>
    rw [if_neg (by simp [other]), known]
  | nothing other known =>
    rw [if_neg (by simp [other]), known, Rule.replaced_null]
  | malformed other known | lookedUp other known _ =>
    rcases contained.customValue other with none | ⟨value, literal⟩
    · rw [none] at known
      cases known
    · rw [literal] at known
      cases known

variable {rules : List (String × Rule)} {row : SeedRow}

/-- A row takes from the random source what its rules draw, whatever is looked up. -/
private theorem Gathers.source
    (gathers : Gathers ⟨d, generator now⟩ rules c sent (.ok row) c') :
    c' = drawnFor now rules c := by
  generalize made : Except.ok row = result at gathers
  induction gathers generalizing row with
  | nil => rfl
  | failed _ => cases made
  | cons obtains _ ih =>
    rename_i rest _
    cases rest with
    | error failure => cases made
    | ok rest =>
      rw [ih rfl, obtains.source]
      rfl

/-- A value that is not looked up is the one that is drawn at its place. -/
private theorem Gathers.value
    (gathers : Gathers ⟨d, generator now⟩ rules c sent (.ok row) c') {i : Nat} {column : String}
    {rule : Rule} (found : rules[i]? = some (column, rule)) (contained : rule.SelfContained) :
    row[i]? = some (column, rule.replaced (rule.given now (drawnFor now (rules.take i) c))) := by
  generalize made : Except.ok row = result at gathers
  induction gathers generalizing row i with
  | nil => cases found
  | failed _ => cases made
  | cons obtains _ ih =>
    rename_i rest _
    cases rest with
    | error failure => cases made
    | ok rest =>
      obtain rfl := Except.ok.inj made
      cases i with
      | zero =>
        cases found
        obtain rfl := Except.ok.inj (obtains.value contained)
        rfl
      | succ i =>
        have later := ih found rfl
        rw [obtains.source] at later
        exact later

/-- Rows that are written one after the other are drawn one after the other. -/
private theorem Turns.source {spec : Spec} {turns : List Turn}
    (done : Turns ⟨d, generator now⟩ spec rules c turns c') :
    c' = (drawnFor now rules)^[turns.length] c := by
  induction done with
  | nil => rfl
  | cons gathers _ _ ih =>
    rw [ih, gathers.source]
    rfl

/-- A job that comes to one of its rows has drawn the rows before it. -/
private theorem upToRow_gathers {τ : Type} {server : Server τ} {spec : Spec}
    {factory : Factory.Document} {n : Nat} {summary : Summary} {s s' : τ}
    (ran : Work.runOn server ((Engine.mk d (generator now)).upToRow spec factory n) c s =
      ((.ok (summary, row), c'), s')) :
    ∃ sent, Gathers ⟨d, generator now⟩ factory.rules ((drawnFor now factory.rules)^[n] c) sent
      (.ok row) c' := by
  obtain ⟨exchanges, tells, -⟩ := Work.of_runOn ran
  unfold Engine.upToRow at tells
  rcases tells.of_bind with ⟨_, _, impossible⟩ | ⟨_, _, c₁, _, rfl, checked, rest⟩
  · cases impossible
  obtain ⟨rfl, valid, rfl⟩ := checked.of_ofResult
  rcases rest.of_bind with ⟨_, _, impossible⟩ | ⟨_, total, c₂, _, rfl, wrote, rest⟩
  · cases impossible
  obtain ⟨turns, c₃, last, done, -, ended⟩ := writeRows_tells valid.symm wrote
  obtain ⟨length, rfl⟩ : turns.length = n ∧ c₂ = c₃ := by
    rcases ended with ⟨length, -, same, -⟩ | ⟨-, _, -, impossible⟩
    · exact ⟨length, same⟩
    · cases impossible
  obtain ⟨made, built, same⟩ := Work.Tells.of_map rest
  cases made with
  | error failure => cases same
  | ok made =>
    cases same
    rw [← length, ← done.source]
    exact ⟨_, buildRow_tells built⟩

end

/-- What is made up does not depend on the server. Two runs of a job with the same seed may meet any
two servers, in different dialects and at different times. If both come to some row, counted from
zero, the random source is then the same in both, and so is the value of every column that is given
by its document, or made up by a kind that does not depend on the time: it is what the random source
gives at the place of the column, with the replacements of its rule. -/
theorem made_up_values_ignore_server {τ τ' : Type} (server : Server τ) (server' : Server τ')
    (d d' : Dialect) (now now' : Instant) (spec : Spec) (factory : Factory.Document)
    (seed : UInt64) (n : Nat) :
    let e : Engine RandomSource := ⟨d, generator now⟩
    let e' : Engine RandomSource := ⟨d', generator now'⟩
    let source := RandomSource.seeded seed
    (n < spec.count →
      e.run spec (some factory) = e.upToRow spec factory n >>= e.fromRow spec factory n ∧
      e'.run spec (some factory) = e'.upToRow spec factory n >>= e'.fromRow spec factory n) ∧
    ∀ {s s₁ : τ} {s' s₁' : τ'} {c c' : RandomSource} {summary summary' : Summary}
      {row row' : SeedRow},
      Work.runOn server (e.upToRow spec factory n) source s = ((.ok (summary, row), c), s₁) →
      Work.runOn server' (e'.upToRow spec factory n) source s' =
        ((.ok (summary', row'), c'), s₁') →
      c = c' ∧ row.map Prod.fst = row'.map Prod.fst ∧
      ∀ {i : Nat} {column : String} {rule : Rule}, factory.rules[i]? = some (column, rule) →
        rule.SelfContained →
        ∃ v, v = rule.given now (sourceAt now factory.rules n i source) ∧
          v = rule.given now' (sourceAt now' factory.rules n i source) ∧
          row[i]? = some (column, rule.replaced v) ∧
          row'[i]? = some (column, rule.replaced v) := by
  intro e e' source
  refine ⟨fun inside => ⟨e.run_eq_upToRow spec factory inside,
    e'.run_eq_upToRow spec factory inside⟩, fun ran ran' => ?_⟩
  obtain ⟨sent, gathers⟩ := upToRow_gathers ran
  obtain ⟨sent', gathers'⟩ := upToRow_gathers ran'
  refine ⟨?_, gathers.complete.2.trans gathers'.complete.2.symm, ?_⟩
  · rw [gathers.source, gathers'.source, drawnFor_eq now now']
  · intro i column rule found contained
    have same : rule.given now (sourceAt now factory.rules n i source) =
        rule.given now' (sourceAt now' factory.rules n i source) := by
      rw [contained.given_eq now now', sourceAt_eq now now']
    refine ⟨_, rfl, same, gathers.value found contained, ?_⟩
    rw [same]
    exact gathers'.value found contained

/-- One server has no sites and no users, and the other has both; the second row has another site in
each run, and the same name. -/
theorem second_row_has_same_name :
    let server (rows : List Row) : Server Unit :=
      { execute := fun _ _ s => (.ok 1, s)
        fetch := fun _ _ s => (.ok rows, s)
        close := fun s => (.ok (), s) }
    let site : Json := .ofMembers [("table", .string "sites"), ("column", .string "id")]
    let name : Rule := { isFake := true, tag := some "first_name", manipulation := some ⟨"a", "e"⟩ }
    let factory : Factory.Document :=
      ⟨[[("site", { custom := some (.ofMembers [("reference_table", site)]) })],
        [("since", { isFake := true, tag := some "past" })], [("name", name)]]⟩
    let spec : Spec :=
      { table := "users", count := 2, createOrUpdate := some ⟨["name"], none⟩ }
    let made (now : Instant) (rows : List Row) :=
      (Work.runOn (server rows) ((Engine.mk .mysql (generator now)).upToRow spec factory 1)
        (RandomSource.seeded 7) ()).1
    let found : List Row := [.ofValues [("id", .int64 7)]]
    ∃ row row' c summary summary',
      made ⟨0, 0⟩ [] = (.ok (summary, row), c) ∧ made ⟨9, 0⟩ found = (.ok (summary', row'), c) ∧
      summary = { rowsInserted := 1 } ∧ summary' = { rowsUpdated := 1 } ∧
      row[0]?.map (·.2.isNull) = some true ∧ row'[0]?.map (·.2.isNull) = some false ∧
      ∃ v, row[2]? = some ("name", name.replaced v) ∧ row'[2]? = some ("name", name.replaced v) := by
  intro server site name factory spec made found
  have told : (made ⟨0, 0⟩ []).1.toOption.map (fun r => (r.1, r.2[0]?.map (·.2.isNull))) =
        some ({ rowsInserted := 1 }, some true) ∧
      (made ⟨9, 0⟩ found).1.toOption.map (fun r => (r.1, r.2[0]?.map (·.2.isNull))) =
        some ({ rowsUpdated := 1 }, some false) := by
    decide
  have contained : name.SelfContained := by
    refine ⟨fun given => ?_, fun _ tag known => ?_⟩
    · cases given
    · have firstName : Tag.ofText? "first_name" = some .firstName := by cbv
      obtain rfl : Tag.firstName = tag := Option.some.inj (firstName.symm.trans known)
      rfl
  rcases ran : Work.runOn (server []) ((Engine.mk .mysql (generator ⟨0, 0⟩)).upToRow spec factory 1)
    (RandomSource.seeded 7) () with ⟨⟨r, c⟩, s₁⟩
  rcases ran' : Work.runOn (server found)
    ((Engine.mk .mysql (generator ⟨9, 0⟩)).upToRow spec factory 1) (RandomSource.seeded 7) ()
    with ⟨⟨r', c'⟩, s₁'⟩
  have first : made ⟨0, 0⟩ [] = (r, c) := congrArg Prod.fst ran
  have second : made ⟨9, 0⟩ found = (r', c') := congrArg Prod.fst ran'
  rw [first, second] at told
  cases r with
  | error failure => cases told.1
  | ok reached =>
    cases r' with
    | error failure => cases told.2
    | ok reached' =>
      obtain ⟨total, absent⟩ := Prod.mk.inj (Option.some.inj told.1)
      obtain ⟨total', present⟩ := Prod.mk.inj (Option.some.inj told.2)
      obtain ⟨rfl, -, values⟩ := (made_up_values_ignore_server (server []) (server found) .mysql
        .mysql ⟨0, 0⟩ ⟨9, 0⟩ spec factory 7 1).2 ran ran'
      obtain ⟨v, -, -, here, there⟩ := values (show factory.rules[2]? = some ("name", name) from rfl)
        contained
      exact ⟨_, _, c, _, _, first, second, total, total', absent, present, v, here, there⟩

end SchemaSeed.Seed
