import Mathlib
import SchemaSeed.Proofs.Migration.SimulatedRun
import SchemaSeed.Proofs.Server.Journal

/-!
Events around a ledger, as they lead its names from one list to another: most of them leave the
names alone, and the others change one name that is due to change. So distinct names stay distinct,
and the changes for one name alternate.
-/

set_option autoImplicit false
set_option relaxedAutoImplicit false

namespace SchemaSeed.Migration

open SchemaSeed.Sql SchemaSeed.Server

/-- The names in a ledger after the change for one of them. -/
def changed : Direction → String → List String → List String
  | .up, name, names => names ++ [name]
  | .down, name, names => names.filter (· != name)

/-- A name that can change: it is absent where it is to be added, and there where it is to be
removed. -/
def Due (direction : Direction) (names : List String) (name : String) : Prop :=
  direction = .up ↔ name ∉ names

section

variable {direction : Direction} {name other : String} {names : List String}

theorem mem_changed_self (due : Due direction names name) :
    name ∈ changed direction name names ↔ direction = .up := by
  cases direction <;> simp [changed]

theorem mem_changed_other (different : other ≠ name) :
    other ∈ changed direction name names ↔ other ∈ names := by
  cases direction <;> simp [changed, different]

theorem Due.of_changed (due : Due direction names other) (different : other ≠ name) :
    Due direction (changed direction name names) other := by
  unfold Due at due ⊢
  rw [mem_changed_other different]
  exact due

theorem nodup_changed (distinct : names.Nodup) (due : Due direction names name) :
    (changed direction name names).Nodup := by
  cases direction with
  | up =>
    have absent : name ∉ names := due.mp rfl
    exact List.nodup_append.mpr ⟨distinct, List.nodup_singleton name, by
      rintro a member b found rfl
      obtain rfl := List.mem_singleton.mp found
      exact absent member⟩
  | down => exact distinct.filter _

end

/-- Events that lead the names in a ledger from one list to another: every event shows the names
after it, and only a name that is due changes. -/
inductive Leads (table : String) : List String → List Event → List String → Prop
  | nil (names : List String) : Leads table names [] names
  | quiet {names final : List String} {e : Event} {rest : List Event}
    (none : e.change? table = none) (same : e.names = names)
    (later : Leads table names rest final) : Leads table names (e :: rest) final
  | change {names final : List String} {e : Event} {rest : List Event} {direction : Direction}
    {name : String} (some : e.change? table = some (direction, name))
    (due : Due direction names name) (after : e.names = changed direction name names)
    (later : Leads table e.names rest final) : Leads table names (e :: rest) final

namespace Leads

variable {table : String} {names middle final : List String} {events later : List Event}

theorem append (first : Leads table names events middle) (second : Leads table middle later final) :
    Leads table names (events ++ later) final := by
  induction first with
  | nil => exact second
  | quiet none same _ ih => exact .quiet none same (ih second)
  | change some due after _ ih => exact .change some due after (ih second)

/-- Distinct names stay distinct. -/
theorem nodup (leads : Leads table names events final) (distinct : names.Nodup) :
    (∀ e ∈ events, e.names.Nodup) ∧ final.Nodup := by
  induction leads with
  | nil => exact ⟨by simp, distinct⟩
  | quiet _ same _ ih =>
    obtain ⟨others, last⟩ := ih distinct
    exact ⟨List.forall_mem_cons.mpr ⟨same ▸ distinct, others⟩, last⟩
  | change _ due after _ ih =>
    have kept := nodup_changed distinct due
    rw [← after] at kept
    obtain ⟨others, last⟩ := ih kept
    exact ⟨List.forall_mem_cons.mpr ⟨kept, others⟩, last⟩

/-- The changes for a name alternate, and the first of them is the one that was due at the start. -/
theorem alternate (leads : Leads table names events final) (name : String) :
    (changesOf table name events).IsChain (· ≠ ·) ∧
      ∀ first ∈ (changesOf table name events).head?, first = .up ↔ name ∉ names := by
  induction leads with
  | nil => exact ⟨.nil, by simp [changesOf]⟩
  | @quiet names final e rest none _ _ ih =>
    have same : changesOf table name (e :: rest) = changesOf table name rest := by
      unfold changesOf
      rw [List.filterMap_cons_none]
      rw [none]
    rw [same]
    exact ih
  | @change names final e rest direction changedName some due after _ ih =>
    obtain ⟨chain, first⟩ := ih
    by_cases this : changedName = name
    · subst this
      have one : changesOf table changedName (e :: rest) =
          direction :: changesOf table changedName rest := by
        unfold changesOf
        rw [List.filterMap_cons_some]
        rw [some]
        exact if_pos rfl
      rw [one]
      refine ⟨List.isChain_cons.mpr ⟨fun next member => ?_, chain⟩, ?_⟩
      · have opposite := first next member
        rw [after, mem_changed_self due] at opposite
        rintro rfl
        exact (iff_not_self opposite).elim
      · rintro d ⟨⟩
        exact due
    · have none : changesOf table name (e :: rest) = changesOf table name rest := by
        unfold changesOf
        rw [List.filterMap_cons_none]
        rw [some]
        exact if_neg this
      rw [none]
      refine ⟨chain, fun next member => ?_⟩
      rw [first next member, after, mem_changed_other (Ne.symm this)]

end Leads

/-- Events between which the names in the ledger stay the same. -/
def Quiet (table : String) (names : List String) (events : List Event) : Prop :=
  ∀ e ∈ events, e.change? table = none ∧ e.names = names

theorem Quiet.append {table : String} {names : List String} {events later : List Event}
    (first : Quiet table names events) (second : Quiet table names later) :
    Quiet table names (events ++ later) :=
  List.forall_mem_append.mpr ⟨first, second⟩

theorem Quiet.leads {table : String} {names : List String} {events : List Event}
    (quiet : Quiet table names events) : Leads table names events names := by
  induction events with
  | nil => exact .nil names
  | cons e rest ih =>
    obtain ⟨⟨none, same⟩, others⟩ := List.forall_mem_cons.mp quiet
    exact .quiet none same (ih others)

/-- The events of a transaction with a change of the ledger at its end. Either the change was not
made; or the start of the transaction and all its statements were accepted, and the change came
right after them. -/
inductive Sent (l : Ledger) (statements : List String) (direction : Direction) (name : String)
    (names : List String) : List Event → List String → Prop
  | unchanged {events : List Event} (quiet : Quiet l.table names events) :
    Sent l statements direction name names events names
  | changed {opened rest : List Event} {e : Event} (before : Quiet l.table names opened)
    (calls : opened.map Event.call = plain (l.dialect.beginKeyword ++ ";") :: statements.map plain)
    (accepted : ∀ e ∈ opened, e.accepted = true)
    (change : e.change? l.table = some (direction, name))
    (after : e.names = changed direction name names) (quiet : Quiet l.table e.names rest) :
    Sent l statements direction name names (opened ++ e :: rest) e.names

theorem Sent.leads {l : Ledger} {statements : List String} {direction : Direction} {name : String}
    {names final : List String} {events : List Event}
    (sent : Sent l statements direction name names events final) (due : Due direction names name) :
    Leads l.table names events final := by
  cases sent with
  | unchanged quiet => exact quiet.leads
  | changed before calls accepted change after quiet =>
    exact before.leads.append (.change change due after quiet.leads)

end SchemaSeed.Migration
