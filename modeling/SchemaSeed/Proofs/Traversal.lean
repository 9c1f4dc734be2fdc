import Mathlib

/-!
Lists that are gone through item by item. Work on each item that can fail succeeds item by item, and
the first failure is the failure of all; a search from the end finds the last item of a kind.
-/

set_option autoImplicit false
set_option relaxedAutoImplicit false

namespace SchemaSeed.Traversal

variable {α β ε : Type} {f : α → Except ε β}

/-- Two steps succeed one after the other. -/
theorem bind_eq_ok_iff {x : Except ε α} {b : β} : x >>= f = .ok b ↔ ∃ a, x = .ok a ∧ f a = .ok b := by
  constructor
  · intro done
    cases x with
    | error e => cases done
    | ok a => exact ⟨a, rfl, done⟩
  · rintro ⟨a, rfl, done⟩
    exact done

/-- What is said about a failure does not matter to what succeeds. -/
theorem mapError_eq_ok_iff {ε' : Type} {x : Except ε α} {f : ε → ε'} {a : α} :
    x.mapError f = .ok a ↔ x = .ok a := by
  cases x with
  | error e => constructor <;> rintro ⟨⟩
  | ok a' => constructor <;> (rintro ⟨⟩; rfl)

/-- All items are there, in order. -/
theorem mapM_eq_ok_iff {items : List α} {found : List β} :
    items.mapM f = .ok found ↔ List.Forall₂ (fun item value => f item = .ok value) items found := by
  induction items generalizing found with
  | nil =>
    rw [List.mapM_nil, List.forall₂_nil_left_iff]
    exact ⟨fun all => (Except.ok.inj all).symm, fun all => congrArg Except.ok all.symm⟩
  | cons item rest ih =>
    rw [List.mapM_cons]
    constructor
    · intro all
      cases first : f item with
      | error e =>
        rw [first] at all
        cases all
      | ok value =>
        rw [first] at all
        cases others : rest.mapM f with
        | error e =>
          rw [others] at all
          cases all
        | ok values =>
          rw [others] at all
          cases all
          exact .cons first (ih.mp others)
    · intro all
      cases all with
      | cons first others =>
        rw [first, ih.mpr others]
        rfl

/-- What is found item by item has been found for an item. -/
theorem exists_of_forall₂ {R : α → β → Prop} {items : List α} {found : List β}
    (each : List.Forall₂ R items found) {value : β} (member : value ∈ found) :
    ∃ item ∈ items, R item value := by
  induction each with
  | nil => cases member
  | cons first others ih =>
    rcases List.mem_cons.mp member with rfl | member
    · exact ⟨_, List.mem_cons_self, first⟩
    · obtain ⟨item, among, same⟩ := ih member
      exact ⟨item, List.mem_cons_of_mem _ among, same⟩

/-- An item fails after others that do not. -/
theorem mapM_eq_error_iff {items : List α} {e : ε} :
    items.mapM f = .error e ↔
      ∃ before item after, items = before ++ item :: after ∧
        (∀ earlier ∈ before, ∃ value, f earlier = .ok value) ∧ f item = .error e := by
  induction items with
  | nil =>
    constructor
    · intro failed
      cases failed
    · rintro ⟨before, item, after, parts, -⟩
      cases before <;> cases parts
  | cons first rest ih =>
    rw [List.mapM_cons]
    constructor
    · intro failed
      cases started : f first with
      | error e' =>
        rw [started] at failed
        cases failed
        exact ⟨[], first, rest, rfl, by simp, started⟩
      | ok value =>
        rw [started] at failed
        have others : rest.mapM f = .error e := by
          cases others : rest.mapM f with
          | error e' =>
            rw [others] at failed
            exact failed
          | ok values =>
            rw [others] at failed
            cases failed
        obtain ⟨before, item, after, rfl, good, bad⟩ := ih.mp others
        refine ⟨first :: before, item, after, rfl, ?_, bad⟩
        intro earlier member
        rcases List.mem_cons.mp member with rfl | member
        · exact ⟨value, started⟩
        · exact good earlier member
    · rintro ⟨before, item, after, parts, good, bad⟩
      cases before with
      | nil =>
        obtain ⟨rfl, rfl⟩ := List.cons.inj parts
        rw [bad]
        rfl
      | cons earlier before =>
        obtain ⟨rfl, rfl⟩ := List.cons.inj parts
        obtain ⟨value, started⟩ := good first List.mem_cons_self
        have others := ih.mpr ⟨before, item, after, rfl,
          fun earlier member => good earlier (List.mem_cons_of_mem _ member), bad⟩
        rw [started, others]
        rfl

section

variable {long short : List (List α)}

private theorem flatten_length_le
    (each : List.Forall₂ (fun a b => b.length ≤ a.length) long short) :
    short.flatten.length ≤ long.flatten.length := by
  induction each with
  | nil => exact le_rfl
  | cons first _ ih =>
    rw [List.flatten_cons, List.flatten_cons, List.length_append, List.length_append]
    exact Nat.add_le_add first ih

/-- What is shorter piece by piece makes up the same only if it is the same piece by piece. -/
theorem flatten_eq_flatten_iff
    (each : List.Forall₂ (fun a b => b.length ≤ a.length) long short) :
    long.flatten = short.flatten ↔ long = short := by
  refine ⟨fun same => ?_, congrArg List.flatten⟩
  induction each with
  | nil => rfl
  | cons first others ih =>
    rw [List.flatten_cons, List.flatten_cons] at same
    have total := congrArg List.length same
    rw [List.length_append, List.length_append] at total
    have rest := flatten_length_le others
    obtain ⟨same, same_rest⟩ := List.append_inj same (by omega)
    rw [same, ih same_rest]

end

/-- Only what is done to the items counts. -/
theorem mapM_congr {m : Type → Type} [Monad m] [LawfulMonad m] {α β : Type} {f g : α → m β}
    {items : List α} (same : ∀ item ∈ items, f item = g item) : items.mapM f = items.mapM g := by
  induction items with
  | nil => rw [List.mapM_nil, List.mapM_nil]
  | cons item rest ih =>
    rw [List.mapM_cons, List.mapM_cons, same item List.mem_cons_self,
      ih fun other member => same other (List.mem_cons_of_mem _ member)]

/-- An item among two rows of items stands in the first, or in the second. -/
theorem split_append {α : Type} {first second before after : List α} {item : α}
    (parts : first ++ second = before ++ item :: after) :
    (∃ rest, first = before ++ item :: rest ∧ after = rest ++ second) ∨
      ∃ rest, before = first ++ rest ∧ second = rest ++ item :: after := by
  rcases List.append_eq_append_iff.mp parts with ⟨rest, before_eq, second_eq⟩ |
    ⟨rest, first_eq, rest_eq⟩
  · exact .inr ⟨rest, before_eq, second_eq⟩
  · cases rest with
    | nil => exact .inr ⟨[], by simpa using first_eq.symm, rest_eq.symm⟩
    | cons item' rest =>
      obtain ⟨rfl, after_eq⟩ := List.cons.inj rest_eq
      exact .inl ⟨rest, first_eq, after_eq⟩

/-- What is found from the end is the last item of its kind. -/
theorem find?_reverse_eq_some_iff {α : Type} {p : α → Bool} {items : List α} {item : α} :
    items.reverse.find? p = some item ↔ p item = true ∧
      ∃ before after, items = before ++ item :: after ∧ ∀ later ∈ after, p later = false := by
  rw [List.find?_eq_some_iff_append]
  refine and_congr_right fun _ => ⟨?_, ?_⟩
  · rintro ⟨after, before, parts, others⟩
    refine ⟨before.reverse, after.reverse, ?_, fun later member => ?_⟩
    · rw [← List.reverse_reverse items, parts]
      simp
    · simpa using others later (List.mem_reverse.mp member)
  · rintro ⟨before, after, rfl, others⟩
    refine ⟨after.reverse, before.reverse, by simp, fun later member => ?_⟩
    simpa using others later (List.mem_reverse.mp member)

end SchemaSeed.Traversal
