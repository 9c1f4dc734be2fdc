import Mathlib
import SchemaSeed.Proofs.Text.ByteOrder

/-!
Sorted texts. What comes out of sorting depends on which texts go in and not on their order, and
distinct texts come out in strict order of their bytes.
-/

set_option autoImplicit false
set_option relaxedAutoImplicit false

namespace SchemaSeed.Text

/-- A comparison by which texts can be sorted in one way only. -/
structure IsLinear (le : String → String → Bool) : Prop where
  trans : ∀ a b c, le a b = true → le b c = true → le a c = true
  total : ∀ a b, (le a b || le b a) = true
  antisymm : ∀ a b, le a b = true → le b a = true → a = b

theorem isLinear_ascending : IsLinear fun a b => decide (a ≤ b) where
  trans a b c first second := by
    simpa using String.le_trans (of_decide_eq_true first) (of_decide_eq_true second)
  total a b := by simpa using String.le_total a b
  antisymm a b first second :=
    String.le_antisymm (of_decide_eq_true first) (of_decide_eq_true second)

theorem isLinear_descending : IsLinear fun a b => decide (b ≤ a) where
  trans a b c first second := isLinear_ascending.trans c b a second first
  total a b := isLinear_ascending.total b a
  antisymm a b first second := isLinear_ascending.antisymm a b second first

namespace IsLinear

variable {le : String → String → Bool} (linear : IsLinear le) {names names' : List String}

include linear

theorem mergeSort_eq (same : names'.Perm names) : names'.mergeSort le = names.mergeSort le :=
  List.Perm.eq_of_pairwise (fun a b _ _ => linear.antisymm a b)
    (List.pairwise_mergeSort linear.trans linear.total names')
    (List.pairwise_mergeSort linear.trans linear.total names)
    ((List.mergeSort_perm names' le).trans (same.trans (List.mergeSort_perm names le).symm))

/-- Names in order are what sorting makes of the same names in any order. -/
theorem mergeSort_eq_of_pairwise (same : names'.Perm names)
    (sorted : names.Pairwise fun a b => le a b = true) : names'.mergeSort le = names :=
  (linear.mergeSort_eq same).trans (List.mergeSort_of_pairwise sorted)

theorem pairwise_mergeSort (once : names.Nodup) :
    (names.mergeSort le).Pairwise fun a b => le a b = true ∧ a ≠ b :=
  List.pairwise_and_iff.mpr ⟨List.pairwise_mergeSort linear.trans linear.total names,
    (List.mergeSort_perm names le).nodup_iff.mpr once⟩

end IsLinear

/-- Of two different texts in order the first has smaller bytes. -/
theorem bytes_lt_of_le {a b : String} (below : a ≤ b) (different : a ≠ b) : bytes a < bytes b :=
  bytes_lt (String.not_le.mp fun above => different (String.le_antisymm below above))

variable {names : List String}

theorem ascending_mergeSort (once : names.Nodup) :
    (names.mergeSort fun a b => decide (a ≤ b)).Pairwise fun a b => bytes a < bytes b :=
  (isLinear_ascending.pairwise_mergeSort once).imp fun ⟨below, different⟩ =>
    bytes_lt_of_le (of_decide_eq_true below) different

theorem descending_mergeSort (once : names.Nodup) :
    (names.mergeSort fun a b => decide (b ≤ a)).Pairwise fun a b => bytes b < bytes a :=
  (isLinear_descending.pairwise_mergeSort once).imp fun ⟨below, different⟩ =>
    bytes_lt_of_le (of_decide_eq_true below) different.symm

end SchemaSeed.Text
