import Mathlib
import SchemaSeed.Text.Blank

/-!
Blank texts: nothing is left of them when the blanks at both ends are taken away.
-/

set_option autoImplicit false
set_option relaxedAutoImplicit false

namespace SchemaSeed.Text

/-- What is left of some characters starts with one that is no blank, so they are all blank if
nothing is left. -/
theorem trimChars_eq_nil_iff (cs : List Char) : trimChars cs = [] ↔ cs.all isBlank = true := by
  unfold trimChars
  rw [List.reverse_eq_nil_iff, List.dropWhile_eq_nil_iff, List.all_eq_true]
  constructor
  · intro left
    have none : cs.dropWhile isBlank = [] := by
      cases rest : cs.dropWhile isBlank with
      | nil => rfl
      | cons c more =>
        have first : isBlank c = false := by
          have head := List.head?_dropWhile_not isBlank cs
          rw [rest] at head
          simpa using head
        have blank := left c (by simp [rest])
        rw [first] at blank
        cases blank
    exact List.dropWhile_eq_nil_iff.mp none
  · intro blank c member
    have member : c ∈ cs.dropWhile isBlank := List.mem_reverse.mp member
    exact blank c ((List.dropWhile_suffix isBlank).subset member)

/-- A text is blank if nothing is left of it. -/
theorem isBlankText_iff {s : String} : isBlankText s = true ↔ trim s = "" := by
  have empty : trim s = "" ↔ trimChars s.toList = [] := by
    unfold trim
    rw [← String.toList_inj, String.toList_ofList]
    rfl
  rw [empty, trimChars_eq_nil_iff]
  rfl

theorem isBlankText_eq_false_iff {s : String} : isBlankText s = false ↔ trim s ≠ "" := by
  rw [ne_eq, ← isBlankText_iff, Bool.not_eq_true]

end SchemaSeed.Text
