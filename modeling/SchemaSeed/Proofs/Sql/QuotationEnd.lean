import Mathlib
import SchemaSeed.Proofs.Sql.Quoting

/-!
Where a quotation ends. Quoted text is read back in front of any other text, of which nothing is
taken: a quotation runs up to a mark that is not doubled, so the only text that it runs on into is
one that begins with its own mark.
-/

set_option autoImplicit false
set_option relaxedAutoImplicit false

namespace SchemaSeed.Sql

open Dialect

namespace Scan

/-- What has been read of a quotation. -/
def content : Scan → List Char
  | .inside _ read => read
  | .escaped read => read
  | .closing _ read => read
  | _ => []

/-- Whether a quotation has ended in front of a character, if there is one: a mark has been read,
and this is not a second one. -/
def ended (d : Dialect) : Scan → Option Char → Bool
  | .closing kind _, c => c ≠ some (kind.mark d)
  | _, _ => false

/-- Reads on to the end of a quotation: what it says, and what is left behind it. -/
def toEnd? (d : Dialect) (r : Scan) (cs : List Char) : Option (List Char × List Char) :=
  if ended d r cs.head? then some (r.content, cs)
  else
    match cs with
    | [] => none
    | c :: rest => toEnd? d (step d r c).1 rest

section

variable {d : Dialect} {r r' : Scan}

theorem toEnd?_cons {c : Char} (goesOn : ended d r (some c) = false) (rest : List Char) :
    toEnd? d r (c :: rest) = toEnd? d (step d r c).1 rest := by
  rw [toEnd?, List.head?_cons, goesOn]
  rfl

/-- The token of a quotation is told by the character that does not belong to it any more. -/
private theorem ended_eq_false {c : Char} (silent : (step d r c).2 = []) :
    ended d r (some c) = false := by
  cases r with
  | closing kind read =>
    by_cases mark : c = kind.mark d
    · simp [ended, mark]
    · have told : (step d (.closing kind read) c).2 =
          .quoted kind (String.ofList read) :: (opening d c).2 := by
        unfold step
        dsimp only
        rw [if_neg mark]
        rfl
      rw [told] at silent
      cases silent
  | between | word _ | number _ | inside _ _ | escaped _ => rfl

/-- What tells no token does not end a quotation. -/
theorem toEnd?_append {body : List Char} (fed : feed d r body = (r', [])) (rest : List Char) :
    toEnd? d r (body ++ rest) = toEnd? d r' rest := by
  induction body generalizing r with
  | nil =>
    obtain rfl : r = r' := congrArg Prod.fst fed
    rfl
  | cons c others ih =>
    rw [feed_cons] at fed
    obtain ⟨state, told⟩ := Prod.mk.inj fed
    obtain ⟨silent, silent'⟩ := List.append_eq_nil_iff.mp told
    rw [List.cons_append, toEnd?_cons (ended_eq_false silent)]
    exact ih (Prod.ext state silent')

private theorem length_le_of_toEnd? {cs said left : List Char}
    (found : toEnd? d r cs = some (said, left)) : left.length ≤ cs.length := by
  fun_induction toEnd? d r cs with
  | case1 =>
    obtain ⟨-, rfl⟩ := Prod.mk.inj (Option.some.inj found)
    exact le_rfl
  | case2 => cases found
  | case3 r goesOn c rest ih => exact (ih found).trans (Nat.le_succ _)

/-- Behind its mark a quotation has ended unless the mark comes again, which takes it along. -/
theorem toEnd?_closing_iff {kind : Quotation} (read rest : List Char) :
    toEnd? d (.closing kind read) rest = some (read, rest) ↔ rest.head? ≠ some (kind.mark d) := by
  constructor
  · intro found again
    cases rest with
    | nil => cases again
    | cons c rest =>
      obtain rfl : c = kind.mark d := Option.some.inj again
      rw [toEnd?_cons (by simp [ended])] at found
      -- The second mark is taken, so less is left than the text that begins with it.
      exact absurd (length_le_of_toEnd? found) (Nat.not_succ_le_self _)
  · intro other
    unfold toEnd?
    rw [if_pos (by simpa [ended] using other)]
    rfl

end

end Scan

/-- Reads the quotation that a text begins with: what it says, and the text behind it. -/
def quotation? (d : Dialect) (kind : Quotation) (text : String) : Option (String × String) :=
  match text.toList with
  | [] => none
  | c :: rest =>
    if c = kind.mark d then
      (Scan.toEnd? d (.inside kind []) rest).map fun (said, left) =>
        (String.ofList said, String.ofList left)
    else none

/-- A body that the reader takes in between two marks is what the quotation says, and the rest is
left exactly if it does not begin with the mark. -/
private theorem quotation?_append_iff {d : Dialect} {kind : Quotation} {body : List Char}
    {said rest : String}
    (fed : Scan.feed d (.inside kind []) body = (.inside kind said.toList, [])) :
    quotation? d kind (String.ofList (kind.mark d :: body ++ [kind.mark d]) ++ rest) =
        some (said, rest) ↔ rest.toList.head? ≠ some (kind.mark d) := by
  have whole : (String.ofList (kind.mark d :: body ++ [kind.mark d]) ++ rest).toList =
      kind.mark d :: (body ++ kind.mark d :: rest.toList) := by
    simp [String.toList_append]
  have closes : Scan.toEnd? d (.inside kind []) (body ++ kind.mark d :: rest.toList) =
      Scan.toEnd? d (.closing kind said.toList) rest.toList := by
    rw [Scan.toEnd?_append fed, Scan.toEnd?_cons rfl, step_mark]
  unfold quotation?
  rw [whole]
  dsimp only
  rw [if_pos rfl, closes, ← Scan.toEnd?_closing_iff said.toList]
  constructor
  · intro found
    obtain ⟨⟨s, left⟩, ended, same⟩ := Option.map_eq_some_iff.mp found
    obtain ⟨rfl, rfl⟩ := Prod.mk.inj same
    rw [ended, String.toList_ofList, String.toList_ofList]
  · intro ended
    rw [ended, Option.map_some, String.ofList_toList, String.ofList_toList]

/-- Quoted text is read back in front of any other text, by the rule for names of either dialect, by
the standard rule for literals, and by the rule with backslashes: what is read is the text that was
quoted, and what is left is the other text, exactly if that does not begin with the closing mark. -/
theorem quotations_read_back (s rest : String) :
    (∀ d : Dialect, quotation? d .name (d.quoteName s ++ rest) = some (s, rest) ↔
      rest.toList.head? ≠ some d.quoteMark) ∧
    (quotation? .postgres .literal (quoteLiteral s ++ rest) = some (s, rest) ↔
      rest.toList.head? ≠ some '\'') ∧
    (quotation? .mysql .literal (Dialect.mysql.quoteText s ++ rest) = some (s, rest) ↔
      rest.toList.head? ≠ some '\'') := by
  refine ⟨fun d => quotation?_append_iff (feed_doubled [] (by simp) s.toList),
    quotation?_append_iff (feed_doubled [] (by simp) s.toList), ?_⟩
  have written : Dialect.mysql.quoteText s = String.ofList (Quotation.literal.mark .mysql ::
      doubled '\'' (String.ofList (doubled '\\' s.toList)).toList ++
        [Quotation.literal.mark .mysql]) := rfl
  rw [written, String.toList_ofList]
  exact quotation?_append_iff (feed_escaped [] s.toList)

end SchemaSeed.Sql
