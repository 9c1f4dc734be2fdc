import Mathlib
import SchemaSeed.Proofs.Sql.Token

/-!
A quoted name, a quoted text and a placeholder are read back as what they were written for, whatever
characters the name or the text has.
-/

set_option autoImplicit false
set_option relaxedAutoImplicit false

namespace SchemaSeed.Sql

open Scan Dialect

/-- The number that a placeholder carries, in the dialect that counts them. -/
def Dialect.parameterNumber : Dialect → Nat → Option Nat
  | .postgres, i => some i
  | .mysql, _ => none

section

variable {d : Dialect} {kind : Quotation} {c : Char} (read : List Char)

theorem step_mark : step d (.inside kind read) (kind.mark d) = (.closing kind read, []) :=
  if_pos rfl

private theorem step_mark_again :
    step d (.closing kind read) (kind.mark d) = (.inside kind (read ++ [kind.mark d]), []) :=
  if_pos rfl

private theorem step_other (other : c ≠ kind.mark d)
    (plain : ¬ (c = '\\' ∧ kind = .literal ∧ d = .mysql)) :
    step d (.inside kind read) c = (.inside kind (read ++ [c]), []) := by
  unfold step
  dsimp only
  rw [if_neg other, if_neg plain]

/-- Where no backslash escapes, doubling the mark is all that is needed. -/
theorem feed_doubled (plain : ¬ (kind = .literal ∧ d = .mysql)) (content : List Char) :
    feed d (.inside kind read) (doubled (kind.mark d) content) =
      (.inside kind (read ++ content), []) := by
  induction content generalizing read with
  | nil => simp [doubled, feed]
  | cons c rest ih =>
    unfold doubled at ih ⊢
    rw [List.flatMap_cons]
    by_cases mark : c = kind.mark d
    · rw [if_pos mark, feed_append, feed_cons, mark, step_mark, feed_cons, step_mark_again]
      dsimp only [feed]
      rw [ih]
      simp
    · rw [if_neg mark, feed_append, feed_cons, step_other read mark fun all => plain all.2]
      dsimp only [feed]
      rw [ih]
      simp

/-- Where a backslash escapes, it is doubled before the mark is. -/
theorem feed_escaped (content : List Char) :
    feed .mysql (.inside .literal read) (doubled '\'' (doubled '\\' content)) =
      (.inside .literal (read ++ content), []) := by
  induction content generalizing read with
  | nil => simp [doubled, feed]
  | cons c rest ih =>
    have one : feed .mysql (.inside .literal read) (doubled '\'' (doubled '\\' [c])) =
        (.inside .literal (read ++ [c]), []) := by
      by_cases backslash : c = '\\'
      · subst backslash
        rfl
      by_cases mark : c = '\''
      · subst mark
        rfl
      · have same : doubled '\'' (doubled '\\' [c]) = [c] := by simp [doubled, backslash, mark]
        rw [same, feed_cons, step_other read mark fun all => backslash all.1]
        rfl
    have split_ : doubled '\'' (doubled '\\' (c :: rest)) =
        doubled '\'' (doubled '\\' [c]) ++ doubled '\'' (doubled '\\' rest) := by
      simp [doubled]
    rw [split_, feed_append, one, ih]
    simp

end

namespace Reads

variable {d : Dialect}

/-- A quotation is read between its marks. -/
private theorem quotation {kind : Quotation} {body : List Char} {text : String}
    (opens : opening d (kind.mark d) = (.inside kind [], []))
    (content : feed d (.inside kind []) body = (.inside kind text.toList, [])) :
    Reads d Idle Settled (String.ofList (kind.mark d :: body ++ [kind.mark d]))
      [.quoted kind text] := by
  have whole : feed d .between (String.ofList (kind.mark d :: body ++ [kind.mark d])).toList =
      (.closing kind text.toList, []) := by
    rw [String.toList_ofList, List.cons_append, feed_cons,
      show step d .between (kind.mark d) = opening d (kind.mark d) from rfl, opens, feed_append]
    dsimp only
    rw [content, feed_cons, step_mark]
    rfl
  have reads : Reads d Idle Settled _ ([] ++ [.quoted kind (String.ofList text.toList)]) :=
    of_feed whole trivial
  rw [List.nil_append, String.ofList_toList] at reads
  exact reads

/-- A quoted name is read back as the name. -/
theorem quoteName (name : String) :
    Reads d Idle Settled (d.quoteName name) [.quoted .name name] := by
  have opens : opening d (Quotation.name.mark d) = (.inside .name [], []) := by cases d <;> rfl
  have written : d.quoteName name = String.ofList (Quotation.name.mark d ::
      doubled (Quotation.name.mark d) name.toList ++ [Quotation.name.mark d]) := rfl
  rw [written]
  exact quotation opens (feed_doubled [] (by simp) name.toList)

/-- A quoted text is read back as the text. -/
theorem quoteText (text : String) :
    Reads d Idle Settled (d.quoteText text) [.quoted .literal text] := by
  cases d with
  | postgres =>
    have opens : opening .postgres (Quotation.literal.mark .postgres) = (.inside .literal [], []) :=
      rfl
    have written : quoteText .postgres text = String.ofList (Quotation.literal.mark .postgres ::
        doubled (Quotation.literal.mark .postgres) text.toList ++
          [Quotation.literal.mark .postgres]) := rfl
    rw [written]
    exact quotation opens (feed_doubled [] (by simp) text.toList)
  | mysql =>
    have opens : opening .mysql (Quotation.literal.mark .mysql) = (.inside .literal [], []) := rfl
    have written : Dialect.quoteText .mysql text = String.ofList (Quotation.literal.mark .mysql ::
        doubled '\'' (String.ofList (doubled '\\' text.toList)).toList ++
          [Quotation.literal.mark .mysql]) := rfl
    rw [written, String.toList_ofList]
    exact quotation opens (feed_escaped [] text.toList)

private theorem feed_digits (read digits : List Char) (all : ∀ c ∈ digits, c.isDigit = true) :
    feed d (.number read) digits = (.number (read ++ digits), []) := by
  induction digits generalizing read with
  | nil => simp [feed]
  | cons c rest ih =>
    obtain ⟨digit, others⟩ := List.forall_mem_cons.mp all
    rw [feed_cons, show step d (.number read) c = (.number (read ++ [c]), []) from if_pos digit]
    dsimp only
    rw [ih _ others]
    simp

/-- A placeholder is read back with its number, if it has one. -/
theorem placeholder (i : Nat) :
    Reads d Idle Settled (d.placeholder i) [.parameter (d.parameterNumber i)] := by
  cases d with
  | mysql =>
    have fed : feed .mysql .between "?".toList = (.between, [.parameter none]) := by decide
    exact of_feed fed trivial
  | postgres =>
    have digits (c : Char) (member : c ∈ Nat.toDigits 10 i) : c.isDigit = true :=
      Nat.isDigit_of_mem_toDigits (by decide) (by decide) member
    have sign : feed .postgres .between "$".toList = (.number [], []) := by decide
    have fed : feed .postgres .between (Dialect.placeholder .postgres i).toList =
        (.number (Nat.toDigits 10 i), []) := by
      unfold Dialect.placeholder
      rw [String.toList_append, feed_append, sign, Nat.toString_eq_ofList_toDigits,
        String.toList_ofList]
      dsimp only
      rw [feed_digits [] _ digits]
      rfl
    have value : (Scan.number (Nat.toDigits 10 i)).pending = [.parameter (some i)] := by
      unfold pending
      dsimp only
      rw [if_neg Nat.toDigits_ne_nil, Nat.ofDigitChars_toDigits (by decide) (by decide)]
    have reads : Reads .postgres Idle Settled _ ([] ++ [.parameter (some i)]) :=
      value ▸ of_feed fed trivial
    exact reads

end Reads

end SchemaSeed.Sql
