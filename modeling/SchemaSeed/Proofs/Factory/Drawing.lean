import Mathlib
import SchemaSeed.Factory.Random

/-!
What a draw can give. Whatever words the source still holds, a number that is drawn from a range
lies in that range, a letter or digit is one, and what is picked from a list is a member of the
list. What is put together from several draws is known from what each of them can give.
-/

set_option autoImplicit false
set_option relaxedAutoImplicit false

namespace SchemaSeed.Factory.Draw

variable {α β : Type}

/-- From any state of the source, what is drawn has a property. -/
def Gives (draw : Draw α) (P : α → Prop) : Prop := ∀ source : RandomSource, P (draw.run source).1

namespace Gives

variable {draw : Draw α} {next : α → Draw β} {P : α → Prop} {Q : β → Prop}

protected theorem pure {a : α} (holds : P a) : Gives (pure a) P := fun _ => holds

/-- The second draw meets the source that the first one has left. -/
protected theorem bind (first : Gives draw P) (second : ∀ a, P a → Gives (next a) Q) :
    Gives (draw >>= next) Q :=
  fun source => second _ (first source) (draw.run source).2

/-- Something is made of what is drawn. -/
theorem made {f : α → β} (given : Gives draw P) (each : ∀ a, P a → Q (f a)) :
    Gives (do return f (← draw)) Q :=
  given.bind fun a holds => .pure (each a holds)

theorem anything (draw : Draw α) : Gives draw fun _ => True := fun _ => trivial

/-- Each of several values has what one of them has. -/
protected theorem times (given : Gives draw P) (n : Nat) :
    Gives (times n draw) fun values => values.length = n ∧ ∀ value ∈ values, P value := by
  induction n with
  | zero => exact .pure ⟨rfl, List.forall_mem_nil _⟩
  | succ n ih =>
    refine given.bind fun first holds => ih.made fun rest => ?_
    rintro ⟨length, others⟩
    exact ⟨congrArg (· + 1) length, List.forall_mem_cons.mpr ⟨holds, others⟩⟩

end Gives

private theorem bounds_of_span {lo hi : Int} (h : lo ≤ hi) (k : Fin (hi - lo + 1).toNat) :
    lo ≤ lo + (k.val : Int) ∧ lo + (k.val : Int) ≤ hi := by
  have less := k.isLt
  omega

theorem between_gives {lo hi : Int} (h : lo ≤ hi) :
    Gives (between lo hi h) fun n => lo ≤ n ∧ n ≤ hi :=
  (Gives.anything _).made fun k _ => bounds_of_span h k

theorem betweenWide_gives {lo hi : Int} (h : lo ≤ hi) :
    Gives (betweenWide lo hi h) fun n => lo ≤ n ∧ n ≤ hi :=
  (Gives.anything _).made fun k _ => bounds_of_span h k

theorem pick_gives (l : List α) (h : 0 < l.length) : Gives (pick l h) (· ∈ l) :=
  (Gives.anything _).made fun k _ => l.get_mem k

/-- The number that is drawn for a list is the index of one of its members, of that which is
picked. -/
theorem getElem?_pick (l : List α) (h : 0 < l.length) (source : RandomSource) :
    l[((belowWide l.length h).run source).1.val]? = some ((pick l h).run source).1 :=
  List.getElem?_eq_getElem ((belowWide l.length h).run source).1.isLt

private theorem isAlphanum_letterOrDigit {n : Nat} (small : n < 62) :
    (letterOrDigit n).isAlphanum = true := by
  have each : ∀ n < 62, (letterOrDigit n).isAlphanum = true := by decide
  exact each n small

/-- A letter or digit is drawn, also when no word would do. -/
theorem alphanumeric_gives : Gives alphanumeric (·.isAlphanum = true) := by
  unfold alphanumeric
  -- A word that is too large leaves one try less, and the source behind it.
  induction maxTries with
  | zero => exact .pure (by decide)
  | succ tries ih =>
    refine (Gives.anything word).bind fun w _ => ?_
    dsimp only
    split
    · rename_i small
      exact .pure (isAlphanum_letterOrDigit small)
    · exact ih

end SchemaSeed.Factory.Draw
