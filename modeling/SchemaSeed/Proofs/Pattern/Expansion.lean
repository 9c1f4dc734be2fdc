import Mathlib
import SchemaSeed.Factory.Manipulation

/-!
What replacement texts refer to. Bare numbers are put in braces before a text is taken apart, and so
are those that stand in braces already: a reference in braces then ends behind the number, and the
brace that was to close it is left over.
-/

set_option autoImplicit false
set_option relaxedAutoImplicit false

namespace SchemaSeed.Pattern

open SchemaSeed.Number

/-! Reading a text as it stands, in which bare numbers end with their last digit. -/

/-- How the name behind an opening brace is found: the name, and how many characters it takes
together with what ends it. -/
abbrev Closing := List Char → Option (List Char × Nat)

/-- The group of a bare number; no group has a number of more than 64 bits. -/
def GroupRef.ofDigits (ds : List Char) : GroupRef :=
  if digitsValue 0 ds < 2 ^ 64 then .number (digitsValue 0 ds) else .name (String.ofList ds)

/-- What a dollar sign stands for, and how many characters behind it belong to it. It refers to the
group whose name is in braces, to that of all the digits that follow, or else to the one with the
longest name; a dollar sign that refers to nothing stands for itself. -/
def dollar (close : Closing) : List Char → Piece × Nat
  | '\x7b' :: rest =>
    match close rest with
    | some (name, used) => (.group (.ofText (String.ofList name)), used + 1)
    | none => (.verbatim '$', 0)
  | rest =>
    match rest.takeWhile Char.isDigit with
    | [] =>
      match rest.takeWhile isBareName with
      | [] => (.verbatim '$', 0)
      | name => (.group (.ofText (String.ofList name)), name.length)
    | ds => (.group (.ofDigits ds), ds.length)

/-- Takes a text apart from left to right. -/
def piecesBy (close : Closing) : List Char → List Piece
  | [] => []
  | '$' :: '$' :: rest => .verbatim '$' :: piecesBy close rest
  | '$' :: rest => (dollar close rest).1 :: piecesBy close (rest.drop (dollar close rest).2)
  | c :: rest => .verbatim c :: piecesBy close rest
termination_by cs => cs.length
decreasing_by all_goals simp_wf; try omega

/-- What a text stands for, piece by piece. -/
def meaning (close : Closing) (lookup : GroupRef → Option String) (text : List Char) : String :=
  String.join ((piecesBy close text).map (Piece.expand lookup))

/-- The name up to the next brace. -/
def atBrace : Closing := fun rest =>
  if '\x7d' ∈ rest then
    some (rest.takeWhile (· != '\x7d'), (rest.takeWhile (· != '\x7d')).length + 1)
  else none

/-- The same name with some more characters at its start. -/
def longer (part : List Char) (found : Option (List Char × Nat)) : Option (List Char × Nat) :=
  found.map fun (name, used) => (part ++ name, part.length + used)

/-- The name up to the next brace when bare numbers have been put in braces: it ends at a brace of
the text or with a bare number, whichever comes first. -/
def atNumber : Closing
  | [] => none
  | '\x7d' :: _ => some ([], 1)
  | '$' :: '$' :: rest => longer ['$', '$'] (atNumber rest)
  | '$' :: rest =>
    match rest.takeWhile Char.isDigit with
    | [] => longer ['$'] (atNumber rest)
    | ds => some (['$', '\x7b'] ++ ds, ds.length + 1)
  | c :: rest => longer [c] (atNumber rest)

/-- Whether some reference in braces comes to a bare number before a brace. -/
def hasNumberInBraces : List Char → Bool
  | [] => false
  | '$' :: '$' :: rest => hasNumberInBraces rest
  | '$' :: rest =>
    dollar atNumber rest != dollar atBrace rest ||
      hasNumberInBraces (rest.drop (dollar atBrace rest).2)
  | _ :: rest => hasNumberInBraces rest
termination_by cs => cs.length
decreasing_by all_goals simp_wf; try omega

/-! Two dollar signs stand for one. -/

theorem normalize_escape (rest : List Char) :
    normalize ('$' :: '$' :: rest) = '$' :: '$' :: normalize rest := by
  rw [normalize]

theorem pieces_escape (rest : List Char) :
    pieces ('$' :: '$' :: rest) = .verbatim '$' :: pieces rest := by
  rw [pieces]

theorem piecesBy_escape (close : Closing) (rest : List Char) :
    piecesBy close ('$' :: '$' :: rest) = .verbatim '$' :: piecesBy close rest := by
  rw [piecesBy]

/-! Runs of characters of one kind. -/

/-- The longest run of characters of a kind, and what is left behind it. -/
private theorem takeWhile_split (p : Char → Bool) (rest : List Char) :
    ∃ run left, rest = run ++ left ∧ rest.takeWhile p = run ∧ rest.drop run.length = left ∧
      (∀ c ∈ run, p c = true) ∧ left.takeWhile p = [] := by
  induction rest with
  | nil => exact ⟨[], [], rfl, rfl, rfl, by simp, rfl⟩
  | cons c rest ih =>
    by_cases more : p c = true
    · obtain ⟨run, left, rfl, same, dropped, all, stop⟩ := ih
      exact ⟨c :: run, left, rfl, by rw [List.takeWhile_cons_of_pos more, same], dropped,
        List.forall_mem_cons.mpr ⟨more, all⟩, stop⟩
    · have stop := List.takeWhile_cons_of_neg (l := rest) more
      exact ⟨[], c :: rest, rfl, stop, rfl, by simp, stop⟩

private theorem takeWhile_eq_nil_congr {p : Char → Bool} {cs cs' : List Char}
    (same : cs.head? = cs'.head?) (none : cs.takeWhile p = []) : cs'.takeWhile p = [] := by
  cases cs <;> cases cs' <;> simp_all [List.takeWhile_cons]

private theorem takeWhile_brace {name : List Char} (none : '\x7d' ∉ name) (rest : List Char) :
    (name ++ rest).takeWhile (· != '\x7d') = name ++ rest.takeWhile (· != '\x7d') :=
  List.takeWhile_append_of_pos fun _ member => bne_iff_ne.mpr fun same => none (same ▸ member)

private theorem takeWhile_closed {name : List Char} (none : '\x7d' ∉ name) (rest : List Char) :
    (name ++ '\x7d' :: rest).takeWhile (· != '\x7d') = name := by
  rw [takeWhile_brace none, List.takeWhile_cons_of_neg (by simp), List.append_nil]

section

variable {c : Char} {rest : List Char}

/-! Putting bare numbers in braces. -/

theorem normalize_other (other : c ≠ '$') : normalize (c :: rest) = c :: normalize rest := by
  rw [normalize]
  all_goals simp [other]

theorem normalize_dollar (single : ∀ more, rest ≠ '$' :: more)
    (plain : rest.takeWhile Char.isDigit = []) : normalize ('$' :: rest) = '$' :: normalize rest := by
  rw [normalize, plain]
  exact single

theorem normalize_number (number : rest.takeWhile Char.isDigit ≠ []) :
    normalize ('$' :: rest) = ['$', '\x7b'] ++ rest.takeWhile Char.isDigit ++ '\x7d' ::
      normalize (rest.drop (rest.takeWhile Char.isDigit).length) := by
  rw [normalize]
  · split
    · contradiction
    · simp
  · rintro more rfl
    exact number rfl

/-- A text keeps its start, up to the first dollar sign. -/
theorem normalize_append {name : List Char} (plain : '$' ∉ name) :
    normalize (name ++ rest) = name ++ normalize rest := by
  induction name with
  | nil => rfl
  | cons c name ih =>
    rw [List.mem_cons, not_or] at plain
    rw [List.cons_append, normalize_other (Ne.symm plain.1), ih plain.2, List.cons_append]

private theorem head?_normalize (rest : List Char) : (normalize rest).head? = rest.head? := by
  induction rest using normalize.induct with
  | case1 => rw [normalize]
  | case2 rest ih => rw [normalize_escape, List.head?_cons, List.head?_cons]
  | case3 rest single plain ih =>
    rw [normalize_dollar single plain]
    rfl
  | case4 rest single number ih =>
    rw [normalize_number number]
    rfl
  | case5 c rest escape other ih =>
    rw [normalize_other other]
    rfl

private theorem normalize_ne (other : ∀ more, rest ≠ c :: more) (more : List Char) :
    normalize rest ≠ c :: more := by
  intro same
  have head := head?_normalize rest
  rw [same, List.head?_cons] at head
  obtain ⟨more', rfl⟩ := List.head?_eq_some_iff.mp head.symm
  exact other more' rfl

/-- A name is as long as before, since there is no dollar sign in it. -/
private theorem takeWhile_normalize (rest : List Char) :
    (normalize rest).takeWhile isBareName = rest.takeWhile isBareName ∧
      (normalize rest).drop (rest.takeWhile isBareName).length =
        normalize (rest.drop (rest.takeWhile isBareName).length) := by
  obtain ⟨name, left, rfl, run, dropped, bare, stop⟩ := takeWhile_split isBareName rest
  have plain : '$' ∉ name := fun member => absurd (bare _ member) (by decide)
  rw [run, dropped, normalize_append plain, List.takeWhile_append_of_pos bare,
    takeWhile_eq_nil_congr (head?_normalize left).symm stop, List.append_nil]
  exact ⟨rfl, List.drop_left⟩

/-! Where references in braces end. -/

theorem atNumber_dollar (single : ∀ more, rest ≠ '$' :: more)
    (plain : rest.takeWhile Char.isDigit = []) :
    atNumber ('$' :: rest) = longer ['$'] (atNumber rest) := by
  rw [atNumber]
  · rw [plain]
  · exact single

theorem atNumber_number (number : rest.takeWhile Char.isDigit ≠ []) :
    atNumber ('$' :: rest) = some (['$', '\x7b'] ++ rest.takeWhile Char.isDigit,
      (rest.takeWhile Char.isDigit).length + 1) := by
  rw [atNumber]
  · split
    · contradiction
    · rfl
  · rintro more rfl
    exact number rfl

theorem atNumber_other (other : c ≠ '$') (brace : c ≠ '\x7d') :
    atNumber (c :: rest) = longer [c] (atNumber rest) := by
  rw [atNumber]
  all_goals simp [other, brace]

/-- What the text behind an opening brace comes to first: nothing that ends a name, a brace, or a
bare number, which is followed by a brace when it has been put in braces. -/
inductive Ends : List Char → Prop
  | never {rest : List Char} : '\x7d' ∉ rest → '\x7d' ∉ normalize rest → atNumber rest = none →
      Ends rest
  | brace {name rest : List Char} : '\x7d' ∉ name →
      normalize (name ++ '\x7d' :: rest) = name ++ '\x7d' :: normalize rest →
      atNumber (name ++ '\x7d' :: rest) = some (name, name.length + 1) →
        Ends (name ++ '\x7d' :: rest)
  | number {name ds rest : List Char} : '\x7d' ∉ name → ds ≠ [] →
      (∀ d ∈ ds, d.isDigit = true) →
      normalize (name ++ '$' :: (ds ++ rest)) =
        name ++ ['$', '\x7b'] ++ ds ++ '\x7d' :: normalize rest →
      atNumber (name ++ '$' :: (ds ++ rest)) =
        some (name ++ ['$', '\x7b'] ++ ds, name.length + 1 + ds.length) →
        Ends (name ++ '$' :: (ds ++ rest))

/-- A text that goes on with more of the name ends where the rest of it does. -/
private theorem Ends.longer (part : List Char) (ends : Ends rest) (unbraced : '\x7d' ∉ part)
    (kept : normalize (part ++ rest) = part ++ normalize rest)
    (passed : atNumber (part ++ rest) = longer part (atNumber rest)) : Ends (part ++ rest) := by
  cases ends with
  | never none none' found =>
    refine .never (by simp [unbraced, none]) (by simp [kept, unbraced, none']) ?_
    rw [passed, found]
    rfl
  | @brace name rest none written found =>
    rw [← List.append_assoc]
    refine .brace (by simp [unbraced, none]) ?_ ?_
    · rw [List.append_assoc, kept, written, List.append_assoc]
    · rw [List.append_assoc, passed, found]
      simp [Pattern.longer, Nat.add_assoc]
  | @number name ds rest none some digits written found =>
    rw [← List.append_assoc]
    refine .number (by simp [unbraced, none]) some digits ?_ ?_
    · rw [List.append_assoc, kept, written]
      simp
    · rw [List.append_assoc, passed, found]
      simp [Pattern.longer, Nat.add_assoc]

theorem ends (rest : List Char) : Ends rest := by
  induction rest using atNumber.induct with
  | case1 => exact .never (by simp) (by simp [normalize]) rfl
  | case2 rest => exact @Ends.brace [] rest (by simp) (normalize_other (by decide)) rfl
  | case3 rest ih => exact ih.longer ['$', '$'] (by decide) (normalize_escape rest) rfl
  | case4 rest single plain ih =>
    exact ih.longer ['$'] (by decide) (normalize_dollar single plain)
      (atNumber_dollar single plain)
  | case5 rest single number =>
    have number : rest.takeWhile Char.isDigit ≠ [] := number
    have written := normalize_number number
    have found := atNumber_number number
    obtain ⟨ds, left, rfl, run, dropped, digits, -⟩ := takeWhile_split Char.isDigit rest
    rw [run] at number written found
    rw [dropped] at written
    refine @Ends.number [] ds left (by simp) number digits written ?_
    rw [List.nil_append, found, List.length_nil, Nat.zero_add, Nat.add_comm]
    rfl
  | case6 c rest brace escape other ih =>
    have brace : c ≠ '\x7d' := brace
    exact ih.longer [c] (by simpa using brace.symm) (normalize_other other)
      (atNumber_other other brace)

private theorem unbraced_of_digits {ds : List Char} (digits : ∀ d ∈ ds, d.isDigit = true) :
    '\x7d' ∉ ds := fun member => absurd (digits _ member) (by decide)

/-- A name that is found is closed by a brace when bare numbers are in braces. -/
theorem atNumber_some {name : List Char} {used : Nat} (found : atNumber rest = some (name, used)) :
    '\x7d' ∉ name ∧ normalize rest = name ++ '\x7d' :: normalize (rest.drop used) := by
  cases ends rest with
  | never _ _ found' =>
    rw [found'] at found
    cases found
  | @brace name' left none written found' =>
    obtain ⟨rfl, rfl⟩ : name' = name ∧ name'.length + 1 = used := by
      simpa using found'.symm.trans found
    exact ⟨none, written.trans (by simp)⟩
  | @number name' ds left none some digits written found' =>
    obtain ⟨rfl, rfl⟩ : name' ++ ['$', '\x7b'] ++ ds = name ∧
        name'.length + 1 + ds.length = used := by
      simpa using found'.symm.trans found
    have dropped : (name' ++ '$' :: (ds ++ left)).drop (name'.length + 1 + ds.length) = left := by
      simp [Nat.add_assoc, Nat.add_comm 1]
    rw [dropped]
    exact ⟨by simp [none, unbraced_of_digits digits], written⟩

theorem atNumber_none (found : atNumber rest = none) : '\x7d' ∉ normalize rest := by
  cases ends rest with
  | never _ none _ => exact none
  | brace _ _ found' | number _ _ _ _ found' =>
    rw [found] at found'
    cases found'

/-! What the groups of a text are called. -/

/-- Digits in braces refer to the group of their number. -/
theorem GroupRef.ofText_digits {ds : List Char} (some : ds ≠ [])
    (digits : ∀ d ∈ ds, d.isDigit = true) : GroupRef.ofText (String.ofList ds) = .ofDigits ds := by
  have unsigned : ∀ more, ds ≠ '+' :: more := by
    rintro more rfl
    exact absurd (digits '+' List.mem_cons_self) (by decide)
  have number : natOfChars? ds = .some (digitsValue 0 ds) := by
    unfold natOfChars?
    rw [if_neg]
    simpa [some] using digits
  have read : natBelow? (twoTo 64) (String.ofList ds) =
      if digitsValue 0 ds < 2 ^ 64 then .some (digitsValue 0 ds) else none := by
    have bound : twoTo 64 = 2 ^ 64 := by decide
    unfold natBelow?
    rw [String.toList_ofList, bound]
    dsimp only
    split
    · rename_i more
      exact absurd rfl (unsigned more)
    · rw [number, Option.filter_some]
      simp only [decide_eq_true_eq]
  unfold GroupRef.ofText GroupRef.ofDigits
  rw [read]
  split_ifs <;> rfl

/-- What has a dollar sign in it is no number. -/
theorem GroupRef.ofText_dollar {name : List Char} (within : '$' ∈ name) :
    GroupRef.ofText (String.ofList name) = .name (String.ofList name) := by
  have none {cs : List Char} (within : '$' ∈ cs) : natOfChars? cs = none := by
    have other : cs.all Char.isDigit = false :=
      List.all_eq_false.mpr ⟨'$', within, by decide⟩
    unfold natOfChars?
    rw [other, Bool.not_false, Bool.or_true, if_pos rfl]
  have read : natBelow? (twoTo 64) (String.ofList name) = .none := by
    unfold natBelow?
    rw [String.toList_ofList]
    dsimp only
    split
    · rw [none (by simpa using within), Option.filter_none]
    · rw [none within, Option.filter_none]
  unfold GroupRef.ofText
  rw [read]

/-! Taking texts apart. -/

theorem pieces_other (other : c ≠ '$') : pieces (c :: rest) = .verbatim c :: pieces rest := by
  rw [pieces]
  all_goals simp [other]

theorem pieces_closed {name : List Char} (none : '\x7d' ∉ name) :
    pieces ('$' :: '\x7b' :: (name ++ '\x7d' :: rest)) =
      .group (.ofText (String.ofList name)) :: pieces rest := by
  rw [pieces, takeWhile_closed none]
  simp

theorem pieces_open (none : '\x7d' ∉ rest) :
    pieces ('$' :: '\x7b' :: rest) = .verbatim '$' :: pieces ('\x7b' :: rest) := by
  rw [pieces]
  simp [none]

section

variable (single : ∀ more, rest ≠ '$' :: more) (unbraced : ∀ more, rest ≠ '\x7b' :: more)
include single unbraced

theorem pieces_named (some : rest.takeWhile isBareName ≠ []) :
    pieces ('$' :: rest) = .group (.ofText (String.ofList (rest.takeWhile isBareName))) ::
      pieces (rest.drop (rest.takeWhile isBareName).length) := by
  rw [pieces]
  · split
    · contradiction
    · rfl
  · exact single
  · exact unbraced

theorem pieces_dollar (none : rest.takeWhile isBareName = []) :
    pieces ('$' :: rest) = .verbatim '$' :: pieces rest := by
  rw [pieces, none]
  · exact single
  · exact unbraced

end

theorem piecesBy_dollar (close : Closing) (single : ∀ more, rest ≠ '$' :: more) :
    piecesBy close ('$' :: rest) =
      (dollar close rest).1 :: piecesBy close (rest.drop (dollar close rest).2) := by
  rw [piecesBy]
  exact single

theorem piecesBy_other (close : Closing) (other : c ≠ '$') :
    piecesBy close (c :: rest) = .verbatim c :: piecesBy close rest := by
  rw [piecesBy]
  all_goals simp [other]

/-- The piece that a single dollar sign gives when bare numbers are in braces. -/
private theorem pieces_normalize_dollar (single : ∀ more, rest ≠ '$' :: more) :
    pieces (normalize ('$' :: rest)) =
      (dollar atNumber rest).1 :: pieces (normalize (rest.drop (dollar atNumber rest).2)) := by
  by_cases braced : ∃ more, rest = '\x7b' :: more
  · obtain ⟨more, rfl⟩ := braced
    rw [normalize_dollar single rfl, normalize_other (by decide), dollar]
    cases closed : atNumber more with
    | none =>
      rw [pieces_open (atNumber_none closed), ← normalize_other (by decide)]
      rfl
    | some found =>
      obtain ⟨none, written⟩ := atNumber_some closed
      rw [written, pieces_closed none]
      rfl
  · have unbraced : ∀ more, rest ≠ '\x7b' :: more := not_exists.mp braced
    rw [dollar]
    split
    · rename_i plain
      obtain ⟨same, left⟩ := takeWhile_normalize rest
      rw [normalize_dollar single plain]
      split
      · rename_i none
        exact pieces_dollar (normalize_ne single) (normalize_ne unbraced) (same.trans none)
      · rename_i some
        rw [pieces_named (normalize_ne single) (normalize_ne unbraced) (same ▸ some), same, left]
    · rename_i number
      have written := normalize_number number
      obtain ⟨ds, left, rfl, run, dropped, digits, -⟩ := takeWhile_split Char.isDigit rest
      rw [run] at number written ⊢
      rw [written, dropped, ← GroupRef.ofText_digits number digits]
      exact pieces_closed (unbraced_of_digits digits)
    · exact unbraced

/-- With its bare numbers in braces, a text is taken apart like the text itself, except that a name in
braces may end with a bare number. -/
theorem pieces_normalize (text : List Char) : pieces (normalize text) = piecesBy atNumber text := by
  induction text using piecesBy.induct atNumber with
  | case1 => rw [normalize, pieces, piecesBy]
  | case2 rest ih => rw [normalize_escape, pieces_escape, piecesBy_escape, ih]
  | case3 rest single ih => rw [pieces_normalize_dollar single, piecesBy_dollar _ single, ih]
  | case4 c rest escape other ih =>
    rw [piecesBy_other _ other, normalize_other other, pieces_other other, ih]

/-! Where a bare number makes a difference. -/

/-- A name that ends with a bare number is not the one up to the brace: it has an opening brace where
the other has the first digit. -/
private theorem dollar_atNumber (rest : List Char) :
    dollar atNumber rest = dollar atBrace rest ∨
      (dollar atNumber rest).1 ≠ (dollar atBrace rest).1 := by
  by_cases braced : ∃ more, rest = '\x7b' :: more
  · obtain ⟨more, rfl⟩ := braced
    rw [dollar, dollar]
    cases ends more with
    | never none _ found =>
      rw [found, atBrace, if_neg none]
      exact .inl rfl
    | @brace name left none _ found =>
      rw [found, atBrace, if_pos (by simp), takeWhile_closed none]
      exact .inl rfl
    | @number name ds left none some digits _ found =>
      have run : (name ++ '$' :: (ds ++ left)).takeWhile (· != '\x7d') =
          name ++ '$' :: (ds ++ left.takeWhile (· != '\x7d')) := by
        rw [takeWhile_brace none, List.takeWhile_cons_of_pos (by decide),
          takeWhile_brace (unbraced_of_digits digits)]
      right
      rw [found]
      unfold atBrace
      rw [run]
      split_ifs
      · dsimp only
        rw [GroupRef.ofText_dollar (by simp), GroupRef.ofText_dollar (by simp)]
        intro same
        have behind : '\x7b' :: ds = ds ++ left.takeWhile (· != '\x7d') := by
          simpa using String.ofList_injective (GroupRef.name.inj (Piece.group.inj same))
        obtain ⟨d, ds, rfl⟩ := List.exists_cons_of_ne_nil some
        have first : '\x7b' = d := (List.cons.inj behind).1
        exact absurd (digits d List.mem_cons_self) (first ▸ by decide)
      · exact nofun
  · have unbraced : ∀ more, rest ≠ '\x7b' :: more := not_exists.mp braced
    rw [dollar, dollar]
    · exact .inl rfl
    · exact unbraced
    · exact unbraced

/-- The two readings of a text are the same exactly if no bare number stands in braces. -/
theorem piecesBy_atNumber_iff (text : List Char) :
    piecesBy atNumber text = piecesBy atBrace text ↔ hasNumberInBraces text = false := by
  induction text using hasNumberInBraces.induct with
  | case1 => simp [piecesBy, hasNumberInBraces]
  | case2 rest ih =>
    rw [piecesBy_escape, piecesBy_escape, hasNumberInBraces, ← ih, List.cons_inj_right]
  | case3 rest single ih =>
    rw [piecesBy_dollar _ single, piecesBy_dollar _ single, hasNumberInBraces, Bool.or_eq_false_iff,
      bne_eq_false_iff_eq, ← ih, List.cons.injEq]
    · rcases dollar_atNumber rest with same | differ
      · simp [same]
      · exact iff_of_false (fun both => differ both.1) fun both => differ (both.1 ▸ rfl)
    · exact single
  | case4 c rest escape other ih =>
    rw [piecesBy_other _ other, piecesBy_other _ other, hasNumberInBraces, ← ih, List.cons_inj_right]
    · exact escape
    · exact other

end

/-- What a replacement text stands for. It is read from left to right: two dollar signs are one, a
bare number is the group of all its digits, and a name in braces ends at the next brace, or else with
the next bare number if that comes first. So a text without a bare number in braces stands for what
it says, whatever the groups are; any other text is not taken apart as it stands. -/
theorem braces_close_at_numbers (lookup : GroupRef → Option String) (text : List Char) :
    expand lookup (normalize text) = meaning atNumber lookup text ∧
      (hasNumberInBraces text = false →
        expand lookup (normalize text) = meaning atBrace lookup text) ∧
      (hasNumberInBraces text = true → piecesBy atNumber text ≠ piecesBy atBrace text) := by
  have reading : expand lookup (normalize text) = meaning atNumber lookup text := by
    unfold expand meaning
    rw [pieces_normalize]
  refine ⟨reading, fun none => ?_, fun some same => ?_⟩
  · rw [reading, meaning, (piecesBy_atNumber_iff text).mpr none, meaning]
  · rw [(piecesBy_atNumber_iff text).mp same] at some
    cases some

/-- The groups of a match of two letters, each in a group of its own, the second one with a name. -/
private def sampleGroups : GroupRef → Option String
  | .number 0 => some "ab"
  | .number 1 => some "a"
  | .number 2 => some "b"
  | .name name => if name = "last" then some "b" else none
  | _ => none

/-- A text with references of each kind, and with a doubled dollar sign. -/
private def plainText : String := "$2x$1 costs $$5, $\x7blast\x7d$last"

/-- A text with a number in braces. -/
private def nestedText : String := "$\x7bx$1\x7d"

private theorem samples_read :
    (hasNumberInBraces plainText.toList = false ∧
      meaning atBrace sampleGroups plainText.toList = "bxa costs $5, bb") ∧
    hasNumberInBraces nestedText.toList = true ∧
      meaning atBrace sampleGroups nestedText.toList = "" ∧
      expand sampleGroups (normalize nestedText.toList) = "\x7d" ∧
      (Factory.Manipulation.mk "(a)" nestedText).applyText "a" = "\x7d" := by
  decide +kernel

/-- Names, numbers and doubled dollar signs are read as they stand, and a number in braces is not. -/
theorem references_side_by_side :
    hasNumberInBraces plainText.toList = false ∧ hasNumberInBraces nestedText.toList = true ∧
      expand sampleGroups (normalize plainText.toList) = "bxa costs $5, bb" ∧
      piecesBy atNumber nestedText.toList ≠ piecesBy atBrace nestedText.toList := by
  obtain ⟨⟨plain, value⟩, numbered, -⟩ := samples_read
  obtain ⟨-, same, -⟩ := braces_close_at_numbers sampleGroups plainText.toList
  obtain ⟨-, -, differ⟩ := braces_close_at_numbers sampleGroups nestedText.toList
  exact ⟨plain, numbered, (same plain).trans value, differ numbered⟩

/-- There is no group of the name that stands in these braces, so they stand for nothing; but the
brace that closes them is left over, whether the groups are given or come from a match. -/
theorem closing_brace_left_over :
    meaning atBrace sampleGroups nestedText.toList = "" ∧
      expand sampleGroups (normalize nestedText.toList) = "\x7d" ∧
      (Factory.Manipulation.mk "(a)" nestedText).applyText "a" = "\x7d" := by
  obtain ⟨-, -, nothing, left, answer⟩ := samples_read
  exact ⟨nothing, left, answer⟩

end SchemaSeed.Pattern
