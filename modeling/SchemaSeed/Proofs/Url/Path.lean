import Mathlib
import SchemaSeed.Proofs.Url.Encoding
import SchemaSeed.Url.Basic

/-!
Paths of URLs. What a path consists of stays the same when it is written and read again; and a text
that is made a path loses something exactly if it begins with a slash or has a dot for a part.
-/

set_option autoImplicit false
set_option relaxedAutoImplicit false

namespace SchemaSeed.Url

/-! ### Parts between separators -/

section

variable {separator : Char}

theorem splitChars_eq_splitOn (cs : List Char) :
    splitChars separator cs = cs.splitOn separator := by
  induction cs with
  | nil => rfl
  | cons c rest ih =>
    unfold List.splitOn at ih ⊢
    rw [splitChars, ih, List.splitOnP_cons_eq_if_modifyHead]
    by_cases mark : c = separator
    · simp [mark]
    · rw [if_neg mark, if_neg (by simpa using mark)]
      obtain ⟨part, parts, same⟩ :=
        List.exists_cons_of_ne_nil (List.splitOnP_ne_nil (· == separator) rest)
      rw [same]
      rfl

/-- Parts that are joined by a separator, which none of them holds, are found again. -/
theorem splitChars_intercalate {parts : List (List Char)} (something : parts ≠ [])
    (inside : ∀ part ∈ parts, separator ∉ part) :
    splitChars separator ([separator].intercalate parts) = parts := by
  rw [splitChars_eq_splitOn]
  exact List.splitOn_intercalate separator inside something

theorem intercalate_splitChars (separator : Char) (cs : List Char) :
    [separator].intercalate (splitChars separator cs) = cs := by
  rw [splitChars_eq_splitOn]
  exact List.intercalate_splitOn separator

theorem splitChars_ne_nil (separator : Char) (cs : List Char) : splitChars separator cs ≠ [] := by
  rw [splitChars_eq_splitOn]
  exact List.splitOn_ne_nil separator cs

theorem splitChars_cons_of_ne {c : Char} (other : c ≠ separator) (rest : List Char) :
    ∃ part parts, splitChars separator rest = part :: parts ∧
      splitChars separator (c :: rest) = (c :: part) :: parts := by
  obtain ⟨part, parts, same⟩ :=
    List.exists_cons_of_ne_nil (splitChars_ne_nil separator rest)
  refine ⟨part, parts, same, ?_⟩
  rw [splitChars, if_neg other, same]

/-- A part holds no separator, and nothing that the text does not hold. -/
theorem forall_mem_splitChars {P : Char → Prop} {cs : List Char} (each : ∀ c ∈ cs, P c) :
    ∀ part ∈ splitChars separator cs, ∀ c ∈ part, P c ∧ c ≠ separator := by
  induction cs with
  | nil =>
    intro part member
    obtain rfl := List.mem_singleton.mp member
    exact List.forall_mem_nil _
  | cons c rest ih =>
    obtain ⟨first, others⟩ := List.forall_mem_cons.mp each
    by_cases mark : c = separator
    · rw [splitChars, if_pos mark]
      exact List.forall_mem_cons.mpr ⟨List.forall_mem_nil _, ih others⟩
    · obtain ⟨part, parts, same, split⟩ := splitChars_cons_of_ne mark rest
      have tail := ih others
      rw [same] at tail
      rw [split]
      obtain ⟨one, more⟩ := List.forall_mem_cons.mp tail
      exact List.forall_mem_cons.mpr ⟨List.forall_mem_cons.mpr ⟨⟨first, mark⟩, one⟩, more⟩

end

/-! ### Dots -/

/-- A part that stands for itself: it is no dot, and not two of them. -/
def IsOrdinary (part : List Char) : Prop := isDot part = false ∧ isDoubleDot part = false

instance (part : List Char) : Decidable (IsOrdinary part) :=
  inferInstanceAs (Decidable (_ ∧ _))

theorem isOrdinary_nil : IsOrdinary [] := by decide

theorem mem_of_mem_parent {path : List (List Char)} {part : List Char}
    (member : part ∈ parent path) : part ∈ path := by
  unfold parent at member
  split at member
  · split at member
    · exact member
    · exact List.mem_of_mem_dropLast member
  · exact member

/-- A part that stands for itself is put to the path as it is. -/
theorem addParts_cons {part : List Char} (ordinary : IsOrdinary part)
    (path rest : List (List Char)) :
    addParts path (part :: rest) = addParts (path ++ [part]) rest := by
  cases rest with
  | nil =>
    unfold addParts
    rw [ordinary.1, ordinary.2]
    rfl
  | cons second rest =>
    rw [addParts, ordinary.1, ordinary.2, if_neg Bool.false_ne_true, if_neg Bool.false_ne_true]
    exact List.cons_ne_nil second rest

/-- Another part leaves the path or takes its last part away, and at the end it is an empty part. -/
theorem addParts_cons_of_dots {part : List Char} (dots : ¬ IsOrdinary part)
    (path rest : List (List Char)) :
    ∃ path', (path' = path ∨ path' = parent path) ∧
      addParts path (part :: rest) = if rest = [] then path' ++ [[]] else addParts path' rest := by
  cases two : isDoubleDot part with
  | true =>
    refine ⟨parent path, .inr rfl, ?_⟩
    cases rest with
    | nil => rw [if_pos rfl, addParts, two, if_pos rfl]
    | cons second more =>
      rw [addParts, two, if_pos rfl, if_neg (List.cons_ne_nil second more)]
      exact List.cons_ne_nil second more
  | false =>
    have one : isDot part = true := by
      by_contra other
      exact dots ⟨Bool.eq_false_iff.mpr other, two⟩
    refine ⟨path, .inl rfl, ?_⟩
    cases rest with
    | nil => rw [if_pos rfl, addParts, two, one, if_neg Bool.false_ne_true, if_pos rfl]
    | cons second more =>
      rw [addParts, two, one, if_neg Bool.false_ne_true, if_pos rfl,
        if_neg (List.cons_ne_nil second more)]
      exact List.cons_ne_nil second more

/-- What holds of the path, of the empty part and of all parts that stand for themselves, holds of
the whole path. -/
theorem forall_mem_addParts {P : List Char → Prop} (empty : P [])
    {path parts : List (List Char)} (before : ∀ part ∈ path, P part)
    (each : ∀ part ∈ parts, IsOrdinary part → P part) : ∀ part ∈ addParts path parts, P part := by
  have added {path : List (List Char)} {last : List Char} (before : ∀ part ∈ path, P part)
      (held : P last) : ∀ part ∈ path ++ [last], P part :=
    List.forall_mem_append.mpr ⟨before, List.forall_mem_singleton.mpr held⟩
  induction parts generalizing path with
  | nil => exact before
  | cons part rest ih =>
    obtain ⟨first, others⟩ := List.forall_mem_cons.mp each
    by_cases ordinary : IsOrdinary part
    · rw [addParts_cons ordinary]
      exact ih (added before (first ordinary)) others
    · obtain ⟨path', kept, same⟩ := addParts_cons_of_dots ordinary path rest
      have above : ∀ part ∈ path', P part := by
        rcases kept with rfl | rfl
        · exact before
        · exact fun part member => before part (mem_of_mem_parent member)
      rw [same]
      split
      · exact added above empty
      · exact ih above others

theorem addParts_of_ordinary {path parts : List (List Char)}
    (ordinary : ∀ part ∈ parts, IsOrdinary part) : addParts path parts = path ++ parts := by
  induction parts generalizing path with
  | nil => rw [List.append_nil]; rfl
  | cons part rest ih =>
    obtain ⟨first, others⟩ := List.forall_mem_cons.mp ordinary
    rw [addParts_cons first, ih others, List.append_assoc]
    rfl

/-! ### What dots take away -/

/-- How much is read from the written form of some parts. -/
def readLength (parts : List (List Char)) : Nat :=
  (parts.map fun part => (decode part).length + 1).sum

theorem readLength_cons (part : List Char) (parts : List (List Char)) :
    readLength (part :: parts) = (decode part).length + 1 + readLength parts := List.sum_cons

theorem readLength_append (parts more : List (List Char)) :
    readLength (parts ++ more) = readLength parts + readLength more := by
  unfold readLength
  rw [List.map_append, List.sum_append]

theorem readLength_parent_le (path : List (List Char)) :
    readLength (parent path) ≤ readLength path := by
  unfold parent
  split
  · split
    · exact le_rfl
    · rename_i last final _
      have whole := List.dropLast_append_getLast? last final
      rw [← whole, readLength_append]
      simp
  · exact le_rfl

theorem decode_ne_nil {cs : List Char} (something : cs ≠ []) : decode cs ≠ [] := by
  obtain ⟨c, rest, rfl⟩ := List.exists_cons_of_ne_nil something
  rcases decode_cases c rest with ⟨rfl, a, b, more, byte, rfl, -, -, read⟩ | ⟨-, read⟩
  · rw [read]
    exact List.cons_ne_nil _ _
  · rw [read]
    exact List.append_ne_nil_of_left_ne_nil String.utf8EncodeChar_ne_nil _

private theorem ne_nil_of_not_isOrdinary {part : List Char} (dots : ¬ IsOrdinary part) :
    part ≠ [] := by
  rintro rfl
  exact dots isOrdinary_nil

/-- Dots take something away, and nothing else does. -/
theorem readLength_addParts (path parts : List (List Char)) :
    readLength (addParts path parts) ≤ readLength path + readLength parts ∧
      ((∃ part ∈ parts, ¬ IsOrdinary part) →
        readLength (addParts path parts) < readLength path + readLength parts) := by
  have empty : readLength [[]] = 1 := rfl
  have one (part : List Char) : readLength [part] = (decode part).length + 1 := by
    rw [readLength_cons]
    rfl
  induction parts generalizing path with
  | nil => exact ⟨le_rfl, fun ⟨_, member, _⟩ => absurd member List.not_mem_nil⟩
  | cons part rest ih =>
    have whole := readLength_cons part rest
    by_cases ordinary : IsOrdinary part
    · -- The part is put to the path, so what is taken away is taken away by the others.
      obtain ⟨least, strict⟩ := ih (path ++ [part])
      rw [readLength_append, one] at least strict
      rw [addParts_cons ordinary]
      refine ⟨by omega, fun ⟨other, member, dots⟩ => ?_⟩
      rcases List.mem_cons.mp member with rfl | later
      · exact absurd ordinary dots
      · have less := strict ⟨other, later, dots⟩
        omega
    · have read : 0 < (decode part).length :=
        List.length_pos_of_ne_nil (decode_ne_nil (ne_nil_of_not_isOrdinary ordinary))
      obtain ⟨path', kept, same⟩ := addParts_cons_of_dots ordinary path rest
      have shorter : readLength path' ≤ readLength path := by
        rcases kept with rfl | rfl
        · exact le_rfl
        · exact readLength_parent_le path
      have less : readLength (addParts path (part :: rest)) <
          readLength path + readLength (part :: rest) := by
        rw [same]
        split
        · rw [readLength_append, empty]
          omega
        · obtain ⟨least, -⟩ := ih path'
          omega
      exact ⟨less.le, fun _ => less⟩

/-! ### Writing and reading a path -/

/-- The written form of the parts of a path. -/
def pathText (parts : List (List Char)) : List Char := parts.flatMap fun part => '/' :: part

/-- What a path consists of. -/
def IsPath (parts : List (List Char)) : Prop :=
  ∀ part ∈ parts, Free pathSet part ∧ '/' ∉ part ∧ IsOrdinary part

theorem pathText_cons (part : List Char) (parts : List (List Char)) :
    pathText (part :: parts) = '/' :: ['/'].intercalate (part :: parts) := by
  induction parts generalizing part with
  | nil => simp [pathText]
  | cons second rest ih =>
    have first :
        pathText (part :: second :: rest) = '/' :: (part ++ pathText (second :: rest)) := by
      simp [pathText]
    rw [first, ih, List.intercalate_cons_cons, List.append_assoc]
    rfl

theorem free_pathText {parts : List (List Char)} (isPath : IsPath parts) :
    Free pathSet (pathText parts) := by
  intro c member
  obtain ⟨part, among, within⟩ := List.mem_flatMap.mp member
  rcases List.mem_cons.mp within with rfl | inside
  · decide
  · exact (isPath part among).1 c inside

/-- The parts of a text after its first slash, which may be left out. -/
def pathParts (cs : List Char) : List (List Char) :=
  match cs with
  | [] => []
  | '/' :: rest => splitChars '/' rest
  | written => splitChars '/' written

theorem pathParts_of_ne {c : Char} (other : c ≠ '/') (rest : List Char) :
    pathParts (c :: rest) = splitChars '/' (c :: rest) := by
  unfold pathParts
  split
  · rename_i same
    cases same
  · rename_i same
    exact absurd (List.cons.inj same).1 other
  · rfl

theorem pathOf_eq (cs : List Char) : pathOf cs = addParts [] (pathParts (encode pathSet cs)) := by
  unfold pathOf
  rcases encode pathSet cs with _ | ⟨c, rest⟩
  · rfl
  · by_cases slash : c = '/'
    · subst slash
      rfl
    · rw [pathParts_of_ne slash]
      split
      · rename_i same
        cases same
      · rename_i same
        exact absurd (List.cons.inj same).1 slash
      · rfl

theorem isPath_pathOf (cs : List Char) : IsPath (pathOf cs) := by
  rw [pathOf_eq]
  have free := free_encode keepsEscapes_pathSet cs
  generalize encode pathSet cs = written at free
  have parts : ∀ part ∈ pathParts written, ∀ c ∈ part, pathSet c = false ∧ c ≠ '/' := by
    unfold pathParts
    split
    · exact List.forall_mem_nil _
    · exact forall_mem_splitChars (List.forall_mem_cons.mp free).2
    · exact forall_mem_splitChars free
  have empty : Free pathSet [] ∧ '/' ∉ ([] : List Char) ∧ IsOrdinary [] :=
    ⟨List.forall_mem_nil _, List.not_mem_nil, isOrdinary_nil⟩
  refine forall_mem_addParts empty (List.forall_mem_nil _) fun part member ordinary => ?_
  exact ⟨fun c within => (parts part member c within).1,
    fun slash => (parts part member '/' slash).2 rfl, ordinary⟩

/-- A path that is written is read again. -/
theorem pathOf_pathText {parts : List (List Char)} (isPath : IsPath parts) :
    pathOf (pathText parts) = parts := by
  rw [pathOf_eq, encode_of_free (free_pathText isPath)]
  cases parts with
  | nil => rfl
  | cons part rest =>
    rw [pathText_cons]
    change addParts [] (splitChars '/' (['/'].intercalate (part :: rest))) = _
    rw [splitChars_intercalate (List.cons_ne_nil _ _) fun part member => (isPath part member).2.1,
      addParts_of_ordinary fun part member => (isPath part member).2.2, List.nil_append]

/-! ### What a path is read as -/

theorem length_decode_pathText (parts : List (List Char)) :
    (decode (pathText parts)).length = readLength parts := by
  have slash (cs : List Char) : (decode ('/' :: cs)).length = (decode cs).length + 1 := by
    rw [decode_cons (by decide)]
    rfl
  induction parts with
  | nil => rfl
  | cons part rest ih =>
    have first : pathText (part :: rest) = '/' :: part ++ pathText rest := List.flatMap_cons
    rw [readLength_cons, ← ih, ← slash part, first]
    cases rest with
    | nil => rw [show pathText [] = [] from rfl, List.append_nil]; rfl
    | cons second more =>
      rw [pathText_cons, decode_append (by decide), List.length_append]

/-- A text that a path can be made of without loss: it holds no escape and nothing that is ignored,
it does not begin with a mark, and none of its parts is a dot or two. -/
structure IsPlainPath (cs : List Char) : Prop where
  unescaped : hasEscape cs = false
  kept : ∀ c ∈ cs, isIgnored c = false
  start : ∀ c, cs.head? = some c → c ≠ '/' ∧ c ≠ '?' ∧ c ≠ '#'
  noDot : ['.'] ∉ splitChars '/' cs
  noDots : ['.', '.'] ∉ splitChars '/' cs

/-- A part of a text that holds no escape holds none. -/
private theorem hasEscape_of_mem_splitChars {cs : List Char} (unescaped : hasEscape cs = false) :
    ∀ part ∈ splitChars '/' cs, hasEscape part = false := by
  induction cs with
  | nil =>
    intro part member
    rw [List.mem_singleton.mp member]
    rfl
  | cons c rest ih =>
    obtain ⟨first, others⟩ := Bool.or_eq_false_iff.mp unescaped
    by_cases slash : c = '/'
    · rw [splitChars, if_pos slash]
      exact List.forall_mem_cons.mpr ⟨rfl, ih others⟩
    · obtain ⟨part, parts, same, split⟩ := splitChars_cons_of_ne slash rest
      have tail := ih others
      rw [same] at tail
      obtain ⟨one, more⟩ := List.forall_mem_cons.mp tail
      rw [split]
      refine List.forall_mem_cons.mpr ⟨Bool.or_eq_false_iff.mpr ⟨?_, one⟩, more⟩
      -- The part is what the rest begins with.
      obtain ⟨after, whole⟩ : ∃ after, rest = part ++ after := by
        have joined := intercalate_splitChars '/' rest
        rw [same] at joined
        cases parts with
        | nil => exact ⟨[], by rw [← joined]; simp⟩
        | cons second others =>
          exact ⟨_, by rw [← joined, List.intercalate_cons_cons, List.append_assoc]⟩
      rw [whole] at first
      rcases part with _ | ⟨a, _ | ⟨b, more⟩⟩
      · exact Bool.and_false _
      · exact Bool.and_false _
      · exact first

private theorem slash_notMem_encodeChar {c : Char} (other : c ≠ '/') :
    '/' ∉ encodeChar pathSet c := by
  intro member
  have written : '/' ∈ encode pathSet [c] :=
    List.mem_flatMap.mpr ⟨c, List.mem_singleton_self c, member⟩
  rcases mem_encode written with ⟨same, -⟩ | percent | digit
  · exact other (List.mem_singleton.mp same).symm
  · revert percent
    decide
  · revert digit
    decide

/-- The parts of a text that is written are those of the text, each of them written. -/
private theorem splitChars_encode (cs : List Char) :
    splitChars '/' (encode pathSet cs) = (splitChars '/' cs).map (encode pathSet) := by
  have front {front : List Char} (apart : '/' ∉ front) (rest : List Char) :
      ∃ part parts, splitChars '/' rest = part :: parts ∧
        splitChars '/' (front ++ rest) = (front ++ part) :: parts := by
    induction front with
    | nil =>
      obtain ⟨part, parts, same⟩ :=
        List.exists_cons_of_ne_nil (splitChars_ne_nil '/' rest)
      exact ⟨part, parts, same, same⟩
    | cons d more ih =>
      rw [List.mem_cons, not_or] at apart
      obtain ⟨part, parts, same, split⟩ := ih apart.2
      refine ⟨part, parts, same, ?_⟩
      rw [List.cons_append, splitChars, if_neg (Ne.symm apart.1), split]
      rfl
  induction cs with
  | nil => rfl
  | cons c rest ih =>
    rw [encode_cons]
    by_cases slash : c = '/'
    · subst slash
      have plain : encodeChar pathSet '/' = ['/'] := by decide
      rw [plain, List.singleton_append, splitChars, if_pos rfl, ih, splitChars, if_pos rfl]
      rfl
    · obtain ⟨part, parts, same, split⟩ := splitChars_cons_of_ne slash rest
      obtain ⟨written, others, same', split'⟩ :=
        front (slash_notMem_encodeChar slash) (encode pathSet rest)
      rw [ih, same, List.map_cons] at same'
      obtain ⟨rfl, rfl⟩ := List.cons.inj same'
      rw [split', split, List.map_cons, encode_cons]

/-- A part that does not stand for itself is read as a dot, or as two of them. -/
private theorem decode_of_not_isOrdinary {part : List Char} (dots : ¬ IsOrdinary part) :
    decode part = utf8Bytes ['.'] ∨ decode part = utf8Bytes ['.', '.'] := by
  have one {cs : List Char} (dot : isDot cs = true) :
      cs = ['.'] ∨ cs = ['%', '2', 'e'] ∨ cs = ['%', '2', 'E'] := by
    simpa [isDot, or_assoc] using dot
  by_cases dot : isDot part = true
  · left
    rcases one dot with rfl | rfl | rfl <;> decide
  · right
    have two : isDoubleDot part = true := by
      by_contra single
      exact dots ⟨Bool.eq_false_iff.mpr dot, Bool.eq_false_iff.mpr single⟩
    unfold isDoubleDot at two
    split at two
    · rcases one two with rfl | rfl | rfl <;> decide
    · rcases one two with rfl | rfl | rfl <;> decide
    · rcases one two with rfl | rfl | rfl <;> decide
    · cases two

/-- What is written of a part stands for itself, unless the part is a dot or two. -/
private theorem isOrdinary_encode_iff {part : List Char} (unescaped : hasEscape part = false) :
    IsOrdinary (encode pathSet part) ↔ part ≠ ['.'] ∧ part ≠ ['.', '.'] := by
  constructor
  · intro ordinary
    constructor <;> rintro rfl <;> revert ordinary <;> decide
  · rintro ⟨noDot, noDots⟩
    by_contra dots
    have read : decode (encode pathSet part) = utf8Bytes part := by
      rw [decode_encode keepsEscapes_pathSet]
      exact (decode_eq_utf8Bytes_iff part).mpr unescaped
    rcases decode_of_not_isOrdinary dots with same | same
    · exact noDot (utf8Bytes_injective (read.symm.trans same))
    · exact noDots (utf8Bytes_injective (read.symm.trans same))

theorem pathText_splitChars (cs : List Char) : pathText (splitChars '/' cs) = '/' :: cs := by
  obtain ⟨part, parts, same⟩ := List.exists_cons_of_ne_nil (splitChars_ne_nil '/' cs)
  rw [same, pathText_cons, ← same, intercalate_splitChars]

/-- The path that a text becomes when it is set. -/
def namedPath (cs : List Char) : List (List Char) :=
  match clean cs with
  | '?' :: _ => []
  | '#' :: _ => []
  | named => pathOf named

theorem setPath_eq (u : Url) (text : String) :
    u.setPath text = { u with path := namedPath text.toList } := by
  unfold setPath namedPath
  split <;> simp only [*]

theorem isPath_namedPath (cs : List Char) : IsPath (namedPath cs) := by
  unfold namedPath
  split
  · exact List.forall_mem_nil _
  · exact List.forall_mem_nil _
  · exact isPath_pathOf _

/-- A text that is plain is written behind the slash of its path. -/
theorem pathText_namedPath {cs : List Char} (something : cs ≠ []) (plain : IsPlainPath cs) :
    pathText (namedPath cs) = '/' :: encode pathSet cs := by
  obtain ⟨c, rest, rfl⟩ := List.exists_cons_of_ne_nil something
  obtain ⟨noSlash, noMark, noHash⟩ := plain.start c rfl
  have named : namedPath (c :: rest) = pathOf (c :: rest) := by
    have cleaned : clean (c :: rest) = c :: rest :=
      List.filter_eq_self.mpr fun d member => by rw [plain.kept d member]; rfl
    unfold namedPath
    rw [cleaned]
    split
    · rename_i same
      exact absurd (List.cons.inj same).1 noMark
    · rename_i same
      exact absurd (List.cons.inj same).1 noHash
    · rfl
  have parts :
      pathParts (encode pathSet (c :: rest)) = splitChars '/' (encode pathSet (c :: rest)) := by
    have first := slash_notMem_encodeChar noSlash
    rw [encode_cons]
    cases written : encodeChar pathSet c with
    | nil => exact absurd written (encodeChar_ne_nil c)
    | cons d more =>
      rw [written, List.mem_cons, not_or] at first
      exact pathParts_of_ne (Ne.symm first.1) _
  have ordinary : ∀ part ∈ splitChars '/' (encode pathSet (c :: rest)), IsOrdinary part := by
    rw [splitChars_encode]
    refine List.forall_mem_map.mpr fun part member => ?_
    have unescaped := hasEscape_of_mem_splitChars plain.unescaped part member
    refine (isOrdinary_encode_iff unescaped).mpr ⟨?_, ?_⟩
    · rintro rfl
      exact plain.noDot member
    · rintro rfl
      exact plain.noDots member
  rw [named, pathOf_eq, parts, addParts_of_ordinary ordinary, List.nil_append, pathText_splitChars]

/-- What is ignored is missing from what is read. -/
private theorem length_clean_le (cs : List Char) :
    (utf8Bytes (clean cs)).length ≤ (utf8Bytes cs).length ∧
      ((utf8Bytes (clean cs)).length = (utf8Bytes cs).length → ∀ c ∈ cs, isIgnored c = false) := by
  induction cs with
  | nil => exact ⟨le_rfl, fun _ => List.forall_mem_nil _⟩
  | cons c rest ih =>
    obtain ⟨least, same⟩ := ih
    have bytes : 0 < (String.utf8EncodeChar c).length :=
      List.length_pos_of_ne_nil String.utf8EncodeChar_ne_nil
    have length (cs : List Char) : (utf8Bytes (c :: cs)).length =
        (String.utf8EncodeChar c).length + (utf8Bytes cs).length := List.length_append
    cases ignored : isIgnored c with
    | true =>
      have cleaned : clean (c :: rest) = clean rest := List.filter_cons_of_neg (by simp [ignored])
      rw [cleaned, length]
      exact ⟨by omega, fun equal => by omega⟩
    | false =>
      have cleaned : clean (c :: rest) = c :: clean rest :=
        List.filter_cons_of_pos (by simp [ignored])
      rw [cleaned, length, length]
      exact ⟨by omega, fun equal => List.forall_mem_cons.mpr ⟨ignored, same (by omega)⟩⟩

private theorem readLength_pathParts_le (cs : List Char) :
    readLength (pathParts cs) ≤ (decode cs).length + 1 ∧
      (readLength (pathParts cs) = (decode cs).length + 1 →
        cs.head? ≠ some '/' ∧ pathParts cs = splitChars '/' cs) := by
  have whole (cs : List Char) : readLength (splitChars '/' cs) = (decode cs).length + 1 := by
    rw [← length_decode_pathText, pathText_splitChars, decode_cons (by decide), List.length_append,
      Nat.add_comm]
    rfl
  unfold pathParts
  split
  · exact ⟨Nat.zero_le _, fun equal => absurd equal (by decide)⟩
  · rename_i rest
    have slash : (decode ('/' :: rest)).length = (decode rest).length + 1 := by
      rw [decode_cons (by decide), List.length_append, Nat.add_comm]
      rfl
    rw [whole, slash]
    exact ⟨by omega, fun equal => by omega⟩
  · rename_i other
    rw [whole]
    refine ⟨le_rfl, fun _ => ⟨fun first => ?_, rfl⟩⟩
    obtain ⟨rest, same⟩ := List.head?_eq_some_iff.mp first
    exact other rest same

/-- Whatever is lost makes the text shorter. -/
private theorem isPlainPath_of_readLength {cs : List Char}
    (length : readLength (namedPath cs) = (utf8Bytes cs).length + 1) : IsPlainPath cs := by
  obtain ⟨shorter, kept⟩ := length_clean_le cs
  obtain ⟨least, escapes, -⟩ := length_decode_le (clean cs)
  have decoded := decode_encode keepsEscapes_pathSet (clean cs)
  unfold namedPath at length
  split at length
  · exact (Nat.succ_ne_zero _ length.symm).elim
  · exact (Nat.succ_ne_zero _ length.symm).elim
  · rename_i noMark noHash
    rw [pathOf_eq] at length
    obtain ⟨most, strict⟩ := readLength_addParts [] (pathParts (encode pathSet (clean cs)))
    obtain ⟨whole, split⟩ := readLength_pathParts_le (encode pathSet (clean cs))
    rw [decoded] at whole split
    rw [show readLength [] = 0 from rfl, Nat.zero_add] at most strict
    have each := kept (by omega)
    have cleaned : clean cs = cs :=
      List.filter_eq_self.mpr fun c member => by rw [each c member]; rfl
    obtain ⟨noSlash, parts⟩ := split (by omega)
    rw [cleaned] at noMark noHash noSlash parts strict escapes least length most whole
    have unescaped : hasEscape cs = false := by
      by_contra escape
      have less := escapes (Bool.not_eq_false _ ▸ escape)
      omega
    have ordinary {part : List Char} (member : part ∈ splitChars '/' cs) :
        part ≠ ['.'] ∧ part ≠ ['.', '.'] := by
      refine (isOrdinary_encode_iff (hasEscape_of_mem_splitChars unescaped part member)).mp ?_
      by_contra dots
      have among : encode pathSet part ∈ pathParts (encode pathSet cs) := by
        rw [parts, splitChars_encode]
        exact List.mem_map_of_mem member
      have less := strict ⟨_, among, dots⟩
      omega
    refine ⟨unescaped, each, fun c first => ?_, fun member => (ordinary member).1 rfl,
      fun member => (ordinary member).2 rfl⟩
    obtain ⟨rest, rfl⟩ := List.head?_eq_some_iff.mp first
    refine ⟨?_, ?_, ?_⟩
    · rintro rfl
      exact noSlash rfl
    · rintro rfl
      exact noMark rest rfl
    · rintro rfl
      exact noHash rest rfl

/-- A path is read as the text that it was made of exactly if that text is plain. -/
theorem decode_namedPath_iff {cs : List Char} (something : cs ≠ []) :
    decode ((pathText (namedPath cs)).drop 1) = utf8Bytes cs ↔ IsPlainPath cs := by
  constructor
  · intro read
    refine isPlainPath_of_readLength ?_
    rw [← length_decode_pathText]
    cases same : namedPath cs with
    | nil =>
      rw [same] at read
      have none : utf8Bytes [] = utf8Bytes cs := read
      exact absurd (utf8Bytes_injective none).symm something
    | cons part parts =>
      rw [same, pathText_cons] at read
      have tail : decode (['/'].intercalate (part :: parts)) = utf8Bytes cs := read
      rw [pathText_cons, decode_cons (by decide), List.length_append, tail, Nat.add_comm]
      rfl
  · intro plain
    rw [pathText_namedPath something plain]
    exact (decode_encode keepsEscapes_pathSet cs).trans
      ((decode_eq_utf8Bytes_iff cs).mpr plain.unescaped)

end SchemaSeed.Url
