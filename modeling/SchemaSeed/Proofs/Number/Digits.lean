import Mathlib
import SchemaSeed.Sql.Value

/-!
Digits that are written are read back: integers in decimal, bytes and identifiers in hexadecimal.
-/

set_option autoImplicit false
set_option relaxedAutoImplicit false

namespace SchemaSeed.Number

theorem digitsValue_eq_ofDigitChars (start : Nat) (cs : List Char) :
    digitsValue start cs = Nat.ofDigitChars 10 cs start := Nat.ofDigitChars_eq_foldl.symm

theorem digitsValue_toDigits (n : Nat) : digitsValue 0 (Nat.toDigits 10 n) = n := by
  rw [digitsValue_eq_ofDigitChars, Nat.ofDigitChars_ten_toDigits]

theorem all_isDigit_toDigits (n : Nat) : (Nat.toDigits 10 n).all Char.isDigit = true :=
  List.all_eq_true.mpr fun _ member => Nat.isDigit_of_mem_toDigits (by decide) (by decide) member

theorem toList_toString (n : Nat) : (toString n).toList = Nat.toDigits 10 n := by
  rw [Nat.toString_eq_ofList_toDigits, String.toList_ofList]

/-- A number that is written in decimal is read back. -/
theorem natOfChars?_toString (n : Nat) : natOfChars? (toString n).toList = some n := by
  have something : (Nat.toDigits 10 n).isEmpty = false := by simp
  unfold natOfChars?
  rw [toList_toString, something, all_isDigit_toDigits, digitsValue_toDigits]
  rfl

theorem intOfChars?_toString (n : Int) : intOfChars? (toString n).toList = some n := by
  cases n with
  | ofNat n =>
    have shown : (toString (Int.ofNat n)).toList = (toString n).toList := rfl
    -- A number starts with a digit, so with no sign.
    rcases start : (toString n).toList with _ | ⟨c, rest⟩
    · simp at start
    · have digit : c.isDigit = true := by
        have digits := all_isDigit_toDigits n
        rw [← toList_toString, start, List.all_cons, Bool.and_eq_true_iff] at digits
        exact digits.1
      have unsigned : intOfChars? (c :: rest) = (natOfChars? (c :: rest)).map fun n => (n : Int) := by
        unfold intOfChars?
        split
        · rename_i same
          obtain ⟨rfl, -⟩ := List.cons.inj same
          cases digit
        · rename_i same
          obtain ⟨rfl, -⟩ := List.cons.inj same
          cases digit
        · rfl
      rw [shown, start, unsigned, ← start, natOfChars?_toString]
      rfl
  | negSucc n =>
    have shown : (toString (Int.negSucc n)).toList = '-' :: (toString (n + 1)).toList := by
      change ("-" ++ toString (n + 1)).toList = _
      rw [String.toList_append]
      rfl
    have signed (cs : List Char) :
        intOfChars? ('-' :: cs) = (natOfChars? cs).map fun n => -(n : Int) := rfl
    rw [shown, signed, natOfChars?_toString]
    rfl

/-- An integer that is written in decimal is read back, also within bounds that it keeps. -/
theorem intWithin?_toString {lo hi n : Int} (least : lo ≤ n) (most : n ≤ hi) :
    intWithin? lo hi (toString n) = some n := by
  unfold intWithin?
  rw [intOfChars?_toString, Option.filter_some]
  simp [least, most]

/-- What is read within bounds keeps them. -/
theorem bounds_of_intWithin? {lo hi n : Int} {s : String} (read : intWithin? lo hi s = some n) :
    lo ≤ n ∧ n ≤ hi := by
  simpa using (Option.filter_eq_some_iff.mp read).2

/-! ### Decimal digits in order -/

theorem toNat_of_isDigit {c : Char} (digit : c.isDigit = true) : 48 ≤ c.toNat ∧ c.toNat ≤ 57 := by
  simpa [Char.isDigit, UInt32.le_iff_toNat_le] using digit

theorem digitsValue_cons (start : Nat) (c : Char) (cs : List Char) :
    digitsValue start (c :: cs) = digitsValue (10 * start + (c.toNat - 48)) cs := by
  unfold digitsValue
  rw [List.foldl_cons]

/-- A number that goes on with some digits lies between its multiple and that of the next number. -/
theorem digitsValue_bounds {cs : List Char} (digits : ∀ c ∈ cs, c.isDigit = true) (start : Nat) :
    start * 10 ^ cs.length ≤ digitsValue start cs ∧
      digitsValue start cs < (start + 1) * 10 ^ cs.length := by
  induction cs generalizing start with
  | nil => simp [digitsValue]
  | cons c rest ih =>
    obtain ⟨digit, others⟩ := List.forall_mem_cons.mp digits
    have bounds := toNat_of_isDigit digit
    obtain ⟨least, most⟩ := ih others (10 * start + (c.toNat - 48))
    rw [digitsValue_cons, List.length_cons, pow_succ']
    constructor
    · calc start * (10 * 10 ^ rest.length) = 10 * start * 10 ^ rest.length := by ring
        _ ≤ (10 * start + (c.toNat - 48)) * 10 ^ rest.length :=
          Nat.mul_le_mul_right _ (Nat.le_add_right _ _)
        _ ≤ digitsValue (10 * start + (c.toNat - 48)) rest := least
    · calc digitsValue (10 * start + (c.toNat - 48)) rest
          < (10 * start + (c.toNat - 48) + 1) * 10 ^ rest.length := most
        _ ≤ 10 * (start + 1) * 10 ^ rest.length := Nat.mul_le_mul_right _ (by omega)
        _ = (start + 1) * (10 * 10 ^ rest.length) := by ring

/-- Of equally many digits those with the smaller first digit write the smaller number. -/
theorem digitsValue_cons_lt {c d : Char} {cs ds : List Char} (same : ds.length = cs.length)
    (digits : ∀ x ∈ c :: cs, x.isDigit = true) (digits' : ∀ x ∈ d :: ds, x.isDigit = true)
    (less : d < c) (start : Nat) : digitsValue start (d :: ds) < digitsValue start (c :: cs) := by
  obtain ⟨-, others⟩ := List.forall_mem_cons.mp digits
  obtain ⟨digit', others'⟩ := List.forall_mem_cons.mp digits'
  have smaller : d.toNat < c.toNat := UInt32.lt_iff_toNat_lt.mp less
  have bounds := toNat_of_isDigit digit'
  rw [digitsValue_cons, digitsValue_cons]
  calc digitsValue (10 * start + (d.toNat - 48)) ds
      < (10 * start + (d.toNat - 48) + 1) * 10 ^ ds.length := (digitsValue_bounds others' _).2
    _ = (10 * start + (d.toNat - 48) + 1) * 10 ^ cs.length := by rw [same]
    _ ≤ (10 * start + (c.toNat - 48)) * 10 ^ cs.length :=
      Nat.mul_le_mul_right _ (by omega)
    _ ≤ digitsValue (10 * start + (c.toNat - 48)) cs := (digitsValue_bounds others _).1

/-- Equally many digits stand in the order of the numbers that they write, whatever follows them. -/
theorem append_lt_of_digitsValue_lt {cs ds : List Char} (same : cs.length = ds.length)
    (digits : ∀ x ∈ cs, x.isDigit = true) (digits' : ∀ x ∈ ds, x.isDigit = true) {start : Nat}
    (less : digitsValue start cs < digitsValue start ds) (rest rest' : List Char) :
    cs ++ rest < ds ++ rest' := by
  induction cs generalizing ds start with
  | nil =>
    obtain rfl := List.length_eq_zero_iff.mp same.symm
    exact absurd less (Nat.lt_irrefl _)
  | cons c cs ih =>
    cases ds with
    | nil => simp at same
    | cons d ds =>
      have equal : cs.length = ds.length := by simpa using same
      rw [List.cons_append, List.cons_append, List.cons_lt_cons_iff]
      rcases lt_trichotomy c d with below | rfl | above
      · exact .inl below
      · rw [digitsValue_cons, digitsValue_cons] at less
        exact .inr ⟨rfl, ih equal (List.forall_mem_cons.mp digits).2
          (List.forall_mem_cons.mp digits').2 less⟩
      · exact absurd less
          (Nat.lt_asymm (digitsValue_cons_lt equal.symm digits digits' above start))

/-! ### Hexadecimal digits -/

/-- The number that hexadecimal digits of either case go on to write. -/
def hexFold (start : Nat) (cs : List Char) : Option Nat :=
  cs.foldlM (fun n c => (hexValue? c).map (16 * n + ·)) start

theorem hexValue?_digitChar {n : Nat} (small : n < 16) : hexValue? n.digitChar = some n := by
  have each : ∀ n < 16, hexValue? n.digitChar = some n := by decide
  exact each n small

theorem hexFold_append {start middle : Nat} {cs ds : List Char}
    (first : hexFold start cs = some middle) : hexFold start (cs ++ ds) = hexFold middle ds := by
  unfold hexFold at first ⊢
  rw [List.foldlM_append, first]
  rfl

private theorem hexFold_digitChar {start n : Nat} (small : n < 16) :
    hexFold start [n.digitChar] = some (16 * start + n) := by
  unfold hexFold
  rw [List.foldlM_cons, hexValue?_digitChar small]
  rfl

theorem hexFold_toDigits (n : Nat) : hexFold 0 (Nat.toDigits 16 n) = some n := by
  induction n using Nat.strongRecOn with
  | ind n ih =>
    rw [Nat.toDigits_eq_if (by decide)]
    split
    · rename_i small
      rw [hexFold_digitChar small]
      simp
    · rename_i large
      have less : n / 16 < n := Nat.div_lt_self (by omega) (by decide)
      rw [hexFold_append (ih _ less), hexFold_digitChar (Nat.mod_lt _ (by decide))]
      congr 1
      omega

private theorem hexFold_zeros (k : Nat) : hexFold 0 (List.replicate k '0') = some 0 := by
  induction k with
  | zero => rfl
  | succ k ih => exact ih

theorem toList_hexPadded (width n : Nat) : (hexPadded width n).toList =
    List.replicate (width - (Nat.toDigits 16 n).length) '0' ++ Nat.toDigits 16 n := by
  unfold hexPadded padZeros
  rw [String.toList_append, String.toList_ofList, String.toList_ofList, ← String.length_toList,
    String.toList_ofList]

/-- A number that is written in hexadecimal is read back. -/
theorem hexFold_hexPadded (width n : Nat) : hexFold 0 (hexPadded width n).toList = some n := by
  rw [toList_hexPadded, hexFold_append (hexFold_zeros _), hexFold_toDigits]

/-- A number that fits into a width takes just that width. -/
theorem length_hexPadded {width n : Nat} (positive : 0 < width) (fits : n < 16 ^ width) :
    (hexPadded width n).toList.length = width := by
  have short := (Nat.length_toDigits_le_iff (b := 16) (by decide) positive).mpr fits
  rw [toList_hexPadded, List.length_append, List.length_replicate]
  omega

/-- What can be read as one number consists of digits. -/
theorem isSome_hexValue?_of_hexFold {start n : Nat} {cs : List Char}
    (read : hexFold start cs = some n) : ∀ c ∈ cs, (hexValue? c).isSome = true := by
  induction cs generalizing start with
  | nil => exact List.forall_mem_nil _
  | cons c rest ih =>
    unfold hexFold at read
    rw [List.foldlM_cons] at read
    cases value : hexValue? c with
    | none =>
      rw [value] at read
      cases read
    | some v =>
      rw [value] at read
      exact List.forall_mem_cons.mpr ⟨by rw [value]; rfl, ih read⟩

end SchemaSeed.Number

namespace SchemaSeed.Sql

open SchemaSeed.Number

private theorem pairs_byte (b : UInt8) (cs : List Char) :
    bytesOfHex?.pairs ((hexPadded 2 b.toNat).toList ++ cs) = (b :: ·) <$> bytesOfHex?.pairs cs := by
  have bound : b.toNat < 16 ^ 2 := b.toNat_lt
  have two := length_hexPadded (by decide) bound
  have value := hexFold_hexPadded 2 b.toNat
  rcases digits : (hexPadded 2 b.toNat).toList with _ | ⟨hi, _ | ⟨lo, _ | ⟨other, rest⟩⟩⟩
  · simp [digits] at two
  · simp [digits] at two
  · rw [digits] at value
    unfold hexFold at value
    cases high : hexValue? hi with
    | none => simp [high] at value
    | some h =>
      cases low : hexValue? lo with
      | none => simp [high, low] at value
      | some l =>
        have whole : 16 * h + l = b.toNat := by simpa [high, low] using value
        change (do
          let h ← hexValue? hi
          let l ← hexValue? lo
          return UInt8.ofNat (16 * h + l) :: (← bytesOfHex?.pairs cs)) = _
        rw [high, low]
        dsimp only [Option.bind_eq_bind, Option.bind_some]
        rw [whole, UInt8.ofNat_toNat]
        cases bytesOfHex?.pairs cs <;> rfl
  · simp [digits] at two

/-- Bytes that are written are read back. -/
theorem bytesOfHex?_printBytes (bytes : List UInt8) :
    bytesOfHex? (printBytes bytes) = some bytes := by
  unfold bytesOfHex? printBytes
  rw [String.toList_ofList]
  induction bytes with
  | nil => rfl
  | cons b rest ih =>
    rw [List.flatMap_cons, pairs_byte, ih]
    rfl

namespace Uuid

/-- The digits of an identifier. -/
private def digits (u : Uuid) : List Char := (hexPadded 32 u.bits.toNat).toList

private theorem length_digits (u : Uuid) : u.digits.length = 32 :=
  length_hexPadded (by decide) (lt_of_lt_of_eq u.bits.isLt (by decide))

private theorem hexNumber?_digits (u : Uuid) : hexNumber? u.digits = some u.bits.toNat :=
  hexFold_hexPadded 32 u.bits.toNat

private theorem isSome_hexValue?_digits (u : Uuid) : ∀ c ∈ u.digits, (hexValue? c).isSome = true :=
  isSome_hexValue?_of_hexFold (hexNumber?_digits u)

private def groups (u : Uuid) : List String :=
  [String.ofList (u.digits.take 8), String.ofList ((u.digits.drop 8).take 4),
    String.ofList ((u.digits.drop 12).take 4), String.ofList ((u.digits.drop 16).take 4),
    String.ofList (u.digits.drop 20)]

private theorem print_eq (u : Uuid) : u.print = "-".intercalate u.groups := rfl

private theorem groups_ne_nil (u : Uuid) : u.groups ≠ [] := List.cons_ne_nil _ _

private theorem flatMap_groups (u : Uuid) : u.groups.flatMap String.toList = u.digits := by
  have again (a b : Nat) : (u.digits.drop a).take b ++ u.digits.drop (a + b) = u.digits.drop a := by
    rw [← List.drop_drop, List.take_append_drop]
  simp only [groups, List.flatMap_cons, List.flatMap_nil, List.append_nil, String.toList_ofList]
  rw [again 16 4, again 12 4, again 8 4, List.take_append_drop]

private theorem hyphen_notMem_groups (u : Uuid) : ∀ group ∈ u.groups, '-' ∉ group.toList := by
  intro group member within
  have digit : '-' ∈ u.digits := by
    rw [← flatMap_groups]
    exact List.mem_flatMap.mpr ⟨group, member, within⟩
  cases isSome_hexValue?_digits u '-' digit

private theorem startsWith_print_eq_false (u : Uuid) {start : String} {c : Char}
    (first : start.toList.head? = some c) (other : hexValue? c = none) :
    u.print.startsWith start = false := by
  rw [String.startsWith_string_eq_false_iff]
  intro begins
  obtain ⟨d, more, shown⟩ : ∃ d more, u.digits = d :: more :=
    List.exists_cons_of_length_eq_add_one (length_digits u)
  have printed : u.print.toList.head? = some d := by
    rw [print_eq, String.toList_intercalate]
    simp [groups, shown]
  have digit := isSome_hexValue?_digits u d (shown ▸ List.mem_cons_self)
  obtain ⟨rest, whole⟩ := begins
  rw [← whole, List.head?_append, first] at printed
  obtain rfl : c = d := Option.some.inj printed
  rw [other] at digit
  cases digit

/-- An identifier that is written is read back. -/
theorem ofText?_print (u : Uuid) : ofText? u.print = some u := by
  have hyphen : "-" = String.singleton '-' := by decide
  have parts : ((u.print.split '-').toList.map fun group => group.copy) = u.groups := by
    rw [print_eq, hyphen, String.toList_split_intercalate (hyphen_notMem_groups u),
      if_neg (groups_ne_nil u)]
  have lengths : u.groups.map String.length = [8, 4, 4, 4, 12] := by
    have whole := length_digits u
    simp [groups, whole]
  have notName : u.print.startsWith "urn:uuid:" = false :=
    startsWith_print_eq_false u (c := 'u') (by decide) (by decide)
  have notBraced : u.print.startsWith "\x7b" = false :=
    startsWith_print_eq_false u (c := '\x7b') (by decide) (by decide)
  have five : u.groups.length ≠ 1 := by simp [groups]
  unfold ofText?
  rw [notName, notBraced]
  simp only [Bool.false_eq_true, if_false, Bool.false_and]
  unfold ofBare?
  rw [parts]
  dsimp only
  rw [if_neg five, if_pos lengths, flatMap_groups]
  unfold ofDigits?
  rw [if_pos (length_digits u), hexNumber?_digits, Option.map_some, BitVec.ofNat_toNat,
    BitVec.setWidth_eq]

end Uuid

end SchemaSeed.Sql
