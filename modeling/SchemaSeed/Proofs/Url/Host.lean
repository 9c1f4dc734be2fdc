import Mathlib
import SchemaSeed.Proofs.Number.Digits
import SchemaSeed.Proofs.Url.Path

/-!
Hosts of URLs. A numeric address that is written is read again, so the written form of a host is a
host whose written form it is.
-/

set_option autoImplicit false
set_option relaxedAutoImplicit false

namespace SchemaSeed.Url

open SchemaSeed.Number SchemaSeed.Text

namespace Ipv6

/-- The pieces of an address. -/
def IsAddress (pieces : Pieces) : Prop := pieces.length = 8 ∧ ∀ n ∈ pieces, n < 65536

/-! ### Pieces that are read -/

private theorem lt_of_hexValue? {c : Char} {v : Nat} (value : hexValue? c = some v) : v < 16 := by
  have ascii : c.toNat < 128 := by
    refine toNat_lt_of_isHexDigit ?_
    unfold isHexDigit
    rw [value]
    rfl
  exact forall_ascii (P := fun c => ∀ v, hexValue? c = some v → v < 16) (by decide) ascii v value

private theorem hexFold_lt {start n : Nat} {cs : List Char} (read : hexFold start cs = some n) :
    n < (start + 1) * 16 ^ cs.length := by
  induction cs generalizing start with
  | nil =>
    obtain rfl : start = n := Option.some.inj read
    simp
  | cons c rest ih =>
    unfold hexFold at read
    rw [List.foldlM_cons] at read
    obtain ⟨next, step, others⟩ := Option.bind_eq_some_iff.mp read
    obtain ⟨v, value, rfl⟩ := Option.map_eq_some_iff.mp step
    have small := lt_of_hexValue? value
    calc n < (16 * start + v + 1) * 16 ^ rest.length := ih others
      _ ≤ (16 * (start + 1)) * 16 ^ rest.length := Nat.mul_le_mul_right _ (by omega)
      _ = (start + 1) * 16 ^ (c :: rest).length := by rw [List.length_cons, pow_succ]; ring

private theorem hexPiece?_lt {cs : List Char} {n : Nat} (read : hexPiece? cs = some n) :
    n < 65536 := by
  unfold hexPiece? at read
  split at read
  · cases read
  · rename_i short
    have few : cs.length ≤ 4 := by
      simp only [Bool.or_eq_true, decide_eq_true_eq, not_or, not_lt] at short
      exact short.2
    calc n < (0 + 1) * 16 ^ cs.length := hexFold_lt read
      _ ≤ 1 * 16 ^ 4 := Nat.mul_le_mul_left _ (Nat.pow_le_pow_right (by decide) few)

private theorem octet?_lt {cs : List Char} {n : Nat} (read : octet? cs = some n) : n < 256 := by
  unfold octet? at read
  split at read
  · cases read
  · simpa using (Option.filter_eq_some_iff.mp read).2

private theorem dotted?_lt {cs : List Char} {pieces : List Nat} (read : dotted? cs = some pieces) :
    ∀ n ∈ pieces, n < 65536 := by
  unfold dotted? at read
  split at read
  · rename_i a b c d found
    have octets : ∀ o ∈ [some a, some b, some c, some d], ∃ part, octet? part = o := by
      rw [← found]
      intro o member
      obtain ⟨part, -, same⟩ := List.mem_map.mp member
      exact ⟨part, same⟩
    have bound {o : Nat} (member : some o ∈ [some a, some b, some c, some d]) : o < 256 := by
      obtain ⟨part, value⟩ := octets _ member
      exact octet?_lt value
    have first := bound (o := a) (by simp)
    have second := bound (o := b) (by simp)
    have third := bound (o := c) (by simp)
    have fourth := bound (o := d) (by simp)
    cases read
    exact List.forall_mem_cons.mpr ⟨by omega, List.forall_mem_singleton.mpr (by omega)⟩
  · cases read

private theorem groups?_lt {mayEndDotted : Bool} {parts : List (List Char)} {pieces : List Nat}
    (read : groups? mayEndDotted parts = some pieces) : ∀ n ∈ pieces, n < 65536 := by
  induction parts generalizing pieces with
  | nil =>
    cases read
    exact List.forall_mem_nil _
  | cons part rest ih =>
    cases rest with
    | nil =>
      unfold groups? at read
      split at read
      · exact dotted?_lt read
      · obtain ⟨n, value, rfl⟩ := Option.map_eq_some_iff.mp read
        exact List.forall_mem_singleton.mpr (hexPiece?_lt value)
    | cons second rest =>
      rw [groups?] at read
      · obtain ⟨n, value, others⟩ := Option.bind_eq_some_iff.mp read
        obtain ⟨more, found, same⟩ := Option.bind_eq_some_iff.mp others
        cases same
        exact List.forall_mem_cons.mpr ⟨hexPiece?_lt value, ih found⟩
      · simp

/-- What is read is an address. -/
theorem isAddress_of_parse? {cs : List Char} {pieces : Pieces} (read : parse? cs = some pieces) :
    IsAddress pieces := by
  unfold parse? at read
  split at read
  · obtain ⟨found, eight⟩ := Option.filter_eq_some_iff.mp read
    exact ⟨by simpa using eight, groups?_lt found⟩
  · obtain ⟨left, before, others⟩ := Option.bind_eq_some_iff.mp read
    obtain ⟨right, after, whole⟩ := Option.bind_eq_some_iff.mp others
    split at whole
    · cases whole
    · rename_i few
      cases whole
      refine ⟨?_, List.forall_mem_append.mpr ⟨List.forall_mem_append.mpr ⟨groups?_lt before, ?_⟩,
        groups?_lt after⟩⟩
      · simp only [List.length_append, List.length_replicate]
        omega
      · intro n member
        rw [List.eq_of_mem_replicate member]
        decide

/-! ### Pieces that are written -/

private def digits (n : Nat) : List Char := (hexPadded 1 n).toList

private theorem isHexDigit_of_mem_digits {n : Nat} : ∀ c ∈ digits n, isHexDigit c = true :=
  isSome_hexValue?_of_hexFold (hexFold_hexPadded 1 n)

private theorem notMem_digits {n : Nat} {c : Char} (other : isHexDigit c = false) :
    c ∉ digits n := by
  intro member
  rw [isHexDigit_of_mem_digits c member] at other
  cases other

private theorem digits_ne_nil (n : Nat) : digits n ≠ [] := by
  unfold digits
  rw [toList_hexPadded]
  exact List.append_ne_nil_of_right_ne_nil _ Nat.toDigits_ne_nil

private theorem hexPiece?_digits {n : Nat} (small : n < 65536) : hexPiece? (digits n) = some n := by
  have short : (digits n).length ≤ 4 := by
    have few := (Nat.length_toDigits_le_iff (b := 16) (n := n) (k := 4) (by decide)
      (by decide)).mpr small
    have some : 0 < (Nat.toDigits 16 n).length := Nat.length_toDigits_pos
    unfold digits
    rw [toList_hexPadded, List.length_append, List.length_replicate]
    omega
  unfold hexPiece?
  rw [if_neg (by simpa using ⟨digits_ne_nil n, short⟩)]
  exact hexFold_hexPadded 1 n

theorem joined_eq (pieces : List Nat) : joined pieces = [':'].intercalate (pieces.map digits) := by
  unfold joined
  rw [String.toList_intercalate, List.map_map]
  rfl

private theorem groupsOf_joined (pieces : List Nat) :
    groupsOf (joined pieces) = pieces.map digits := by
  rw [joined_eq]
  unfold groupsOf
  cases pieces with
  | nil => rfl
  | cons n rest =>
    have something : ([':'].intercalate ((n :: rest).map digits)).isEmpty = false := by
      obtain ⟨c, more, first⟩ := List.exists_cons_of_ne_nil (digits_ne_nil n)
      cases rest <;> simp [first]
    rw [something, if_neg Bool.false_ne_true]
    refine splitChars_intercalate (by simp) fun part member => ?_
    obtain ⟨m, -, rfl⟩ := List.mem_map.mp member
    exact notMem_digits (by decide)

private theorem groups?_digits (mayEndDotted : Bool) {pieces : List Nat}
    (small : ∀ n ∈ pieces, n < 65536) :
    groups? mayEndDotted (pieces.map digits) = some pieces := by
  induction pieces with
  | nil => rfl
  | cons n rest ih =>
    obtain ⟨first, others⟩ := List.forall_mem_cons.mp small
    cases rest with
    | nil =>
      have plain : (digits n).contains '.' = false := by
        simpa using notMem_digits (n := n) (c := '.') (by decide)
      rw [List.map_singleton, groups?, plain, Bool.and_false, if_neg Bool.false_ne_true,
        hexPiece?_digits first]
      rfl
    | cons m rest =>
      rw [List.map_cons, groups?, hexPiece?_digits first, ih others]
      · rfl
      · simp

/-- The groups before a gap with some characters in front. -/
private def behind (cs : List Char) (cut : List Char × List Char) : List Char × List Char :=
  (cs ++ cut.1, cut.2)

private theorem cutAtGap_cons {c : Char} {rest : List Char}
    (single : c = ':' → rest.head? ≠ some ':') :
    cutAtGap (c :: rest) = (cutAtGap rest).map (behind [c]) := by
  rw [cutAtGap.eq_def]
  split
  · rename_i same
    obtain ⟨rfl, rfl⟩ := List.cons.inj same
    exact absurd rfl (single rfl)
  · rename_i same
    obtain ⟨rfl, rfl⟩ := List.cons.inj same
    rfl
  · rename_i same
    cases same

private theorem map_behind_behind (cs ds : List Char) (cut : Option (List Char × List Char)) :
    (cut.map (behind ds)).map (behind cs) = cut.map (behind (cs ++ ds)) := by
  rw [Option.map_map]
  congr 1
  funext cut
  exact Prod.ext (List.append_assoc _ _ _).symm rfl

private theorem cutAtGap_of_notMem {cs : List Char} (plain : ':' ∉ cs) (rest : List Char) :
    cutAtGap (cs ++ rest) = (cutAtGap rest).map (behind cs) := by
  induction cs with
  | nil =>
    have same : behind [] = id := rfl
    rw [same, Option.map_id]
    rfl
  | cons c more ih =>
    rw [List.mem_cons, not_or] at plain
    rw [List.cons_append, cutAtGap_cons fun colon => absurd colon.symm plain.1, ih plain.2,
      map_behind_behind]
    rfl

/-- Two colons behind written pieces are the first two colons in a row. -/
private theorem cutAtGap_joined (pieces : List Nat) (rest : List Char) :
    cutAtGap (joined pieces ++ rest) = (cutAtGap rest).map (behind (joined pieces)) := by
  have noColon (n : Nat) : ':' ∉ digits n := notMem_digits (by decide)
  rw [joined_eq]
  induction pieces with
  | nil => exact cutAtGap_of_notMem List.not_mem_nil rest
  | cons n more ih =>
    cases more with
    | nil =>
      rw [List.map_singleton, List.intercalate_singleton]
      exact cutAtGap_of_notMem (noColon n) rest
    | cons m more =>
      -- The next group begins with a digit, so the colon before it stands alone.
      have digit : ([':'].intercalate ((m :: more).map digits) ++ rest).head? ≠ some ':' := by
        obtain ⟨c, tail, first⟩ := List.exists_cons_of_ne_nil (digits_ne_nil m)
        have other : c ≠ ':' := by
          rintro rfl
          exact noColon m (first ▸ List.mem_cons_self)
        cases more <;> simpa [first] using other
      rw [List.map_cons, List.map_cons, List.intercalate_cons_cons, ← List.map_cons,
        List.append_assoc, List.append_assoc, cutAtGap_of_notMem (noColon n), List.singleton_append,
        cutAtGap_cons fun _ => digit, ih, map_behind_behind, map_behind_behind]

private theorem parse?_joined {pieces : Pieces} (isAddress : IsAddress pieces) :
    parse? (joined pieces) = some pieces := by
  have noGap : cutAtGap (joined pieces) = none := by
    have cut := cutAtGap_joined pieces []
    rwa [List.append_nil] at cut
  unfold parse?
  rw [noGap, groupsOf_joined]
  dsimp only
  rw [groups?_digits true isAddress.2, Option.filter_some]
  simp [isAddress.1]

private theorem parse?_gap {left right : List Nat} (small : ∀ n ∈ left, n < 65536)
    (small' : ∀ n ∈ right, n < 65536) (few : left.length + right.length ≤ 7) :
    parse? (joined left ++ [':', ':'] ++ joined right) =
      some (left ++ List.replicate (8 - left.length - right.length) 0 ++ right) := by
  have gap : cutAtGap (joined left ++ [':', ':'] ++ joined right) =
      some (joined left, joined right) := by
    have here : cutAtGap ([':', ':'] ++ joined right) = some ([], joined right) := rfl
    rw [List.append_assoc, cutAtGap_joined, here]
    exact congrArg (fun left => some (left, joined right)) (List.append_nil _)
  unfold parse?
  rw [gap]
  dsimp only
  rw [groupsOf_joined, groupsOf_joined, groups?_digits false small, groups?_digits true small']
  exact if_neg (by omega)

/-! ### The longest run of zeros -/

/-- A run of zeros within some pieces: its start and its length. -/
private def IsRun (pieces : Pieces) (run : Nat × Nat) : Prop :=
  (pieces.drop run.1).take run.2 = List.replicate run.2 0

private theorem isRun_zeroRun (pieces : Pieces) (i : Nat) :
    IsRun pieces (i, zeroRun (pieces.drop i)) := by
  unfold IsRun zeroRun
  generalize pieces.drop i = rest
  induction rest with
  | nil => rfl
  | cons n more ih =>
    by_cases zero : n = 0
    · subst zero
      simpa [List.replicate_succ] using ih
    · simp [zero]

private theorem isRun_longestRun (pieces : Pieces) : IsRun pieces (longestRun pieces) := by
  unfold longestRun
  generalize List.range pieces.length = starts
  have start : IsRun pieces (0, 0) := rfl
  generalize ((0, 0) : Nat × Nat) = best at start
  induction starts generalizing best with
  | nil => exact start
  | cons i rest ih =>
    rw [List.foldl_cons]
    refine ih _ ?_
    dsimp only
    split
    · exact isRun_zeroRun pieces i
    · exact start

/-- An address that is written is read again. -/
theorem parse?_print {pieces : Pieces} (isAddress : IsAddress pieces) :
    parse? (print pieces) = some pieces := by
  unfold print
  dsimp only
  split
  · exact parse?_joined isAddress
  · rename_i long
    generalize same : longestRun pieces = run at long
    have zeros := isRun_longestRun pieces
    rw [same] at zeros
    obtain ⟨start, length⟩ := run
    change (pieces.drop start).take length = List.replicate length 0 at zeros
    have within : start + length ≤ 8 := by
      have size := congrArg List.length zeros
      rw [List.length_take, List.length_drop, List.length_replicate, isAddress.1] at size
      omega
    have whole : pieces.take start ++ List.replicate length 0 ++ pieces.drop (start + length) =
        pieces := by
      rw [← zeros, ← List.drop_drop, List.append_assoc, List.take_append_drop,
        List.take_append_drop]
    have lengths :
        (pieces.take start).length + (pieces.drop (start + length)).length = 8 - length := by
      rw [List.length_take, List.length_drop, isAddress.1]
      omega
    have gap : 8 - (pieces.take start).length - (pieces.drop (start + length)).length = length := by
      omega
    dsimp only at long ⊢
    rw [parse?_gap (fun n member => isAddress.2 n (List.mem_of_mem_take member))
      (fun n member => isAddress.2 n (List.mem_of_mem_drop member)) (by omega), gap, whole]

/-- An address is written with hexadecimal digits and colons. -/
theorem mem_print {pieces : Pieces} {c : Char} (member : c ∈ print pieces) :
    isHexDigit c = true ∨ c = ':' := by
  have each {pieces : List Nat} (within : c ∈ joined pieces) : isHexDigit c = true ∨ c = ':' := by
    rw [joined_eq] at within
    induction pieces with
    | nil => cases within
    | cons n rest ih =>
      cases rest with
      | nil =>
        rw [List.map_singleton, List.intercalate_singleton] at within
        exact .inl (isHexDigit_of_mem_digits c within)
      | cons m rest =>
        rw [List.map_cons, List.map_cons, List.intercalate_cons_cons, List.append_assoc,
          List.mem_append, List.mem_append, List.mem_singleton] at within
        rcases within with digit | colon | later
        · exact .inl (isHexDigit_of_mem_digits c digit)
        · exact .inr colon
        · exact ih later
  unfold print at member
  dsimp only at member
  split at member
  · exact each member
  · rcases List.mem_append.mp member with first | last
    · rcases List.mem_append.mp first with left | gap
      · exact each left
      · exact .inr (by simpa using gap)
    · exact each last

end Ipv6

namespace Host

/-- How the host of an ordinary URL is written: without separators and control characters, or as an
address in brackets. -/
inductive Written : List Char → Prop
  | name {cs : List Char} : (∀ c ∈ cs, separators.contains c = false ∧ controlSet c = false) →
      Written cs
  | address {pieces : Ipv6.Pieces} : Ipv6.IsAddress pieces →
      Written ('[' :: Ipv6.print pieces ++ [']'])

/-- The written form of a host is one. -/
theorem written_of_opaqueHost {cs host : List Char} (read : opaqueHost cs = .ok host) :
    Written host := by
  unfold opaqueHost at read
  split at read
  · unfold Host.address at read
    split at read
    · rename_i pieces found
      obtain ⟨inner, -, parsed⟩ := Option.bind_eq_some_iff.mp found
      cases read
      exact .address (Ipv6.isAddress_of_parse? parsed)
    · cases read
  · split at read
    · cases read
    · rename_i plain
      cases read
      refine .name fun c member => ⟨?_, free_encode keepsEscapes_controlSet cs c member⟩
      rcases mem_encode member with ⟨among, -⟩ | rfl | digit
      · rw [Bool.not_eq_true, List.any_eq_false] at plain
        exact Bool.eq_false_iff.mpr (plain c among)
      · decide
      · exact forall_ascii (P := fun c => isHexDigit c = true → separators.contains c = false)
          (by decide) (toNat_lt_of_isHexDigit digit) digit

/-- The characters that separate the parts of a URL are not in it, those of an address apart. -/
theorem Written.notMem {host : List Char} (written : Written host) {d : Char}
    (separates : separators.contains d = true) (digit : isHexDigit d = false)
    (other : d ∉ ['[', ':', ']']) : d ∉ host := by
  intro member
  cases written with
  | name each =>
    rw [(each d member).1] at separates
    cases separates
  | address isAddress =>
    rw [List.mem_append, List.mem_cons] at member
    rcases member with (rfl | inner) | last
    · exact other (by decide)
    · rcases Ipv6.mem_print inner with isDigit | rfl
      · rw [isDigit] at digit
        cases digit
      · exact other (by decide)
    · rw [List.mem_singleton.mp last] at other
      exact other (by decide)

/-- It is the written form of itself. -/
theorem Written.opaqueHost {host : List Char} (written : Written host) :
    opaqueHost host = .ok host := by
  cases written with
  | name each =>
    have unbracketed : host.head? ≠ some '[' := by
      intro first
      have bracket := (each '[' (List.mem_of_head? first)).1
      revert bracket
      decide
    have plain : host.any separators.contains = false :=
      List.any_eq_false.mpr fun c member => Bool.eq_false_iff.mp (each c member).1
    unfold Host.opaqueHost
    rw [if_neg unbracketed, plain, if_neg Bool.false_ne_true,
      encode_of_free fun c member => (each c member).2]
  | @address pieces isAddress =>
    have inner : bracketed? ('[' :: Ipv6.print pieces ++ [']']) = some (Ipv6.print pieces) := by
      unfold bracketed?
      simp
    unfold Host.opaqueHost Host.address
    have first : ('[' :: Ipv6.print pieces ++ [']']).head? = some '[' := rfl
    rw [if_pos first, inner, Option.bind_some, Ipv6.parse?_print isAddress]

end Host

end SchemaSeed.Url
