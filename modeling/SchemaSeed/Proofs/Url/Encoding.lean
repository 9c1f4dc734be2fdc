import Mathlib
import SchemaSeed.Proofs.Text.Ascii
import SchemaSeed.Url.Encoded

/-!
Percent encoding and its reading. Encoding keeps percent signs, so what is read from a text that was
encoded is what would be read from the text itself; that is the text as it stands exactly if it
holds no escape.
-/

set_option autoImplicit false
set_option relaxedAutoImplicit false

namespace SchemaSeed.Url

open SchemaSeed.Number SchemaSeed.Text

/-- The bytes of some characters. -/
def utf8Bytes (cs : List Char) : List UInt8 := cs.flatMap String.utf8EncodeChar

def isHexDigit (c : Char) : Bool := (hexValue? c).isSome

/-- Whether a text begins with two hexadecimal digits. -/
def beginsWithByte : List Char → Bool
  | a :: b :: _ => isHexDigit a && isHexDigit b
  | _ => false

/-- Whether a text holds a percent sign with two hexadecimal digits behind it. -/
def hasEscape : List Char → Bool
  | [] => false
  | c :: rest => (c = '%' && beginsWithByte rest) || hasEscape rest

/-- A set that holds neither the percent sign nor a hexadecimal digit. -/
def EncodeSet.KeepsEscapes (set : EncodeSet) : Prop :=
  set '%' = false ∧ ∀ c, isHexDigit c = true → set c = false

theorem toNat_lt_of_isHexDigit {c : Char} (digit : isHexDigit c = true) : c.toNat < 128 := by
  unfold isHexDigit hexValue? at digit
  split at digit
  · rename_i decimal
    have most : c.toNat ≤ 57 := by
      simp only [Char.isDigit, Bool.and_eq_true, decide_eq_true_eq] at decimal
      exact decimal.2
    omega
  · split at digit
    · rename_i lower
      have most : c.toNat ≤ 102 := lower.2
      omega
    · split at digit
      · rename_i upper
        have most : c.toNat ≤ 70 := upper.2
        omega
      · cases digit

theorem EncodeSet.KeepsEscapes.of_ascii {set : EncodeSet} (percent : set '%' = false)
    (digits : ∀ n < 128, isHexDigit (Char.ofNat n) = true → set (Char.ofNat n) = false) :
    set.KeepsEscapes :=
  ⟨percent, fun _ digit =>
    forall_ascii (P := fun c => isHexDigit c = true → set c = false) digits
      (toNat_lt_of_isHexDigit digit) digit⟩

theorem keepsEscapes_controlSet : EncodeSet.KeepsEscapes controlSet :=
  .of_ascii (by decide) (by decide)

theorem keepsEscapes_querySet : EncodeSet.KeepsEscapes querySet :=
  .of_ascii (by decide) (by decide)

theorem keepsEscapes_fragmentSet : EncodeSet.KeepsEscapes fragmentSet :=
  .of_ascii (by decide) (by decide)

theorem keepsEscapes_pathSet : EncodeSet.KeepsEscapes pathSet :=
  .of_ascii (by decide) (by decide)

theorem keepsEscapes_userinfoSet : EncodeSet.KeepsEscapes userinfoSet :=
  .of_ascii (by decide) (by decide)

/-! ### Encoding -/

section

variable {set : EncodeSet}

/-- A text without characters of a set. -/
def Free (set : EncodeSet) (cs : List Char) : Prop := ∀ c ∈ cs, set c = false

theorem encode_cons (c : Char) (cs : List Char) :
    encode set (c :: cs) = encodeChar set c ++ encode set cs := List.flatMap_cons

theorem encodeChar_ne_nil (c : Char) : encodeChar set c ≠ [] := by
  unfold encodeChar
  split
  · obtain ⟨b, bs, bytes⟩ := List.exists_cons_of_ne_nil (String.utf8EncodeChar_ne_nil (c := c))
    rw [bytes]
    exact List.cons_ne_nil _ _
  · exact List.cons_ne_nil _ _

theorem encodeChar_of_free {c : Char} (free : set c = false) : encodeChar set c = [c] := by
  unfold encodeChar
  rw [free]
  rfl

/-- A text that holds no character of the set is written as it is. -/
theorem encode_of_free {cs : List Char} (free : Free set cs) : encode set cs = cs := by
  induction cs with
  | nil => rfl
  | cons c rest ih =>
    obtain ⟨first, others⟩ := List.forall_mem_cons.mp free
    rw [encode_cons, ih others, encodeChar_of_free first, List.singleton_append]

theorem hexValue?_upperHexDigit {n : Nat} (small : n < 16) :
    hexValue? (upperHexDigit n) = some n := by
  have each : ∀ n < 16, hexValue? (upperHexDigit n) = some n := by decide
  exact each n small

private theorem byte_halves (b : UInt8) : b.toNat / 16 < 16 ∧ b.toNat % 16 < 16 := by
  have bound : b.toNat < 256 := b.toNat_lt
  omega

/-- What is written are characters of the text that are not in the set, percent signs and
hexadecimal digits. -/
theorem mem_encode {c : Char} {cs : List Char} (member : c ∈ encode set cs) :
    (c ∈ cs ∧ set c = false) ∨ c = '%' ∨ isHexDigit c = true := by
  have digit {n : Nat} (small : n < 16) : isHexDigit (upperHexDigit n) = true := by
    unfold isHexDigit
    rw [hexValue?_upperHexDigit small]
    rfl
  obtain ⟨d, among, within⟩ := List.mem_flatMap.mp member
  unfold encodeChar at within
  split at within
  · obtain ⟨b, -, written⟩ := List.mem_flatMap.mp within
    obtain ⟨high, low⟩ := byte_halves b
    simp only [encodeByte, List.mem_cons, List.not_mem_nil, or_false] at written
    rcases written with rfl | rfl | rfl
    · exact .inr (.inl rfl)
    · exact .inr (.inr (digit high))
    · exact .inr (.inr (digit low))
  · rename_i plain
    obtain rfl := List.mem_singleton.mp within
    exact .inl ⟨among, Bool.eq_false_iff.mpr plain⟩

/-- What is written holds no character of the set. -/
theorem free_encode (keeps : set.KeepsEscapes) (cs : List Char) : Free set (encode set cs) := by
  intro c member
  rcases mem_encode member with ⟨-, plain⟩ | rfl | digit
  · exact plain
  · exact keeps.1
  · exact keeps.2 c digit

end

/-! ### Decoding -/

theorem decode_cons {c : Char} (other : c ≠ '%') (rest : List Char) :
    decode (c :: rest) = String.utf8EncodeChar c ++ decode rest := by
  rw [decode.eq_def]
  split
  · rename_i same
    cases same
  · rename_i same
    exact absurd (List.cons.inj same).1 other
  · rename_i same
    obtain ⟨rfl, rfl⟩ := List.cons.inj same
    rfl

theorem decode_percent {rest : List Char} (plain : beginsWithByte rest = false) :
    decode ('%' :: rest) = String.utf8EncodeChar '%' ++ decode rest := by
  rw [decode.eq_def]
  split
  · rename_i same
    cases same
  · rename_i a b more same
    obtain ⟨-, rfl⟩ := List.cons.inj same
    change ((hexValue? a).isSome && (hexValue? b).isSome) = false at plain
    split
    · rename_i high low
      rw [high, low] at plain
      cases plain
    · rfl
  · rename_i same
    obtain ⟨rfl, rfl⟩ := List.cons.inj same
    rfl

theorem decode_escape {a b : Char} {high low : Nat} (first : hexValue? a = some high)
    (second : hexValue? b = some low) (rest : List Char) :
    decode ('%' :: a :: b :: rest) = UInt8.ofNat (16 * high + low) :: decode rest := by
  rw [decode, first, second]

/-- The three ways in which a text that is not empty is read. -/
theorem decode_cases (c : Char) (rest : List Char) :
    (c = '%' ∧ ∃ a b more byte, rest = a :: b :: more ∧ isHexDigit a = true ∧ isHexDigit b = true ∧
      ∀ more, decode (c :: a :: b :: more) = byte :: decode more) ∨
    ((c = '%' && beginsWithByte rest) = false ∧
      decode (c :: rest) = String.utf8EncodeChar c ++ decode rest) := by
  by_cases percent : c = '%'
  · subst percent
    cases begins : beginsWithByte rest with
    | true =>
      unfold beginsWithByte isHexDigit at begins
      split at begins
      · rename_i a b more
        obtain ⟨first, second⟩ := Bool.and_eq_true_iff.mp begins
        obtain ⟨high, isHigh⟩ := Option.isSome_iff_exists.mp first
        obtain ⟨low, isLow⟩ := Option.isSome_iff_exists.mp second
        exact .inl ⟨rfl, a, b, more, _, rfl, first, second, decode_escape isHigh isLow⟩
      · cases begins
    | false => exact .inr ⟨rfl, decode_percent begins⟩
  · refine .inr ⟨?_, decode_cons percent rest⟩
    rw [decide_eq_false percent, Bool.false_and]

section

variable {mark : Char}

/-- What follows a character that is no hexadecimal digit does not count. -/
private theorem beginsWithByte_append (other : isHexDigit mark = false) (cs ds : List Char) :
    beginsWithByte (cs ++ mark :: ds) = beginsWithByte cs := by
  rcases cs with _ | ⟨a, _ | ⟨b, rest⟩⟩
  · cases ds with
    | nil => rfl
    | cons d more => exact (congrArg (· && isHexDigit d) other).trans (Bool.false_and _)
  · exact (congrArg (isHexDigit a && ·) other).trans (Bool.and_false _)
  · rfl

/-- No escape reaches beyond a character that is no hexadecimal digit. -/
theorem decode_append (other : isHexDigit mark = false) (cs ds : List Char) :
    decode (cs ++ mark :: ds) = decode cs ++ decode (mark :: ds) := by
  induction h : cs.length using Nat.strongRecOn generalizing cs with
  | ind n ih =>
    subst h
    cases cs with
    | nil => rfl
    | cons c rest =>
      rcases decode_cases c rest with ⟨rfl, a, b, more, byte, rfl, -, -, read⟩ | ⟨plain, read⟩
      · have tail := ih more.length (by simp; omega) more rfl
        rw [read]
        exact (read (more ++ mark :: ds)).trans (congrArg (byte :: ·) tail)
      · have tail := ih rest.length (by simp) rest rfl
        rw [read, List.append_assoc, ← tail]
        rcases decode_cases c (rest ++ mark :: ds) with
          ⟨rfl, a, b, more, -, same, first, second, -⟩ | ⟨-, whole⟩
        · have begins := beginsWithByte_append other rest ds
          rw [same] at begins
          rw [← begins] at plain
          simp [beginsWithByte, first, second] at plain
        · exact whole

end

section

variable {set : EncodeSet}

private theorem decode_encodeByte (b : UInt8) (rest : List Char) :
    decode (encodeByte b ++ rest) = b :: decode rest := by
  obtain ⟨high, low⟩ := byte_halves b
  have halves : 16 * (b.toNat / 16) + b.toNat % 16 = b.toNat := Nat.div_add_mod _ _
  have read := decode_escape (hexValue?_upperHexDigit high) (hexValue?_upperHexDigit low) rest
  rw [halves, UInt8.ofNat_toNat] at read
  exact read

private theorem decode_encodeBytes (bs : List UInt8) (rest : List Char) :
    decode (bs.flatMap encodeByte ++ rest) = bs ++ decode rest := by
  induction bs with
  | nil => rfl
  | cons b more ih => rw [List.flatMap_cons, List.append_assoc, decode_encodeByte, ih]; rfl

/-- Where a text begins with two hexadecimal digits is not changed by writing it. -/
private theorem beginsWithByte_encode (keeps : set.KeepsEscapes) (cs : List Char) :
    beginsWithByte (encode set cs) = beginsWithByte cs := by
  have kept {c : Char} (digit : isHexDigit c = true) : encodeChar set c = [c] :=
    encodeChar_of_free (keeps.2 c digit)
  have other {c : Char} (none : isHexDigit c = false) (rest : List Char) :
      ∃ d more, encodeChar set c ++ rest = d :: more ∧ isHexDigit d = false := by
    unfold encodeChar
    split
    · obtain ⟨b, bs, bytes⟩ := List.exists_cons_of_ne_nil (String.utf8EncodeChar_ne_nil (c := c))
      rw [bytes]
      exact ⟨'%', _, rfl, by decide⟩
    · exact ⟨c, rest, rfl, none⟩
  have first {d : Char} (none : isHexDigit d = false) (more : List Char) :
      beginsWithByte (d :: more) = false := by
    cases more with
    | nil => rfl
    | cons e more => exact (congrArg (· && isHexDigit e) none).trans (Bool.false_and _)
  have second (a : Char) {d : Char} (none : isHexDigit d = false) (more : List Char) :
      beginsWithByte (a :: d :: more) = false :=
    (congrArg (isHexDigit a && ·) none).trans (Bool.and_false _)
  rcases cs with _ | ⟨a, rest⟩
  · rfl
  rw [encode_cons]
  cases leading : isHexDigit a with
  | false =>
    obtain ⟨d, more, same, none⟩ := other leading (encode set rest)
    rw [same, first none, first leading]
  | true =>
    rw [kept leading, List.singleton_append]
    rcases rest with _ | ⟨b, rest⟩
    · rfl
    rw [encode_cons]
    cases following : isHexDigit b with
    | false =>
      obtain ⟨d, more, same, none⟩ := other following (encode set rest)
      rw [same, second a none, second a following]
    | true =>
      rw [kept following]
      rfl

/-- From a text that was encoded the same is read as from the text itself. -/
theorem decode_encode (keeps : set.KeepsEscapes) (cs : List Char) :
    decode (encode set cs) = decode cs := by
  -- On the length of the text, since an escape takes three characters at once.
  induction h : cs.length using Nat.strongRecOn generalizing cs with
  | ind n ih =>
    subst h
    cases cs with
    | nil => rfl
    | cons c rest =>
      rcases decode_cases c rest with
        ⟨rfl, a, b, more, byte, rfl, first, second, read⟩ | ⟨plain, read⟩
      · have written : encode set ('%' :: a :: b :: more) = '%' :: a :: b :: encode set more := by
          rw [encode_cons, encode_cons, encode_cons, encodeChar_of_free keeps.1,
            encodeChar_of_free (keeps.2 a first), encodeChar_of_free (keeps.2 b second)]
          rfl
        rw [written, read, read, ih more.length (by simp; omega) more rfl]
      · rw [read, ← ih rest.length (by simp) rest rfl, encode_cons]
        unfold encodeChar
        split
        · exact decode_encodeBytes _ _
        · by_cases percent : c = '%'
          · subst percent
            have none : beginsWithByte (encode set rest) = false := by
              rw [beginsWithByte_encode keeps]
              simpa using plain
            exact decode_percent none
          · exact decode_cons percent _

/-- What is read from a text is not longer than the text, and it is the text exactly if there is no
escape in it. -/
theorem length_decode_le (cs : List Char) :
    (decode cs).length ≤ (utf8Bytes cs).length ∧
      (hasEscape cs = true → (decode cs).length < (utf8Bytes cs).length) ∧
      (hasEscape cs = false → decode cs = utf8Bytes cs) := by
  induction h : cs.length using Nat.strongRecOn generalizing cs with
  | ind n ih =>
    subst h
    cases cs with
    | nil => exact ⟨le_rfl, (absurd · (by decide)), fun _ => rfl⟩
    | cons c rest =>
      have bytes (c : Char) : 0 < (String.utf8EncodeChar c).length :=
        List.length_pos_of_ne_nil String.utf8EncodeChar_ne_nil
      rcases decode_cases c rest with
        ⟨rfl, a, b, more, byte, rfl, first, second, read⟩ | ⟨plain, read⟩
      · obtain ⟨least, -, -⟩ := ih more.length (by simp; omega) more rfl
        have shorter : (decode ('%' :: a :: b :: more)).length <
            (utf8Bytes ('%' :: a :: b :: more)).length := by
          have one := bytes '%'
          have two := bytes a
          have three := bytes b
          rw [read]
          simp only [utf8Bytes, List.flatMap_cons, List.length_append, List.length_cons] at least ⊢
          omega
        refine ⟨shorter.le, fun _ => shorter, fun none => ?_⟩
        simp [hasEscape, beginsWithByte, first, second] at none
      · obtain ⟨least, strict, same⟩ := ih rest.length (by simp) rest rfl
        have escapes : hasEscape (c :: rest) = hasEscape rest := by
          unfold hasEscape
          rw [plain, Bool.false_or]
          cases rest <;> rfl
        have whole : utf8Bytes (c :: rest) = String.utf8EncodeChar c ++ utf8Bytes rest :=
          List.flatMap_cons
        rw [read, escapes, whole, List.length_append, List.length_append]
        refine ⟨by omega, fun escape => ?_, fun none => ?_⟩
        · have := strict escape
          omega
        · rw [same none]

/-- A text is read as it stands exactly if it holds no escape. -/
theorem decode_eq_utf8Bytes_iff (cs : List Char) :
    decode cs = utf8Bytes cs ↔ hasEscape cs = false := by
  obtain ⟨-, strict, same⟩ := length_decode_le cs
  refine ⟨fun read => ?_, same⟩
  by_contra escape
  have less := strict (Bool.not_eq_false _ ▸ escape)
  rw [read] at less
  exact lt_irrefl _ less

/-- Different texts have different bytes. -/
theorem utf8Bytes_injective : Function.Injective utf8Bytes := by
  intro cs ds same
  have bytes : (String.ofList cs).toByteArray = (String.ofList ds).toByteArray := by
    rw [← String.utf8Encode_toList, ← String.utf8Encode_toList, String.toList_ofList,
      String.toList_ofList]
    exact congrArg List.toByteArray same
  rw [String.toByteArray_inj] at bytes
  rw [← String.toList_ofList (l := cs), bytes, String.toList_ofList]

/-- A text is read if its bytes are read. -/
theorem decodeText?_eq_some_iff (cs : List Char) (s : String) :
    decodeText? cs = some s ↔ decode cs = utf8Bytes s.toList := by
  have whole : ByteArray.mk (decode cs).toArray = (decode cs).toByteArray :=
    ByteArray.ext List.data_toByteArray.symm
  have bytes : s.toByteArray = (utf8Bytes s.toList).toByteArray := String.utf8Encode_toList.symm
  unfold decodeText?
  rw [whole]
  constructor
  · intro read
    unfold String.fromUTF8? at read
    split at read
    · rename_i valid
      have same : s.toByteArray = (decode cs).toByteArray := by
        rw [← Option.some.inj read]
        rfl
      rw [bytes, List.toByteArray_inj] at same
      exact same.symm
    · cases read
  · intro same
    rw [same, ← bytes]
    unfold String.fromUTF8?
    rw [dif_pos s.isValidUTF8]
    rfl

end

end SchemaSeed.Url
