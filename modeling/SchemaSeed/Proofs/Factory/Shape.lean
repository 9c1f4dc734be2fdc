import Mathlib
import SchemaSeed.Factory.Generator
import SchemaSeed.Proofs.Factory.Drawing
import SchemaSeed.Proofs.Number.Digits
import SchemaSeed.Proofs.Text.Ascii

/-!
The shapes of made-up texts: rows of characters of one class, groups of digits, phrases and
sentences of listed words, and texts that are joined from members of lists. Each function that draws
a text gives texts of one shape only.
-/

set_option autoImplicit false
set_option relaxedAutoImplicit false

namespace SchemaSeed.Factory

open SchemaSeed.Number SchemaSeed.Text
open Vocabulary

/-- A text of so many characters of one class. -/
def ConsistsOf (p : Char → Bool) (n : Nat) (s : String) : Prop :=
  s.length = n ∧ s.toList.all p = true

/-- A lower-case hexadecimal digit. -/
def isLowerHex (c : Char) : Bool := c.isDigit || ('a' ≤ c && c ≤ 'f')

/-- A letter in upper case or a digit. -/
def isCapitalOrDigit (c : Char) : Bool := c.isUpper || c.isDigit

namespace ConsistsOf

variable {p q : Char → Bool} {m n : Nat} {s t : String} {cs : List Char}

theorem ofList (length : cs.length = n) (each : ∀ c ∈ cs, p c = true) :
    ConsistsOf p n (String.ofList cs) := by
  refine ⟨by rw [String.length_ofList, length], ?_⟩
  rw [String.toList_ofList]
  exact List.all_eq_true.mpr each

theorem append (first : ConsistsOf p m s) (second : ConsistsOf p n t) :
    ConsistsOf p (m + n) (s ++ t) := by
  refine ⟨by rw [String.length_append, first.1, second.1], ?_⟩
  rw [String.toList_append, List.all_append, first.2, second.2]
  rfl

theorem mono (weaker : ∀ c, p c = true → q c = true) (consists : ConsistsOf p n s) :
    ConsistsOf q n s := by
  have each := List.all_eq_true.mp consists.2
  exact ⟨consists.1, List.all_eq_true.mpr fun c member => weaker c (each c member)⟩

theorem print (ds : Digits) : ConsistsOf Char.isDigit ds.length ds.print := by
  have digit : ∀ d : Fin 10, (Char.ofNat (48 + d.val)).isDigit = true := by decide
  refine .ofList (List.length_map _) fun c member => ?_
  obtain ⟨d, -, rfl⟩ := List.mem_map.mp member
  exact digit d

private theorem isLowerHex_of_mem_toDigits (n : Nat) :
    ∀ c ∈ Nat.toDigits 16 n, isLowerHex c = true := by
  have each : ∀ n < 16, isLowerHex n.digitChar = true := by decide
  induction n using Nat.strongRecOn with
  | ind n ih =>
    rw [Nat.toDigits_eq_if (by decide)]
    split
    · rename_i small
      simpa using each n small
    · rename_i large
      have less : n / 16 < n := Nat.div_lt_self (by omega) (by decide)
      refine List.forall_mem_append.mpr ⟨ih _ less, ?_⟩
      simpa using each (n % 16) (Nat.mod_lt _ (by decide))

/-- A number that fits into a width takes just that many hexadecimal digits. -/
theorem hexPadded {width k : Nat} (positive : 0 < width) (fits : k < 16 ^ width) :
    ConsistsOf isLowerHex width (hexPadded width k) := by
  refine ⟨by rw [← String.length_toList, length_hexPadded positive fits], ?_⟩
  rw [toList_hexPadded, List.all_append, Bool.and_eq_true]
  refine ⟨List.all_eq_true.mpr fun c member => ?_,
    List.all_eq_true.mpr (isLowerHex_of_mem_toDigits k)⟩
  rw [List.eq_of_mem_replicate member]
  decide

/-- Three digits are those of a number from a hundred on. -/
theorem threeDigits {k : Nat} (least : 100 ≤ k) (most : k ≤ 999) :
    ConsistsOf Char.isDigit 3 (toString k) := by
  have short : (Nat.toDigits 10 k).length ≤ 3 :=
    (Nat.length_toDigits_le_iff (by decide) (by decide)).mpr (by omega)
  have long : ¬ (Nat.toDigits 10 k).length ≤ 2 :=
    (Nat.length_toDigits_le_iff (by decide) (by decide)).not.mpr (by omega)
  rw [Nat.toString_eq_ofList_toDigits]
  exact .ofList (by omega) (List.all_eq_true.mp (all_isDigit_toDigits k))

end ConsistsOf

/-! ### Letters -/

private theorem upperChar_of_isAlphanum {c : Char} (plain : c.isAlphanum = true) :
    upperChar c = [c.toUpper] := by
  unfold upperChar
  rw [if_pos (toNat_lt_of_isAlphanum plain)]

private theorem isCapitalOrDigit_toUpper {c : Char} (plain : c.isAlphanum = true) :
    isCapitalOrDigit c.toUpper = true :=
  forall_ascii (P := fun c => c.isAlphanum = true → isCapitalOrDigit c.toUpper = true) (by decide)
    (toNat_lt_of_isAlphanum plain) plain

namespace ConsistsOf

/-- Letters and digits stay as many in upper case. -/
theorem uppercase {n : Nat} {s : String} (consists : ConsistsOf Char.isAlphanum n s) :
    ConsistsOf isCapitalOrDigit n (uppercase s) := by
  have plain := List.all_eq_true.mp consists.2
  have mapped : s.toList.flatMap upperChar = s.toList.map Char.toUpper := by
    rw [List.map_eq_flatMap]
    exact List.flatMap_congr fun c member => upperChar_of_isAlphanum (plain c member)
  unfold Text.uppercase
  rw [mapped]
  refine .ofList (by rw [List.length_map, String.length_toList, consists.1]) fun c member => ?_
  obtain ⟨d, among, rfl⟩ := List.mem_map.mp member
  exact isCapitalOrDigit_toUpper (plain d among)

end ConsistsOf

/-! ### Phrases, sentences and paragraphs -/

/-- So many listed words, joined by blanks. -/
def IsPhrase (count : Nat) (s : String) : Prop :=
  ∃ chosen : List String, chosen.length = count ∧ (∀ w ∈ chosen, w ∈ words) ∧
    s = " ".intercalate chosen

/-- Five to ten listed words, the first letter made a capital, with a full stop at the end. -/
def IsSentence (s : String) : Prop :=
  ∃ (count : Nat) (first : Char) (rest : List Char), 5 ≤ count ∧ count ≤ 10 ∧
    IsPhrase count (String.ofList (first :: rest)) ∧ first.isLower = true ∧
    s = String.ofList (first.toUpper :: rest ++ ['.'])

/-- Three to six sentences, joined by blanks. -/
def IsParagraph (s : String) : Prop :=
  ∃ sentences : List String, 3 ≤ sentences.length ∧ sentences.length ≤ 6 ∧
    (∀ t ∈ sentences, IsSentence t) ∧ s = " ".intercalate sentences

private theorem word_starts {w : String} (listed : w ∈ words) :
    ∃ first rest, w.toList = first :: rest ∧ first.isLower = true := by
  have each : ∀ w ∈ words, w.toList.head?.any Char.isLower = true := by decide
  have here := each w listed
  cases characters : w.toList with
  | nil =>
    rw [characters] at here
    cases here
  | cons first rest =>
    rw [characters] at here
    exact ⟨first, rest, rfl, here⟩

/-- A phrase starts as its first word does. -/
theorem IsPhrase.starts {count : Nat} {s : String} (phrase : IsPhrase (count + 1) s) :
    ∃ first rest, s.toList = first :: rest ∧ first.isLower = true := by
  obtain ⟨chosen, length, listed, rfl⟩ := phrase
  obtain ⟨w, others, rfl⟩ := List.exists_cons_of_length_eq_add_one length
  obtain ⟨first, rest, characters, lower⟩ := word_starts (listed w List.mem_cons_self)
  rw [String.toList_intercalate, List.map_cons, characters]
  cases others with
  | nil => exact ⟨first, rest, by simp, lower⟩
  | cons other others =>
    rw [List.map_cons, List.intercalate_cons_cons]
    exact ⟨first, _, rfl, lower⟩

/-- What is made of a phrase is a sentence. -/
theorem IsPhrase.isSentence {count : Nat} {s : String} (phrase : IsPhrase count s)
    (least : 5 ≤ count) (most : count ≤ 10) : IsSentence (Draw.asSentence s) := by
  obtain ⟨count, rfl⟩ : ∃ n, count = n + 1 := ⟨count - 1, by omega⟩
  obtain ⟨first, rest, characters, lower⟩ := phrase.starts
  have whole : s = String.ofList (first :: rest) := by rw [← characters, String.ofList_toList]
  refine ⟨count + 1, first, rest, least, most, whole ▸ phrase, lower, ?_⟩
  have plain : first.isAlphanum = true := by simp [Char.isAlphanum, Char.isAlpha, lower]
  unfold Draw.asSentence
  rw [characters]
  dsimp only
  rw [upperChar_of_isAlphanum plain]
  rfl

namespace Draw

theorem phrase_gives (count : Nat) : Gives (phrase count) (IsPhrase count) :=
  ((pick_gives words _).times count).made fun chosen ⟨length, listed⟩ =>
    ⟨chosen, length, listed, rfl⟩

theorem sentence_gives : Gives sentence IsSentence :=
  (betweenWide_gives _).bind fun count bounds => (phrase_gives count.toNat).made fun _ phrase =>
    phrase.isSentence (by omega) (by omega)

theorem paragraph_gives : Gives paragraph IsParagraph :=
  (between_gives _).bind fun count bounds => (sentence_gives.times count.toNat).made
    fun sentences ⟨length, each⟩ => ⟨sentences, by omega, by omega, each, rfl⟩

/-! ### Letters and digits -/

theorem alphanumerics_gives (count : Nat) :
    Gives (alphanumerics count) (ConsistsOf Char.isAlphanum count) :=
  (alphanumeric_gives.times count).made fun _ ⟨length, each⟩ => .ofList length each

theorem digits_gives (count : Nat) : Gives (digits count) fun ds => ds.length = count :=
  fun source => ((Gives.anything (belowSmall 10)).times count source).1

end Draw

/-! ### Groups of digits -/

/-- So many groups of so many hexadecimal digits, joined by colons. -/
def IsHexGroups (count width : Nat) (s : String) : Prop :=
  ∃ groups : List String, groups.length = count ∧ (∀ g ∈ groups, ConsistsOf isLowerHex width g) ∧
    s = ":".intercalate groups

/-- Four octets in decimal, joined by points, the first and the last within the bounds of hosts. -/
def IsHostAddress (s : String) : Prop :=
  ∃ a b c d : Nat, 1 ≤ a ∧ a ≤ 223 ∧ b ≤ 255 ∧ c ≤ 255 ∧ 1 ≤ d ∧ d ≤ 254 ∧
    s = ".".intercalate [toString a, toString b, toString c, toString d]

/-- An American telephone number: an area from 200 on and two groups of three and four digits. -/
def IsPhone (s : String) : Prop :=
  ∃ (area : Nat) (exchange line : String), 200 ≤ area ∧ area ≤ 999 ∧
    ConsistsOf Char.isDigit 3 (toString area) ∧ ConsistsOf Char.isDigit 3 exchange ∧
    ConsistsOf Char.isDigit 4 line ∧
    s = "+1-" ++ toString area ++ "-" ++ exchange ++ "-" ++ line

/-- Four capitals, a listed country, and two capitals or digits. -/
def IsBankCode (s : String) : Prop :=
  ∃ bank country place : String, ConsistsOf Char.isUpper 4 bank ∧ country ∈ bankCountries ∧
    ConsistsOf isCapitalOrDigit 2 place ∧ s = bank ++ country ++ place

/-- A bank code has eight capitals and digits. -/
theorem IsBankCode.consistsOf {s : String} (code : IsBankCode s) :
    ConsistsOf isCapitalOrDigit 8 s := by
  have countries : ∀ country ∈ bankCountries,
      country.length = 2 ∧ country.toList.all isCapitalOrDigit = true := by decide
  obtain ⟨bank, country, place, letters, listed, ending, rfl⟩ := code
  have capitals : ConsistsOf isCapitalOrDigit 4 bank := letters.mono fun c upper => by
    unfold isCapitalOrDigit
    rw [upper, Bool.true_or]
  exact (capitals.append (countries country listed)).append ending

namespace Draw

theorem hexGroups_gives (count : Nat) {width : Nat} (positive : 0 < width) :
    Gives (hexGroups count width) (IsHexGroups count width) := by
  have size : twoTo (4 * width) = 16 ^ width := pow_mul 2 4 width
  refine ((Gives.anything _).times count).made fun numbers ⟨length, _⟩ =>
    ⟨_, (List.length_map _).trans length, fun g member => ?_, rfl⟩
  obtain ⟨n, -, rfl⟩ := List.mem_map.mp member
  exact .hexPadded positive (size ▸ n.isLt)

/-- Natural numbers are drawn between bounds that are natural. -/
private theorem between_gives_nat (lo hi : Nat) (h : (lo : Int) ≤ hi) :
    Gives (between lo hi h) fun n => ∃ k : Nat, n = k ∧ lo ≤ k ∧ k ≤ hi := by
  intro source
  obtain ⟨least, most⟩ := between_gives h source
  have natural := Int.toNat_of_nonneg ((Int.natCast_nonneg lo).trans least)
  exact ⟨_, natural.symm, by omega, by omega⟩

theorem ipv4_gives : Gives ipv4 IsHostAddress := by
  have octet (b : UInt8) : b.toNat ≤ 255 := Nat.le_of_lt_succ b.toNat_lt
  refine (between_gives_nat 1 223 _).bind fun _ ⟨a, same, leastFirst, mostFirst⟩ => ?_
  refine (Gives.anything byte).bind fun b _ => (Gives.anything byte).bind fun c _ => ?_
  refine (between_gives_nat 1 254 _).made fun _ ⟨d, same', leastLast, mostLast⟩ => ?_
  subst same same'
  exact ⟨a, b.toNat, c.toNat, d, leastFirst, mostFirst, octet b, octet c, leastLast, mostLast, rfl⟩

theorem phone_gives : Gives phone IsPhone := by
  refine (between_gives_nat 200 999 _).bind fun _ ⟨area, same, least, most⟩ => ?_
  refine (digits_gives 3).bind fun exchange three => (digits_gives 4).made fun line four => ?_
  subst same
  exact ⟨area, exchange.print, line.print, least, most, .threeDigits (by omega) most,
    three ▸ .print exchange, four ▸ .print line, rfl⟩

theorem bankCode_gives : Gives bankCode IsBankCode := by
  have capital : ∀ n : Fin 26, (Char.ofNat (65 + n.val)).isUpper = true := by decide
  refine ((Gives.anything (belowSmall 26)).times 4).bind fun bank ⟨four, _⟩ => ?_
  refine (pick_gives bankCountries _).bind fun country listed => ?_
  refine (alphanumerics_gives 2).made fun place plain => ?_
  refine ⟨_, country, _, .ofList ((List.length_map _).trans four) fun c member => ?_, listed,
    plain.uppercase, rfl⟩
  obtain ⟨n, -, rfl⟩ := List.mem_map.mp member
  exact capital n

end Draw

/-! ### Texts of listed names -/

/-- Two listed names with a mark between them. -/
def IsJoined (firsts : List String) (mark : String) (lasts : List String) (s : String) : Prop :=
  ∃ first ∈ firsts, ∃ last ∈ lasts, s = first ++ mark ++ last

/-- A first and a last name in lower case, and a number of one or two digits. -/
def IsUserName (s : String) : Prop :=
  ∃ first ∈ firstNames, ∃ last ∈ lastNames, ∃ n : Nat, 1 ≤ n ∧ n ≤ 99 ∧
    s = lowercase first ++ "." ++ lowercase last ++ toString n

/-- A user at a listed domain. -/
def IsMailAddress (s : String) : Prop :=
  ∃ user, IsUserName user ∧ ∃ domain ∈ domains, s = user ++ "@" ++ domain

/-- A listed word as a host in a listed domain. -/
def IsWebAddress (s : String) : Prop :=
  ∃ host, IsJoined words "." domains host ∧ s = "https://" ++ host

/-- A number of a house, and a listed street. -/
def IsStreetAddress (s : String) : Prop :=
  ∃ house : Nat, 1 ≤ house ∧ house ≤ 9999 ∧ ∃ street ∈ streets, s = toString house ++ " " ++ street

namespace Draw

theorem username_gives : Gives username IsUserName := by
  refine (pick_gives firstNames _).bind fun first listed => ?_
  refine (pick_gives lastNames _).bind fun last listed' => ?_
  refine (between_gives_nat 1 99 _).made fun _ ⟨n, same, least, most⟩ => ?_
  subst same
  exact ⟨first, listed, last, listed', n, least, most, rfl⟩

theorem email_gives : Gives email IsMailAddress :=
  username_gives.bind fun user known => (pick_gives domains _).made fun domain listed =>
    ⟨user, known, domain, listed, rfl⟩

theorem webAddress_gives : Gives webAddress IsWebAddress := by
  refine (pick_gives words _).bind fun host listed => ?_
  refine (pick_gives domains _).made fun domain listed' => ?_
  refine ⟨host ++ "." ++ domain, ⟨host, listed, domain, listed', rfl⟩, ?_⟩
  simp only [String.append_assoc]

theorem address_gives : Gives address IsStreetAddress := by
  refine (between_gives_nat 1 9999 _).bind fun _ ⟨house, same, least, most⟩ => ?_
  refine (pick_gives streets _).made fun street listed => ?_
  subst same
  exact ⟨house, least, most, street, listed, rfl⟩

theorem company_gives : Gives company (IsJoined companyStems " " companySuffixes) :=
  (pick_gives companyStems _).bind fun stem listed => (pick_gives companySuffixes _).made
    fun suffix listed' => ⟨stem, listed, suffix, listed', rfl⟩

theorem fullName_gives : Gives fullName (IsJoined firstNames " " lastNames) :=
  (pick_gives firstNames _).bind fun first listed => (pick_gives lastNames _).made
    fun last listed' => ⟨first, listed, last, listed', rfl⟩

end Draw

end SchemaSeed.Factory
