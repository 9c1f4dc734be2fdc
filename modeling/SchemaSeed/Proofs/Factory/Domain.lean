import Mathlib
import SchemaSeed.Proofs.Factory.Checksum
import SchemaSeed.Proofs.Factory.Shape

/-!
The values of each kind. What is made up for a kind stays in the domain of the kind, in whatever
state the random source is: numbers within their bounds, texts of their shape, names from their
lists, and times within their distance from the present one.
-/

set_option autoImplicit false
set_option relaxedAutoImplicit false

namespace SchemaSeed.Factory

open SchemaSeed.Sql SchemaSeed.Calendar SchemaSeed.Number
open Vocabulary

/-- A 32-bit integer between two bounds. -/
def IsInt32 (lo hi : Int) (v : Value) : Prop := ∃ n, v = .int32 n ∧ lo ≤ n ∧ n ≤ hi

/-- A 64-bit integer. -/
def IsInt64 (v : Value) : Prop := ∃ n, v = .int64 n ∧ -2 ^ 63 ≤ n ∧ n ≤ 2 ^ 63 - 1

/-- A text of a shape. -/
def IsText (shape : String → Prop) (v : Value) : Prop := ∃ s, v = .text s ∧ shape s

/-- A value that is made of a distance of up to so many days, in seconds. -/
def IsWithin (days : Int) (make : Int → Value) (v : Value) : Prop :=
  ∃ seconds, v = make seconds ∧ 1 ≤ seconds ∧ seconds ≤ days * 86400

/-- The values that a kind may have at a time. -/
def Tag.Admits (now : Instant) : Tag → Value → Prop
  | .number => IsInt32 0 (2 ^ 31 - 1)
  | .integer => IsInt32 (-2 ^ 31) (2 ^ 31 - 1)
  | .smallInteger => IsInt32 (-2 ^ 15) (2 ^ 15 - 1)
  | .mediumInteger => IsInt32 (-2 ^ 23) (2 ^ 23 - 1)
  | .bigInteger => IsInt64
  | .tinyInteger => IsInt32 1 127
  | .float => fun v => ∃ b, v = .float64 b
  | .double => fun v => ∃ b, v = .float64 b
  | .decimal => fun v => ∃ b, v = .float64 b
  | .boolean => fun v => ∃ b, v = .bool b
  | .uuid => fun v => ∃ u, v = .uuid u
  | .string => IsText (IsPhrase 3)
  | .char => IsText (ConsistsOf Char.isAlphanum 1)
  | .varchar => IsText (IsPhrase 5)
  | .longText => IsText IsParagraph
  | .alphanumeric => IsText (ConsistsOf Char.isAlphanum 10)
  | .email => IsText IsMailAddress
  | .url => IsText IsWebAddress
  | .username => IsText IsUserName
  | .password => IsText (ConsistsOf Char.isAlphanum 15)
  | .phone => IsText IsPhone
  | .address => IsText IsStreetAddress
  | .city => IsText (· ∈ cities)
  | .state => IsText (· ∈ states)
  | .country => IsText (· ∈ countries)
  | .zip => IsText (ConsistsOf Char.isDigit 5)
  | .ipv4 => IsText IsHostAddress
  | .ipv6 => IsText (IsHexGroups 8 4)
  | .mac => IsText (IsHexGroups 6 2)
  | .company => IsText (IsJoined companyStems " " companySuffixes)
  | .companySuffix => IsText (· ∈ companySuffixes)
  | .color => IsText (· ∈ colors)
  | .hexColor => IsText fun s => ∃ digits, ConsistsOf isLowerHex 6 digits ∧ s = "#" ++ digits
  | .jobTitle => IsText (· ∈ jobTitles)
  | .name => IsText (IsJoined firstNames " " lastNames)
  | .firstName => IsText (· ∈ firstNames)
  | .lastName => IsText (· ∈ lastNames)
  | .pastDate => IsWithin 365 fun seconds => .date (now.addSeconds (-seconds)).date
  | .futureDate => IsWithin 365 fun seconds => .date (now.addSeconds seconds).date
  | .time =>
    IsWithin 2 fun seconds => .time { (now.addSeconds (-seconds)).time with nanosecond := 0 }
  | .instant => IsWithin 2 fun seconds => .instant (now.addSeconds (-seconds))
  | .creditCard => IsText IsCard
  | .currency => IsText (· ∈ currencies)
  | .iban => IsText IsAccount
  | .bic => IsText fun s => IsBankCode s ∧ ConsistsOf isCapitalOrDigit 8 s

namespace Draw

section

variable {shape : String → Prop} {draw : Draw String}

/-- A text of a shape is drawn as a value. -/
private theorem text_gives (given : Gives draw shape) :
    Gives (do return Value.text (← draw)) (IsText shape) :=
  given.made fun s holds => ⟨s, rfl, holds⟩

private theorem int32_gives {lo hi lo' hi' : Int} (h : lo ≤ hi) (below : lo' ≤ lo)
    (above : hi ≤ hi') : Gives (do return Value.int32 (← between lo hi h)) (IsInt32 lo' hi') :=
  (between_gives h).made fun n ⟨least, most⟩ => ⟨n, rfl, below.trans least, most.trans above⟩

end

/-- An instant is made of a distance, and the value of the instant. -/
private theorem within_gives {days : Int} (h : 1 ≤ days * 86400) (at_ : Int → Instant)
    (make : Instant → Value) :
    Gives (do return make (← (do return at_ (← betweenWide 1 (days * 86400) h) : Draw Instant)))
      (IsWithin days fun seconds => make (at_ seconds)) := by
  have drawn : Gives (do return at_ (← betweenWide 1 (days * 86400) h)) fun i =>
      ∃ seconds, i = at_ seconds ∧ 1 ≤ seconds ∧ seconds ≤ days * 86400 :=
    (betweenWide_gives h).made fun seconds bounds => ⟨seconds, rfl, bounds⟩
  exact drawn.made fun _ ⟨seconds, same, bounds⟩ => ⟨seconds, congrArg make same, bounds⟩

theorem ofTag_gives (now : Instant) (tag : Tag) : Gives (ofTag now tag) (tag.Admits now) := by
  cases tag with
  | number => exact int32_gives _ (by norm_num) (by norm_num)
  | integer =>
    refine (Gives.anything bits32).made fun n _ => ⟨n.toInt, rfl, n.le_toInt, ?_⟩
    exact Int.le_sub_one_of_lt n.toInt_lt
  | smallInteger => exact int32_gives _ (by norm_num) (by norm_num)
  | mediumInteger => exact int32_gives _ (by norm_num) (by norm_num)
  | bigInteger =>
    refine (Gives.anything bits64).made fun n _ => ⟨n.toInt, rfl, n.le_toInt, ?_⟩
    exact Int.le_sub_one_of_lt n.toInt_lt
  | tinyInteger => exact int32_gives _ (by norm_num) (by norm_num)
  | float | double | decimal => exact (Gives.anything _).made fun b _ => ⟨b, rfl⟩
  | boolean => exact (Gives.anything coin).made fun b _ => ⟨b, rfl⟩
  | uuid => exact (Gives.anything _).made fun bytes _ => ⟨_, rfl⟩
  | string => exact text_gives (phrase_gives 3)
  | char => exact text_gives (alphanumerics_gives 1)
  | varchar => exact text_gives (phrase_gives 5)
  | longText => exact text_gives paragraph_gives
  | alphanumeric => exact text_gives (alphanumerics_gives 10)
  | email => exact text_gives email_gives
  | url => exact text_gives webAddress_gives
  | username => exact text_gives username_gives
  | password => exact text_gives (alphanumerics_gives 15)
  | phone => exact text_gives phone_gives
  | address => exact text_gives address_gives
  | city | state | country | companySuffix | color | jobTitle | firstName | lastName | currency =>
    exact text_gives (pick_gives _ _)
  | zip => exact (digits_gives 5).made fun ds five => ⟨ds.print, rfl, five ▸ .print ds⟩
  | ipv4 => exact text_gives ipv4_gives
  | ipv6 => exact text_gives (hexGroups_gives 8 (by decide))
  | mac => exact text_gives (hexGroups_gives 6 (by decide))
  | company => exact text_gives company_gives
  | hexColor =>
    refine (Gives.anything (below (twoTo 24))).made fun n _ => ⟨_, rfl, _, ?_, rfl⟩
    exact .hexPadded (by decide) n.isLt
  | name => exact text_gives fullName_gives
  | pastDate =>
    exact within_gives _ (fun seconds => now.addSeconds (-seconds)) fun instant =>
      .date instant.date
  | futureDate =>
    exact within_gives _ (fun seconds => now.addSeconds seconds) fun instant =>
      .date instant.date
  | time =>
    exact within_gives _ (fun seconds => now.addSeconds (-seconds)) fun instant =>
      .time (wholeSeconds instant.time)
  | instant => exact within_gives _ (fun seconds => now.addSeconds (-seconds)) .instant
  | creditCard => exact ofTag_creditCard_gives now
  | iban => exact ofTag_iban_gives now
  | bic => exact bankCode_gives.made fun s code => ⟨s, rfl, code, code.consistsOf⟩

end Draw

/-- Whatever was drawn before and whatever words the source still holds, the value that is made up
for a word is in the domain of the kind that the word stands for, and the number that is drawn to
pick from a list is the index of a member of the list, of that which is picked. -/
theorem made_up_values_in_domain {word : String} {tag : Tag} (known : Tag.ofText? word = some tag)
    (now : Instant) (source : RandomSource) :
    tag.Admits now ((generator now word).run source).1 ∧
      ∀ (listed : List String) (something : 0 < listed.length),
        listed[((Draw.belowWide listed.length something).run source).1.val]? =
          some ((Draw.pick listed something).run source).1 := by
  rw [generator_eq known]
  exact ⟨Draw.ofTag_gives now tag source, fun listed something =>
    Draw.getElem?_pick listed something source⟩

/-- Groups of hexadecimal digits keep their zeros in front. -/
theorem groups_with_zeros :
    let address := "07b8:f381:0096:09a6:839f:c2f8:67bf:eef8"
    Tag.ofText? " IPv6" = some .ipv6 ∧
      ((generator ⟨0, 0⟩ " IPv6").run (.seeded 57)).1.text? = some address ∧
      IsHexGroups 8 4 address ∧
      Vocabulary.words[((Draw.belowWide 24).run (.seeded 57)).1.val]? =
        some ((Draw.pick Vocabulary.words).run (.seeded 57)).1 := by
  intro address
  have known : Tag.ofText? " IPv6" = some .ipv6 := by cbv
  have told : ((generator ⟨0, 0⟩ " IPv6").run (.seeded 57)).1.text? = some address := by
    decide +kernel
  obtain ⟨⟨text, made, groups⟩, picked⟩ := made_up_values_in_domain known ⟨0, 0⟩ (.seeded 57)
  rw [made] at told
  obtain rfl : text = address := Option.some.inj told
  exact ⟨known, by rw [made]; rfl, groups, picked Vocabulary.words (by decide)⟩

end SchemaSeed.Factory
