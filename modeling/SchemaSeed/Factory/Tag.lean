import SchemaSeed.Text.Blank
import SchemaSeed.Text.Case

/-!
The kinds of values that can be made up, and the words for them.
-/

set_option autoImplicit false
set_option relaxedAutoImplicit false

namespace SchemaSeed.Factory

open SchemaSeed.Text

/-- A kind of made-up values. -/
inductive Tag where
  | number | integer | smallInteger | mediumInteger | bigInteger | tinyInteger
  | float | double | decimal | boolean | uuid
  | string | char | varchar | longText | alphanumeric
  | email | url | username | password | phone
  | address | city | state | country | zip
  | ipv4 | ipv6 | mac
  | company | companySuffix | color | hexColor | jobTitle
  | name | firstName | lastName
  | pastDate | futureDate | time | instant
  | creditCard | currency | iban | bic
  deriving DecidableEq, Repr

namespace Tag

/-- The kind that a word stands for, in any case and with blanks around it. -/
def ofText? (s : String) : Option Tag :=
  match lowercase (trim s) with
  | "number" => some number
  | "int" => some integer
  | "integer" => some integer
  | "smallint" => some smallInteger
  | "mediumint" => some mediumInteger
  | "bigint" => some bigInteger
  | "tinyint" => some tinyInteger
  | "float" => some float
  | "double" => some double
  | "decimal" => some decimal
  | "boolean" => some boolean
  | "uuid" => some uuid
  | "string" => some string
  | "char" => some char
  | "varchar" => some varchar
  | "longtext" => some longText
  | "alphanumeric" => some alphanumeric
  | "email" => some email
  | "url" => some url
  | "username" => some username
  | "password" => some password
  | "phone" => some phone
  | "address" => some address
  | "city" => some city
  | "state" => some state
  | "country" => some country
  | "zip" => some zip
  | "ipv4" => some ipv4
  | "ipv6" => some ipv6
  | "mac" => some mac
  | "mac_address" => some mac
  | "company" => some company
  | "company_suffix" => some companySuffix
  | "color" => some color
  | "hexcolor" => some hexColor
  | "job_title" => some jobTitle
  | "name" => some name
  | "first_name" => some firstName
  | "last_name" => some lastName
  | "date" => some pastDate
  | "past" => some pastDate
  | "past_date" => some pastDate
  | "future" => some futureDate
  | "future_date" => some futureDate
  | "time" => some time
  | "datetime" => some instant
  | "credit_card" => some creditCard
  | "currency" => some currency
  | "iban" => some iban
  | "bic" => some bic
  | _ => none

/-- Whether values of the kind depend on the time at which they are made. -/
def readsClock : Tag → Bool
  | pastDate => true
  | futureDate => true
  | time => true
  | instant => true
  | _ => false

end Tag

end SchemaSeed.Factory
