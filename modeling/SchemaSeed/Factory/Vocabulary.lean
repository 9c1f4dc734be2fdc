/-!
The lists that made-up texts are put together from.
-/

set_option autoImplicit false
set_option relaxedAutoImplicit false

namespace SchemaSeed.Factory.Vocabulary

/-- First names. -/
def firstNames : List String :=
  ["Amara", "Bruno", "Celia", "Dmitri", "Elena", "Felix", "Greta", "Hugo", "Ines", "Jonas",
    "Kira", "Lorenzo", "Maya", "Nils", "Orla", "Pavel", "Rosa", "Stefan", "Tara", "Viktor"]

/-- Last names. -/
def lastNames : List String :=
  ["Almeida", "Becker", "Castillo", "Dubois", "Eriksen", "Fontaine", "Gallo", "Hartmann", "Ibarra",
    "Jansen", "Kowalski", "Lindqvist", "Moreau", "Novak", "Okafor", "Petrov", "Quintero", "Rossi"]

/-- Words in lower case. -/
def words : List String :=
  ["amber", "beacon", "canyon", "delta", "ember", "fable", "glacier", "harbor", "island", "juniper",
    "kernel", "lantern", "meadow", "nectar", "orbit", "prism", "quartz", "ripple", "summit",
    "tundra", "umbra", "vertex", "willow", "zephyr"]

/-- Names of streets. -/
def streets : List String :=
  ["Station Road", "Church Lane", "Mill Street", "Harbour View", "Orchard Close", "Bridge Street",
    "Kingsway", "Linden Avenue", "Quarry Hill", "Elm Terrace"]

/-- Names of cities. -/
def cities : List String :=
  ["Lakeside", "Northbrook", "Ashford", "Clearwater", "Millbrook", "Oakridge", "Westhaven",
    "Brookfield", "Stonebridge", "Fairport"]

/-- Names of states. -/
def states : List String :=
  ["Alabama", "Colorado", "Delaware", "Idaho", "Kansas", "Maine", "Nevada", "Oregon", "Utah",
    "Vermont"]

/-- Names of countries. -/
def countries : List String :=
  ["Argentina", "Belgium", "Chile", "Denmark", "Estonia", "Finland", "Ghana", "Hungary", "Iceland",
    "Japan", "Kenya", "Norway", "Portugal", "Uruguay"]

/-- First parts of company names. -/
def companyStems : List String :=
  ["Northwind", "Bluefield", "Ironbark", "Silverline", "Redstone", "Brightwave", "Cobalt",
    "Greenleaf"]

/-- Last parts of company names. -/
def companySuffixes : List String :=
  ["Inc", "LLC", "Group", "Ltd", "Holdings", "and Sons", "Partners"]

/-- Names of colours. -/
def colors : List String :=
  ["red", "orange", "yellow", "green", "teal", "blue", "indigo", "violet", "magenta", "olive",
    "maroon", "silver", "salmon", "turquoise"]

/-- Job titles. -/
def jobTitles : List String :=
  ["Account Manager", "Backend Engineer", "Data Analyst", "Operations Lead", "Product Designer",
    "Quality Specialist", "Regional Director", "Support Technician", "Marketing Coordinator"]

/-- Codes of currencies. -/
def currencies : List String :=
  ["USD", "EUR", "GBP", "JPY", "CHF", "CAD", "AUD", "SEK", "NOK", "PLN"]

/-- Domains of mail addresses. -/
def domains : List String :=
  ["example.com", "example.org", "example.net", "mail.test", "inbox.dev"]

/-- Countries of bank codes. -/
def bankCountries : List String := ["DE", "FR", "NL", "GB", "ES", "IT"]

end SchemaSeed.Factory.Vocabulary
