/-
**The catalog of fields.**

A field called `city` should hold a city. The catalog lists named generators; a field is looked up
by its name in lower case and then by its normalized name, among the entries whose domain is
primitive, and the first entry wins. Before the catalog a mapper is asked, the caller's own or the
built-in one.

Generators that have to do with dates are pinned to a reference date.
-/

import Specimen.Environment
import Specimen.Value.Span

namespace Specimen

/-! ### Entries -/

/-- The kind of value that a generator makes. -/
inductive Domain where
  | string
  | number
  | boolean
  | date
  | list
  | bytes
  | mapping
  deriving DecidableEq

namespace Domain

/-- The name of a domain. -/
def name : Domain → String
  | .string => "string"
  | .number => "number"
  | .boolean => "boolean"
  | .date => "date"
  | .list => "list"
  | .bytes => "bytes"
  | .mapping => "mapping"

/-- Can a field hold a value of the domain? -/
def isPrimitive : Domain → Bool
  | .string | .number | .boolean | .date => true
  | _ => false

end Domain

/-- What the provider is asked for. -/
inductive Request where
  | plain (name : String)
  /-- A call that is pinned to the reference date. -/
  | pinned (name : String) (arguments : List Value)
  /-- A day in the life span before the reference date. -/
  | birthDate
  /-- A month in the years after the reference date. -/
  | cardExpiry

namespace Request

/-- The longest life span. -/
def lifeSpan : Int := 115 * 365 * microsPerDay

/-- How long a card is valid. -/
def cardSpan : Int := 10 * 365 * microsPerDay

/-- The month and year of a date, two digits each. -/
def monthAndYear (date : Day) : String :=
  padded 2 date.civil.month ++ "/" ++ padded 2 (date.civil.year % 100)

/-- Asks the provider. -/
def make (environment : Environment) (reference : Value) : Request → Run Value
  | .plain name => environment.ask name
  | .pinned name arguments =>
    environment.provider ⟨name, arguments, [("end_datetime", reference)]⟩
  | .birthDate => do
    let first ← Run.lift (reference.earlier lifeSpan)
    environment.provider ⟨"date_between_dates", [first, reference], []⟩
  | .cardExpiry => do
    let last ← Run.lift (reference.later cardSpan)
    match ← environment.provider ⟨"date_time_between_dates", [reference, last], []⟩ with
    | .moment expires => pure (.text (monthAndYear expires.day))
    | .day expires => pure (.text (monthAndYear expires))
    | _ => throw .missingPart

end Request

/-- A named generator. -/
structure CatalogEntry where
  category : String
  name : String
  domain : Domain
  request : Request

/-- The name by which an entry is found. -/
def CatalogEntry.key (entry : CatalogEntry) : String := normalizedKey entry.name

/-! ### The list -/

/-- The named generators. -/
def catalog : List CatalogEntry := [
  ⟨"person", "first_name", .string, .plain "first_name"⟩,
  ⟨"person", "last_name", .string, .plain "last_name"⟩,
  ⟨"person", "full_name", .string, .plain "name"⟩,
  ⟨"person", "prefix", .string, .plain "prefix"⟩,
  ⟨"person", "suffix", .string, .plain "suffix"⟩,
  ⟨"person", "job", .string, .plain "job"⟩,
  ⟨"person", "job_title", .string, .plain "job"⟩,
  ⟨"person", "user_name", .string, .plain "user_name"⟩,
  ⟨"person", "username", .string, .plain "user_name"⟩,
  ⟨"person", "date_of_birth", .date, .birthDate⟩,
  ⟨"person", "birthday", .date, .birthDate⟩,
  ⟨"internet", "safe_email", .string, .plain "safe_email"⟩,
  ⟨"internet", "free_email", .string, .plain "free_email"⟩,
  ⟨"internet", "company_email", .string, .plain "company_email"⟩,
  ⟨"internet", "domain_name", .string, .plain "domain_name"⟩,
  ⟨"internet", "domain_word", .string, .plain "domain_word"⟩,
  ⟨"internet", "hostname", .string, .plain "hostname"⟩,
  ⟨"internet", "ipv4", .string, .plain "ipv4"⟩,
  ⟨"internet", "ipv6", .string, .plain "ipv6"⟩,
  ⟨"internet", "ip_address", .string, .plain "ipv4"⟩,
  ⟨"internet", "mac_address", .string, .plain "mac_address"⟩,
  ⟨"internet", "uri", .string, .plain "uri"⟩,
  ⟨"internet", "slug", .string, .plain "slug"⟩,
  ⟨"internet", "user_agent", .string, .plain "user_agent"⟩,
  ⟨"internet", "password", .string, .plain "password"⟩,
  ⟨"internet", "image_url", .string, .plain "image_url"⟩,
  ⟨"internet", "avatar", .string, .plain "image_url"⟩,
  ⟨"location", "address", .string, .plain "address"⟩,
  ⟨"location", "street_address", .string, .plain "street_address"⟩,
  ⟨"location", "street_name", .string, .plain "street_name"⟩,
  ⟨"location", "building_number", .string, .plain "building_number"⟩,
  ⟨"location", "city", .string, .plain "city"⟩,
  ⟨"location", "state", .string, .plain "state"⟩,
  ⟨"location", "country", .string, .plain "country"⟩,
  ⟨"location", "country_code", .string, .plain "country_code"⟩,
  ⟨"location", "postcode", .string, .plain "postcode"⟩,
  ⟨"location", "zip_code", .string, .plain "postcode"⟩,
  ⟨"location", "zipcode", .string, .plain "postcode"⟩,
  ⟨"location", "latitude", .number, .plain "latitude"⟩,
  ⟨"location", "longitude", .number, .plain "longitude"⟩,
  ⟨"company", "company", .string, .plain "company"⟩,
  ⟨"company", "company_name", .string, .plain "company"⟩,
  ⟨"company", "company_suffix", .string, .plain "company_suffix"⟩,
  ⟨"company", "catch_phrase", .string, .plain "catch_phrase"⟩,
  ⟨"company", "bs", .string, .plain "bs"⟩,
  ⟨"phone", "msisdn", .string, .plain "msisdn"⟩,
  ⟨"lorem", "word", .string, .plain "word"⟩,
  ⟨"lorem", "sentence", .string, .plain "sentence"⟩,
  ⟨"lorem", "paragraph", .string, .plain "paragraph"⟩,
  ⟨"lorem", "text", .string, .plain "text"⟩,
  ⟨"lorem", "description", .string, .plain "paragraph"⟩,
  ⟨"lorem", "title", .string, .plain "sentence"⟩,
  ⟨"lorem", "words", .list, .plain "words"⟩,
  ⟨"date", "date_time", .date, .pinned "date_time" []⟩,
  ⟨"date", "time", .string, .pinned "time" []⟩,
  ⟨"date", "year", .string, .pinned "date" [.text "%Y"]⟩,
  ⟨"date", "month", .string, .pinned "date" [.text "%m"]⟩,
  ⟨"date", "month_name", .string, .pinned "date" [.text "%B"]⟩,
  ⟨"date", "day_of_week", .string, .pinned "date" [.text "%A"]⟩,
  ⟨"date", "timezone", .string, .plain "timezone"⟩,
  ⟨"date", "iso8601", .string, .pinned "iso8601" []⟩,
  ⟨"date", "unix_time", .number, .pinned "unix_time" []⟩,
  ⟨"date", "timestamp", .number, .pinned "unix_time" []⟩,
  ⟨"finance", "iban", .string, .plain "iban"⟩,
  ⟨"finance", "bban", .string, .plain "bban"⟩,
  ⟨"finance", "swift", .string, .plain "swift"⟩,
  ⟨"finance", "currency_code", .string, .plain "currency_code"⟩,
  ⟨"finance", "currency_name", .string, .plain "currency_name"⟩,
  ⟨"finance", "currency", .string, .plain "currency_code"⟩,
  ⟨"finance", "credit_card_number", .string, .plain "credit_card_number"⟩,
  ⟨"finance", "credit_card_provider", .string, .plain "credit_card_provider"⟩,
  ⟨"finance", "credit_card_expire", .string, .cardExpiry⟩,
  ⟨"finance", "price", .string, .plain "pricetag"⟩,
  ⟨"color", "color_name", .string, .plain "color_name"⟩,
  ⟨"color", "hex_color", .string, .plain "hex_color"⟩,
  ⟨"color", "rgb_color", .string, .plain "rgb_color"⟩,
  ⟨"color", "safe_color_name", .string, .plain "safe_color_name"⟩,
  ⟨"file", "file_name", .string, .plain "file_name"⟩,
  ⟨"file", "file_extension", .string, .plain "file_extension"⟩,
  ⟨"file", "file_path", .string, .plain "file_path"⟩,
  ⟨"file", "mime_type", .string, .plain "mime_type"⟩,
  ⟨"misc", "uuid4", .string, .plain "uuid4"⟩,
  ⟨"misc", "md5", .string, .plain "md5"⟩,
  ⟨"misc", "sha1", .string, .plain "sha1"⟩,
  ⟨"misc", "sha256", .string, .plain "sha256"⟩,
  ⟨"misc", "locale", .string, .plain "locale"⟩,
  ⟨"misc", "language_code", .string, .plain "language_code"⟩,
  ⟨"misc", "language_name", .string, .plain "language_name"⟩,
  ⟨"misc", "binary", .bytes, .plain "binary"⟩,
  ⟨"misc", "profile", .mapping, .plain "profile"⟩]

namespace Catalog

/-! ### Looking up -/

/-- The index with one more entry; not if the domain of the entry is not primitive, or if the index
has its key already. -/
def addEntry (index : List (String × CatalogEntry)) (entry : CatalogEntry) :
    List (String × CatalogEntry) :=
  if !entry.domain.isPrimitive || (index.lookup entry.key).isSome then index
  else index ++ [(entry.key, entry)]

/-- The entries of primitive domains by their keys, the first one for each key. -/
def index (entries : List CatalogEntry) : List (String × CatalogEntry) := entries.foldl addEntry []

/-- The named generators by their keys; it is built once. -/
@[irreducible] def catalogIndex : List (String × CatalogEntry) := index catalog

/-- The entry for a field: by its name in lower case, or else by its normalized name. -/
def select? (index : List (String × CatalogEntry)) (name : String) : Option CatalogEntry :=
  (index.lookup (lowerCase name)).or (index.lookup (normalizedKey name))

/-- What the built-in mapper asks for, by the name of a field in lower case. -/
def mapped? : String → Option ProviderCall
  | "image" => some ⟨"image_url", [], []⟩
  | "imageurl" => some ⟨"image_url", [], []⟩
  | "number" => some ⟨"pyint", [], []⟩
  | "float" => some ⟨"pyfloat", [], []⟩
  | "hexadecimal" => some ⟨"hexify", [.text "0x^^^^^^^^"], []⟩
  | "uuid" => some ⟨"uuid4", [], []⟩
  | "boolean" => some ⟨"pybool", [], []⟩
  | "city" => some ⟨"city", [], []⟩
  | _ => none

/-- The text of a name, which has to be one. -/
def nameText : Value → Except Fault String
  | .text name => .ok name
  | _ => .error .missingPart

/-- What the built-in mapper makes for a field. -/
def builtinMapper (environment : Environment) (name : Value) : Run Reply := do
  if !name.isTruthy then pure (.value .null)
  else
    match mapped? (lowerCase (← Run.lift (nameText name))) with
    | some call => pure (.generator (environment.provider call))
    | none => pure (.value .null)

/-- What a mapper makes for a field. -/
def askMapper (environment : Environment) (mapper : Option Hook) (name : Value) : Run Reply :=
  match mapper with
  | some hook => environment.invoke hook (.onKey name)
  | none => builtinMapper environment name

/-- The generator for a field: what the mapper makes, or else an entry of the catalog, pinned to the
reference date or to today. Null if there is none. -/
def generator (environment : Environment) (mapper : Option Hook) (reference name : Value) :
    Run Reply := do
  let mapped ← askMapper environment mapper name
  if mapped.isTruthy then pure mapped
  else
    match select? catalogIndex (← Run.lift (nameText name)) with
    | none => pure (.value .null)
    | some entry =>
      let date := if reference.isTruthy then reference else .moment environment.today
      pure (.generator (entry.request.make environment date))

end Catalog

end Specimen
