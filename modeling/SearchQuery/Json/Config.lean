import SearchQuery.Config
import SearchQuery.Json.Value

/-!
# Configurations as JSON

A schema is a record of names under the keys of its settings, and a configuration
is a record of a schema. What is left out is standard. Names are not checked here.
-/

namespace SearchQuery

open Sql

/-- The schema with the given JSON form. -/
def Sql.Schema.ofJson? (json : Json) : Option Schema :=
  (json.fields? (Setting.all.map Setting.key)).bind fun values =>
    ofValues? Json.text? fun setting => (values[setting.position]?).join

/-- The JSON form of a schema. -/
def Sql.Schema.toJson (schema : Schema) : Json :=
  .object (Setting.all.map fun setting => (setting.key, .string (schema.name setting)))

/-- The configuration with the given JSON form. -/
def Config.ofJson? (json : Json) : Option Config :=
  match json.fields? ["sql"] with
  | some [none] => some .standard
  | some [some schema] => (Schema.ofJson? schema).map Config.mk
  | _ => none

/-- The JSON form of a configuration. -/
def Config.toJson (config : Config) : Json :=
  .object [("sql", config.schema.toJson)]

end SearchQuery
