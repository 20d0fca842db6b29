import SearchQuery.Sql.Schema
import SearchQuery.Toml.Document

/-!
# Configuration

A configuration file is TOML with one table, `sql`, whose keys are the settings of
a schema. Settings without a key keep their standard names, and other keys are
ignored. The schema has to be fit for use, so a configuration that is read without
an error always gives a compiler.
-/

namespace SearchQuery

open Sql

/-- Why a configuration cannot be used. -/
inductive ConfigError where
  /-- The file is missing or is no text. -/
  | unreadable
  /-- The text is not TOML of the expected shape. -/
  | malformed
  /-- The schema cannot be used. -/
  | schema (error : SchemaError)
deriving DecidableEq, Repr

/-- A configuration. -/
structure Config where
  schema : Schema

namespace Sql.Schema

/-- The name that a configured value is. -/
def nameOfToml? : Toml.Value → Option String
  | .string text => some text
  | _ => none

/-- The schema that a value describes: a table of names by key, or an array of names
by position. A date has no keys of its own to offer, so it leaves every name
standard. -/
def ofToml? : Toml.Value → Option Schema
  | .table _ members => ofValues? nameOfToml? fun setting => Toml.Members.get? members setting.key
  | .array elements => ofValues? nameOfToml? fun setting => elements[setting.position]?
  | .dateTime => some .standard
  | _ => none

end Sql.Schema

namespace Config

/-- The configuration with the standard schema. -/
def standard : Config :=
  ⟨.standard⟩

/-- Read a configuration without checking its names. -/
def ofToml? (text : String) : Option Config :=
  match Toml.read? text with
  | none => none
  | some members =>
      match members.get? "sql" with
      | none => some standard
      | some value => (Schema.ofToml? value).map Config.mk

/-- Read a configuration and check its names. -/
def ofToml (text : String) : Except ConfigError Config :=
  match ofToml? text with
  | none => .error .malformed
  | some config =>
      match config.schema.validate with
      | .ok () => .ok config
      | .error error => .error (.schema error)

/-- Read the configuration in a file of which the bytes are known, if it exists. -/
def ofFile (bytes : Option ByteArray) : Except ConfigError Config :=
  match bytes.bind String.fromUTF8? with
  | none => .error .unreadable
  | some text => ofToml text

end Config

end SearchQuery
