import SearchQuery.Sql.Compiler

/-!
# Which schemas are accepted

The names of a schema stand in the SQL as they are, so all of them have to be plain: no quote, no
space and no line break may get through, and no letter outside ASCII. `Schema.IsUsable` says what a
schema must be, and `Schema.HasFault` which of its faults is reported. A schema is checked where it
is validated, where a compiler is made of it or of a configuration, and where a configuration is
read; all of them accept exactly the usable schemas and report the same fault
(`schema_checks_are_exact`).
-/

namespace SearchQuery

namespace Sql

/-! ## Plain names -/

/-- The letters of ASCII. -/
def IsAsciiLetter (c : Char) : Prop :=
  ('A' ≤ c ∧ c ≤ 'Z') ∨ ('a' ≤ c ∧ c ≤ 'z')

/-- The digits of ASCII. -/
def IsAsciiDigit (c : Char) : Prop :=
  '0' ≤ c ∧ c ≤ '9'

/-- A name that can stand in SQL as it is. -/
structure IsPlainName (name : String) : Prop where
  ne_empty : name ≠ ""
  characters : ∀ c ∈ name.toList, IsAsciiLetter c ∨ IsAsciiDigit c ∨ c = '_'
  head : ∀ c ∈ name.toList.head?, ¬ IsAsciiDigit c

section Names

variable {c : Char} {name : String}

theorem isUpper_iff : c.isUpper = true ↔ 'A' ≤ c ∧ c ≤ 'Z' :=
  decide_eq_true_iff

theorem isLower_iff : c.isLower = true ↔ 'a' ≤ c ∧ c ≤ 'z' :=
  Bool.and_eq_true_iff.trans (and_congr decide_eq_true_iff decide_eq_true_iff)

theorem isAlpha_iff : c.isAlpha = true ↔ IsAsciiLetter c :=
  Bool.or_eq_true_iff.trans (or_congr isUpper_iff isLower_iff)

theorem isDigit_iff : c.isDigit = true ↔ IsAsciiDigit c :=
  Bool.and_eq_true_iff.trans (and_congr decide_eq_true_iff decide_eq_true_iff)

theorem IsAsciiLetter.not_isAsciiDigit (letter : IsAsciiLetter c) : ¬ IsAsciiDigit c := by
  intro digit
  rcases letter with ⟨lower, -⟩ | ⟨lower, -⟩
  · exact absurd (Char.le_trans lower digit.2) (by decide)
  · exact absurd (Char.le_trans lower digit.2) (by decide)

theorem isIdentifierStart_iff : isIdentifierStart c = true ↔ IsAsciiLetter c ∨ c = '_' := by
  rw [isIdentifierStart, Bool.or_eq_true, isAlpha_iff, beq_iff_eq]

theorem isIdentifierChar_iff :
    isIdentifierChar c = true ↔ IsAsciiLetter c ∨ IsAsciiDigit c ∨ c = '_' := by
  rw [isIdentifierChar, Char.isAlphanum, Bool.or_eq_true, Bool.or_eq_true, isAlpha_iff, isDigit_iff,
    beq_iff_eq, or_assoc]

theorem isIdentifier_iff_isPlainName : isIdentifier name = true ↔ IsPlainName name := by
  constructor
  · intro identifier
    obtain ⟨first, rest, whole, start, -⟩ := isIdentifier_iff.mp identifier
    refine ⟨?_, fun c mem => ?_, ?_⟩
    · rintro rfl
      contradiction
    · exact isIdentifierChar_iff.mp (isIdentifierChar_of_mem identifier mem)
    · rw [whole]
      rintro c ⟨⟩
      rcases isIdentifierStart_iff.mp start with letter | rfl
      · exact letter.not_isAsciiDigit
      · exact fun digit => absurd digit.2 (by decide)
  · rintro ⟨nonempty, characters, head⟩
    rw [isIdentifier_iff]
    cases whole : name.toList with
    | nil => exact absurd (String.toList_eq_nil_iff.mp whole) nonempty
    | cons first rest =>
        rw [whole, List.forall_mem_cons] at characters
        rw [whole] at head
        refine ⟨first, rest, rfl, ?_, ?_⟩
        · rw [isIdentifierStart_iff]
          exact characters.1.imp_right fun digit => digit.resolve_left (head first rfl)
        · rw [List.all_eq_true]
          exact fun c mem => isIdentifierChar_iff.mpr (characters.2 c mem)

end Names

/-! ## Faults -/

namespace Schema

/-- A schema fit for generating SQL: plain names, and a column each for name and content. -/
structure IsUsable (schema : Schema) : Prop where
  plain : ∀ setting, IsPlainName (schema.name setting)
  apart : schema.name .ftsNameColumn ≠ schema.name .ftsContentColumn

/-- The fault of a schema: the first setting whose name is not plain or, if all names are plain,
the one column for name and content. -/
inductive HasFault (schema : Schema) : SchemaError → Prop
  | invalidIdentifier {before after : List Setting} {setting : Setting}
      (order : Setting.all = before ++ setting :: after)
      (earlier : ∀ other ∈ before, IsPlainName (schema.name other))
      (notPlain : ¬ IsPlainName (schema.name setting)) :
      HasFault schema (.invalidIdentifier setting (schema.name setting))
  | sameTextColumns (plain : ∀ setting, IsPlainName (schema.name setting))
      (same : schema.name .ftsNameColumn = schema.name .ftsContentColumn) :
      HasFault schema .sameTextColumns

variable {schema : Schema}

theorem find?_eq_none_iff :
    (Setting.all.find? fun setting => !isIdentifier (schema.name setting)) = none ↔
      ∀ setting, IsPlainName (schema.name setting) := by
  simp only [List.find?_eq_none, Bool.not_eq_true', Bool.not_eq_false,
    isIdentifier_iff_isPlainName, Setting.mem_all, true_imp_iff]

theorem find?_eq_some_iff {setting : Setting} :
    (Setting.all.find? fun setting => !isIdentifier (schema.name setting)) = some setting ↔
      ¬ IsPlainName (schema.name setting) ∧
        ∃ before after, Setting.all = before ++ setting :: after ∧
          ∀ other ∈ before, IsPlainName (schema.name other) := by
  simp only [List.find?_eq_some_iff_append, Bool.not_not, Bool.not_eq_true',
    ← Bool.not_eq_true, isIdentifier_iff_isPlainName]

theorem validate_eq_ok_iff : schema.validate = .ok () ↔ schema.IsUsable := by
  constructor
  · intro valid
    refine ⟨fun setting => isIdentifier_iff_isPlainName.mp (isIdentifier_name valid setting), ?_⟩
    intro same
    unfold validate at valid
    rw [if_pos same] at valid
    split at valid <;> contradiction
  · rintro ⟨plain, apart⟩
    rw [validate, find?_eq_none_iff.mpr plain]
    exact if_neg apart

theorem validate_eq_error_iff {fault : SchemaError} :
    schema.validate = .error fault ↔ schema.HasFault fault := by
  constructor
  · intro invalid
    unfold validate at invalid
    split at invalid
    · next setting found =>
        obtain ⟨notPlain, before, after, order, earlier⟩ := find?_eq_some_iff.mp found
        cases invalid
        exact .invalidIdentifier order earlier notPlain
    · next allPlain =>
        split at invalid
        · next same =>
            cases invalid
            exact .sameTextColumns (find?_eq_none_iff.mp allPlain) same
        · contradiction
  · intro faulty
    cases faulty with
    | invalidIdentifier order earlier notPlain =>
        rw [validate, find?_eq_some_iff.mpr ⟨notPlain, _, _, order, earlier⟩]
    | sameTextColumns plain same =>
        rw [validate, find?_eq_none_iff.mpr plain]
        exact if_pos same

/-! ## Checks -/

/-- A check of a schema accepts it if it is usable and gives what it should, and else reports the
fault of the schema. -/
structure Checks {ε α : Type} (schema : Schema) (gives : α → Prop) (reports : SchemaError → ε)
    (result : Except ε α) : Prop where
  ok_iff (accepted : α) : result = .ok accepted ↔ schema.IsUsable ∧ gives accepted
  error_iff (error : ε) :
    result = .error error ↔ ∃ fault, schema.HasFault fault ∧ reports fault = error

/-- A check that follows the validation is exact because the validation is. -/
theorem checks_of_validate {ε α : Type} {gives : α → Prop} {reports : SchemaError → ε}
    {result : Except ε α}
    (accepts : schema.validate = .ok () →
      ∃ accepted, result = .ok accepted ∧ ∀ other, gives other ↔ accepted = other)
    (rejects : ∀ fault, schema.validate = .error fault → result = .error (reports fault)) :
    schema.Checks gives reports result := by
  cases checked : schema.validate with
  | ok =>
      obtain ⟨accepted, isOk, unique⟩ := accepts checked
      constructor
      · intro other
        rw [isOk, Except.ok.injEq, ← validate_eq_ok_iff, unique]
        exact (and_iff_right checked).symm
      · intro error
        simp only [isOk, reduceCtorEq, ← validate_eq_error_iff, checked, false_and, exists_false]
  | error fault =>
      have isError := rejects fault checked
      constructor
      · intro accepted
        simp only [isError, reduceCtorEq, ← validate_eq_ok_iff, checked, false_and]
      · intro error
        simp only [isError, Except.error.injEq, ← validate_eq_error_iff, checked, exists_eq_left']

end Schema

namespace Compiler

variable {schema : Schema}

/-- A compiler is determined by its schema. -/
theorem schema_inj {compiler other : Compiler} :
    compiler.schema = other.schema ↔ compiler = other := by
  cases compiler
  cases other
  simp

theorem ofSchema?_of_ok (valid : schema.validate = .ok ()) :
    ofSchema? schema = .ok ⟨schema, valid⟩ := by
  unfold ofSchema?
  split
  · rfl
  · next invalid =>
      rw [valid] at invalid
      contradiction

theorem ofSchema?_of_error {fault : SchemaError} (invalid : schema.validate = .error fault) :
    ofSchema? schema = .error fault := by
  unfold ofSchema?
  split
  · next valid =>
      rw [valid] at invalid
      contradiction
  · next other =>
      rw [invalid] at other
      cases other
      rfl

theorem checks_ofSchema? (schema : Schema) :
    schema.Checks (fun compiler : Compiler => compiler.schema = schema) id (ofSchema? schema) := by
  apply Schema.checks_of_validate
  · intro valid
    refine ⟨⟨schema, valid⟩, ofSchema?_of_ok valid, fun other => ?_⟩
    rw [← schema_inj, eq_comm]
  · exact fun fault => ofSchema?_of_error

end Compiler

/-! ## Names in configurations -/

/-- The value that a configuration file has for a setting, by key or by position. -/
def configuredValue? (members : Toml.Members) (setting : Setting) : Option Toml.Value :=
  match members.get? "sql" with
  | some (.table _ names) => Toml.Members.get? names setting.key
  | some (.array names) => names[setting.position]?
  | _ => none

namespace Schema

/-- Every name is the string among the values, or the standard name where there is no value. -/
def TakesNames (schema : Schema) (value? : Setting → Option Toml.Value) : Prop :=
  ∀ setting, value? setting = some (.string (schema.name setting)) ∨
    value? setting = none ∧ schema.name setting = setting.standardName

theorem name_ofConfigured (configured : Setting → Option String) (setting : Setting) :
    (ofConfigured configured).name setting = (configured setting).getD setting.standardName :=
  rfl

theorem nameOfToml?_eq_some_iff {value : Toml.Value} {name : String} :
    nameOfToml? value = some name ↔ value = .string name := by
  cases value <;> simp [nameOfToml?]

theorem takesNames_of_ofValues? {value? : Setting → Option Toml.Value} {schema : Schema}
    (found : ofValues? nameOfToml? value? = some schema) : schema.TakesNames value? := by
  rw [ofValues?, Option.ite_none_right_eq_some, Option.some_inj] at found
  obtain ⟨allNames, rfl⟩ := found
  intro setting
  have isName := List.all_eq_true.mp allNames setting setting.mem_all
  have taken := name_ofConfigured (fun setting => (value? setting).bind nameOfToml?) setting
  cases configured : value? setting with
  | none =>
      rw [configured] at taken
      exact .inr ⟨rfl, taken⟩
  | some value =>
      rw [configured, Option.all_some, Option.isSome_iff_exists] at isName
      obtain ⟨name, isName⟩ := isName
      rw [configured, Option.bind_some, isName, Option.getD_some] at taken
      left
      rw [taken, nameOfToml?_eq_some_iff.mp isName]

end Schema

end Sql

namespace Config

open Sql

theorem takesNames_of_ofToml? {text : String} {config : Config}
    (decoded : ofToml? text = some config) :
    ∃ members, Toml.read? text = some members ∧
      config.schema.TakesNames (configuredValue? members) := by
  unfold ofToml? at decoded
  split at decoded
  · contradiction
  · next members isRead =>
      refine ⟨members, isRead, ?_⟩
      split at decoded
      · next absent =>
          obtain rfl := Option.some_inj.mp decoded
          intro setting
          right
          rw [configuredValue?, absent]
          exact ⟨rfl, rfl⟩
      · next value present =>
          obtain ⟨schema, isSchema, rfl⟩ := Option.map_eq_some_iff.mp decoded
          unfold configuredValue?
          rw [present]
          cases value with
          | table origin names => exact Schema.takesNames_of_ofValues? isSchema
          | array names => exact Schema.takesNames_of_ofValues? isSchema
          | dateTime =>
              obtain rfl := Option.some_inj.mp isSchema
              exact fun setting => .inr ⟨rfl, rfl⟩
          | string | integer | float | boolean | tables => contradiction

theorem checks_ofToml {text : String} {config : Config} (decoded : ofToml? text = some config) :
    config.schema.Checks (· = config) ConfigError.schema (ofToml text) := by
  apply Schema.checks_of_validate
  · intro valid
    refine ⟨config, ?_, fun other => eq_comm⟩
    rw [ofToml, decoded]
    dsimp only
    rw [valid]
  · intro fault invalid
    rw [ofToml, decoded]
    dsimp only
    rw [invalid]

end Config

/-! ## All checks -/

namespace Sql.Schema

/-- Every check accepts a schema exactly if the schema is usable, and keeps it as it is; else it
reports the first name that is not plain or, if all names are, the one column for name and content.
A configuration has the names that its text gives, and standard names elsewhere. No compiler gets
by the checks, so every name that one writes is plain. -/
theorem checks_are_exact (schema : Schema) :
    schema.Checks (fun _ => True) id schema.validate ∧
    schema.Checks (fun compiler : Compiler => compiler.schema = schema) id
      (Compiler.ofSchema? schema) ∧
    schema.Checks (fun compiler : Compiler => compiler.schema = schema) id
      (Compiler.ofConfig? ⟨schema⟩) ∧
    (∀ text, Config.ofToml? text = some ⟨schema⟩ →
      schema.Checks (fun config : Config => config = ⟨schema⟩) ConfigError.schema
        (Config.ofToml text) ∧
      ∃ members, Toml.read? text = some members ∧
        schema.TakesNames (configuredValue? members)) ∧
    ∀ compiler : Compiler, compiler.schema.IsUsable := by
  refine ⟨?_, Compiler.checks_ofSchema? schema, Compiler.checks_ofSchema? schema, ?_, ?_⟩
  · apply checks_of_validate
    · exact fun valid => ⟨(), valid, fun _ => iff_of_true trivial rfl⟩
    · exact fun fault invalid => invalid
  · exact fun text decoded => ⟨Config.checks_ofToml decoded, Config.takesNames_of_ofToml? decoded⟩
  · exact fun compiler => validate_eq_ok_iff.mp compiler.valid

/-- A line break behind a name is found, and reported before a later setting although that setting
is given first; names that are not given are standard. -/
theorem checks_are_exact_on_line_break :
    let text := "[sql]\ntag_id_column = \"clé\"\ntags_table = \"tags\\n\"\n"
    ∃ schema, Config.ofToml? text = some ⟨schema⟩ ∧
      schema.HasFault (.invalidIdentifier .tagsTable "tags\n") ∧
      schema.name .documentsTable = "documents" ∧
      Config.ofToml text = .error (.schema (.invalidIdentifier .tagsTable "tags\n")) := by
  intro text
  have names : (Config.ofToml? text).map (fun config =>
      (Setting.all.find? (fun setting => !isIdentifier (config.schema.name setting)),
        config.schema.name .tagsTable, config.schema.name .documentsTable)) =
      some (some .tagsTable, "tags\n", "documents") := by
    decide +kernel
  obtain ⟨⟨schema⟩, decoded, same⟩ := Option.map_eq_some_iff.mp names
  simp only [Prod.mk.injEq] at same
  obtain ⟨found, tagsTable, documentsTable⟩ := same
  obtain ⟨notPlain, _, _, order, earlier⟩ := find?_eq_some_iff.mp found
  have fault : schema.HasFault (.invalidIdentifier .tagsTable "tags\n") :=
    tagsTable ▸ .invalidIdentifier order earlier notPlain
  obtain ⟨-, -, -, ofText, -⟩ := checks_are_exact schema
  obtain ⟨ofToml, -⟩ := ofText text decoded
  exact ⟨schema, decoded, fault, documentsTable, (ofToml.error_iff _).mpr ⟨_, fault, rfl⟩⟩

end Sql.Schema

end SearchQuery
