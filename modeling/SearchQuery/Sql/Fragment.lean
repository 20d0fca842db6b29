/-!
# Fragments of SQL

A fragment is a piece of SQL text together with the parameters of its
placeholders, from left to right. Values enter only as parameters: `Fragment.bind`
is the one way to write a placeholder, and it adds the parameter with it.
Concatenation joins texts and parameters alike, so the two stay aligned.
-/

namespace SearchQuery.Sql

/-- A value bound to a placeholder. -/
inductive Param where
  | text (value : String)
  | integer (value : Int)
deriving DecidableEq, Repr

/-- A piece of SQL and the parameters of its placeholders in order. -/
structure Fragment where
  sql : String
  params : List Param
deriving DecidableEq, Repr

namespace Fragment

/-- Text without placeholders. -/
def text (sql : String) : Fragment :=
  ⟨sql, []⟩

instance : Coe String Fragment :=
  ⟨text⟩

/-- One placeholder and its parameter. -/
def bind (param : Param) : Fragment :=
  ⟨"?", [param]⟩

/-- Fragments one after another. -/
def concat (parts : List Fragment) : Fragment :=
  ⟨String.join (parts.map (·.sql)), parts.flatMap (·.params)⟩

/-- Fragments one after another with the same text between neighbours. -/
def separated (separator : String) (parts : List Fragment) : Fragment :=
  ⟨separator.intercalate (parts.map (·.sql)), parts.flatMap (·.params)⟩

@[simp]
theorem sql_text (sql : String) : (text sql).sql = sql :=
  rfl

@[simp]
theorem params_text (sql : String) : (text sql).params = [] :=
  rfl

@[simp]
theorem sql_bind (param : Param) : (bind param).sql = "?" :=
  rfl

@[simp]
theorem params_bind (param : Param) : (bind param).params = [param] :=
  rfl

@[simp]
theorem toList_sql_concat (parts : List Fragment) :
    (concat parts).sql.toList = parts.flatMap (·.sql.toList) := by
  simp [concat, List.flatMap_map]

@[simp]
theorem params_concat (parts : List Fragment) :
    (concat parts).params = parts.flatMap (·.params) :=
  rfl

@[simp]
theorem toList_sql_separated (separator : String) (parts : List Fragment) :
    (separated separator parts).sql.toList =
      separator.toList.intercalate (parts.map (·.sql.toList)) := by
  simp [separated, Function.comp_def]

@[simp]
theorem params_separated (separator : String) (parts : List Fragment) :
    (separated separator parts).params = parts.flatMap (·.params) :=
  rfl

end Fragment

end SearchQuery.Sql
