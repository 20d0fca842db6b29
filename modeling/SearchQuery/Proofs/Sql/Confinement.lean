import SearchQuery.Proofs.Sql.Isolation

/-!
# User text stays out of the SQL

What a user writes reaches the SQL in two ways only. It is bound to a placeholder, which
looks the same whatever the value is; or it decides which template a leaf is written
with: the one of a rejected clause, of a term that cannot be searched for, of a tag that
is asked for by its identifier. `Expression.SameShape` relates expressions that agree on
all these decisions, and such expressions are compiled to the same text, within any two
scopes that can both be searched for or both not.

The text itself is put together from constants and from the names of a valid schema, so
it has none of the characters that quote, comment or separate statements.
-/

namespace SearchQuery

/-- Whether a value holds a term that can be searched for. -/
def isSearchable (value : String) : Bool :=
  (searchTerm? value).isSome

namespace Expression

/-- Two filters on one field for which the same template is chosen. -/
structure AlikeFilters (field : Field) (first : Operator) (value : String) (second : Operator)
    (other : String) : Prop where
  /-- The symbol of a comparison of dates stands in the text. -/
  operators : field = .created → first = second
  /-- Both filters are accepted, or both are rejected. -/
  accepted : (Criterion.ofFilter field first value).isOk =
    (Criterion.ofFilter field second other).isOk
  /-- Both values hold a term to search for, or neither does. -/
  searchable : field = .name ∨ field = .content → isSearchable value = isSearchable other
  /-- Both values spell an identifier, or neither does. -/
  identifiers : field = .tag → (tagIdentifier? value).isSome = (tagIdentifier? other).isSome

/-- Expressions that differ in the values of their leaves only, and there in nothing that
decides about a template. -/
inductive SameShape : Expression → Expression → Prop
  | empty : SameShape .empty .empty
  | text {value other : String} (searchable : isSearchable value = isSearchable other) :
      SameShape (.text value) (.text other)
  | filter {field : Field} {first second : Operator} {value other : String}
      (alike : AlikeFilters field first value second other) :
      SameShape (.filter field first value) (.filter field second other)
  | and {firsts seconds : List Expression} (operands : List.Forall₂ SameShape firsts seconds) :
      SameShape (.and firsts) (.and seconds)
  | or {firsts seconds : List Expression} (operands : List.Forall₂ SameShape firsts seconds) :
      SameShape (.or firsts) (.or seconds)
  | not {first second : Expression} (operand : SameShape first second) :
      SameShape (.not first) (.not second)

end Expression

/-! ## Criteria of alike filters -/

namespace Criterion

/-- Criteria that are written with the same template. -/
inductive Alike : Criterion → Criterion → Prop
  | contains (place : TextPlace) {value other : String}
      (searchable : isSearchable value = isSearchable other) :
      Alike (.contains place value) (.contains place other)
  | tagged (name other : String) {id otherId : Option Uuid}
      (identified : id.isSome = otherId.isSome) : Alike (.tagged name id) (.tagged other otherId)
  | hasTags : Alike .hasTags .hasTags
  | createdOn (day other : Calendar.Day) : Alike (.createdOn day) (.createdOn other)
  | created (comparison : Comparison) (instant other : Calendar.Instant) :
      Alike (.created comparison instant) (.created comparison other)

theorem alike_ofInstant (instant other : Calendar.Instant) (operator : Operator) :
    Alike (ofInstant instant operator) (ofInstant other operator) := by
  cases operator with
  | equal => exact .createdOn _ _
  | ordering comparison => exact .created comparison instant other

/-- Accepted filters have alike criteria if the filters are alike. -/
theorem alike_of_alikeFilters {field : Field} {first second : Operator} {value other : String}
    (alike : Expression.AlikeFilters field first value second other)
    {criterion otherCriterion : Criterion} (valid : ofFilter field first value = .ok criterion)
    (otherValid : ofFilter field second other = .ok otherCriterion) :
    Alike criterion otherCriterion := by
  unfold ofFilter at valid otherValid
  split at valid
  · contradiction
  split at otherValid
  · contradiction
  cases field with
  | tag =>
      cases valid
      cases otherValid
      exact .tagged _ _ (alike.identifiers rfl)
  | name =>
      cases valid
      cases otherValid
      exact .contains .name (alike.searchable (.inl rfl))
  | content =>
      cases valid
      cases otherValid
      exact .contains .content (alike.searchable (.inr rfl))
  | created =>
      obtain rfl := alike.operators rfl
      cases read : Calendar.instantOfValue? value with
      | none => simp [read] at valid
      | some instant =>
          cases otherRead : Calendar.instantOfValue? other with
          | none => simp [otherRead] at otherValid
          | some otherInstant =>
              simp only [read, otherRead, Except.ok.injEq] at valid otherValid
              subst valid otherValid
              exact alike_ofInstant instant otherInstant first
  | has =>
      dsimp only at valid otherValid
      split_ifs at valid otherValid
      cases valid
      cases otherValid
      exact .hasTags

end Criterion

namespace Sql

open Operands

/-! ## The text of a condition -/

namespace Condition

variable (schema : Schema) (scope : String)

@[simp]
theorem sql_always : (Condition.always.fragment schema scope).sql = "1" := by
  rw [fragment]
  rfl

@[simp]
theorem sql_never : (Condition.never.fragment schema scope).sql = "0" := by
  rw [fragment]
  rfl

@[simp]
theorem sql_leaf (question : Leaf) :
    ((Condition.leaf question).fragment schema scope).sql =
      (question.fragment schema scope).sql := by
  rw [fragment]

@[simp]
theorem sql_junction (connective : Connective) (operands : List Condition) :
    ((Condition.junction connective operands).fragment schema scope).sql =
      "(" ++ (" " ++ connective.keyword ++ " ").intercalate
        (operands.map fun operand => (operand.fragment schema scope).sql) ++ ")" := by
  rw [fragment]
  simp [Fragment.concat, Fragment.separated, Function.comp_def, String.append_assoc]

@[simp]
theorem sql_negation (operand : Condition) :
    ((Condition.negation operand).fragment schema scope).sql =
      "NOT (" ++ (operand.fragment schema scope).sql ++ ")" := by
  rw [fragment]
  simp [Fragment.concat, String.append_assoc]

end Condition

/-! ## One text for one shape -/

section SameText

variable {schema : Schema} {scope other : String}

/-- Two lowered expressions that are written with the same text, each within its own
scope. What a negation writes depends on the flag too, so the flags are compared as well. -/
structure Lowered.SameText (schema : Schema) (scope other : String) (first second : Lowered) :
    Prop where
  sql : (first.condition.fragment schema scope).sql = (second.condition.fragment schema other).sql
  degraded : first.degraded = second.degraded

namespace Lowered.SameText

theorem rejected (issue otherIssue : Issue) :
    SameText schema scope other (.rejected issue) (.rejected otherIssue) := by
  constructor
  · simp
  · rfl

theorem clean {first second : Condition}
    (sql : (first.fragment schema scope).sql = (second.fragment schema other).sql) :
    SameText schema scope other (.clean first) (.clean second) :=
  ⟨sql, rfl⟩

theorem under {first second : Lowered} (same : SameText schema scope other first second)
    (negations : Nat) :
    SameText schema scope other (first.under negations) (second.under negations) := by
  constructor
  · unfold Lowered.under
    rw [same.degraded]
    split_ifs
    · exact same.sql
    · simp
    · exact same.sql
    · simp [same.sql]
  · rw [degraded_under, degraded_under, same.degraded]

/-- Operands that are written alike side by side are joined to the same text. -/
theorem join (connective : Connective) {firsts seconds : List Lowered}
    (same : List.Forall₂ (SameText schema scope other) firsts seconds) :
    SameText schema scope other (.join connective firsts) (.join connective seconds) := by
  have texts := map_eq_of_forall₂ (same.imp fun _ _ both => both.sql)
  have degraded := map_eq_of_forall₂ (same.imp fun _ _ both => both.degraded)
  constructor
  · cases same with
    | nil => simp [Lowered.join]
    | cons head tail =>
        cases tail with
        | nil =>
            rw [join_singleton, join_singleton]
            exact head.sql
        | cons second rest =>
            rw [join_cons_cons, join_cons_cons, Condition.sql_junction, Condition.sql_junction,
              List.map_map, List.map_map]
            exact congrArg (fun texts => "(" ++ (" " ++ connective.keyword ++ " ").intercalate texts
              ++ ")") texts
  · rw [degraded_join, degraded_join]
    simpa using congrArg (List.any · id) degraded

end Lowered.SameText

end SameText

/-! ## Terms that can be searched for -/

theorem lowerText_of_searchable {scope value : String} (scopeSearchable : isSearchable scope = true)
    (searchable : isSearchable value = true) (place : TextPlace) :
    ∃ scopeTerm term, lowerText scope place value = .leaf (.fullText place scopeTerm term) := by
  obtain ⟨scopeTerm, scopeRead⟩ := Option.isSome_iff_exists.mp scopeSearchable
  obtain ⟨term, read⟩ := Option.isSome_iff_exists.mp searchable
  refine ⟨scopeTerm, term, ?_⟩
  rw [lowerText, scopeRead, read]

theorem lowerText_of_not_searchable {scope value : String}
    (unsearchable : ¬(isSearchable scope = true ∧ isSearchable value = true)) (place : TextPlace) :
    lowerText scope place value = .never := by
  unfold lowerText
  split
  · next scopeRead read => simp [isSearchable, scopeRead, read] at unsearchable
  · rfl

section Leaves

variable {schema : Schema} {scope other : String}
  (scopes : isSearchable scope = isSearchable other)
include scopes

/-- A term decides about the text by whether it can be searched for, and by nothing else. -/
theorem sql_lowerText (place : TextPlace) {value otherValue : String}
    (searchable : isSearchable value = isSearchable otherValue) :
    ((lowerText scope place value).fragment schema scope).sql =
      ((lowerText other place otherValue).fragment schema other).sql := by
  by_cases both : isSearchable scope = true ∧ isSearchable value = true
  · obtain ⟨_, _, lowered⟩ := lowerText_of_searchable both.1 both.2 place
    rw [scopes, searchable] at both
    obtain ⟨_, _, otherLowered⟩ := lowerText_of_searchable both.1 both.2 place
    rw [lowered, otherLowered, Condition.sql_leaf, Condition.sql_leaf]
    rfl
  · rw [lowerText_of_not_searchable both]
    rw [scopes, searchable] at both
    rw [lowerText_of_not_searchable both, Condition.sql_never, Condition.sql_never]

/-- Alike criteria are written with one text. -/
theorem sql_lowerCriterion {criterion otherCriterion : Criterion}
    (alike : criterion.Alike otherCriterion) :
    ((lowerCriterion scope criterion).fragment schema scope).sql =
      ((lowerCriterion other otherCriterion).fragment schema other).sql := by
  cases alike with
  | contains place searchable =>
      rw [lowerCriterion, lowerCriterion]
      exact sql_lowerText scopes place searchable
  | @tagged name otherName id otherId identified =>
      simp only [lowerCriterion, Condition.sql_leaf]
      cases id with
      | none =>
          cases otherId with
          | none => rfl
          | some _ => simp at identified
      | some _ =>
          cases otherId with
          | none => simp at identified
          | some _ => rfl
  | hasTags | createdOn _ _ | created _ _ _ =>
      simp only [lowerCriterion, Condition.sql_leaf]
      rfl

end Leaves

end Sql

/-! ## Expressions of one shape -/

namespace Expression

open Sql Operands

/-- Negations above a connective act on its joined operands. -/
theorem lowerUnder_connect (scope : String) (negations : Nat) (connective : Connective)
    {operands : List Expression} (nonempty : operands ≠ []) :
    (connect connective operands).lowerUnder scope negations =
      (Lowered.join connective (operands.map (lowerUnder scope 0))).under negations := by
  rw [lowerUnder_eq_lower_negate, lower_negate, lower_connect scope connective nonempty]
  · rfl
  · cases connective <;> simp [connect]

theorem lowerUnder_connect_nil (scope : String) (negations : Nat) (connective : Connective) :
    (connect connective []).lowerUnder scope negations = .rejected (.noOperands connective) := by
  cases connective <;> simp [connect, lowerUnder]

section SameShape

variable {schema : Schema} {scope other : String}
  (scopes : isSearchable scope = isSearchable other)

theorem sameText_connect {firsts seconds : List Expression} (connective : Connective)
    (same : List.Forall₂ (fun first second => (first.lowerUnder scope 0).SameText schema scope other
      (second.lowerUnder other 0)) firsts seconds) (negations : Nat) :
    ((connect connective firsts).lowerUnder scope negations).SameText schema scope other
      ((connect connective seconds).lowerUnder other negations) := by
  cases same with
  | nil =>
      rw [lowerUnder_connect_nil, lowerUnder_connect_nil]
      exact .rejected _ _
  | cons head tail =>
      rw [lowerUnder_connect scope negations connective (List.cons_ne_nil _ _),
        lowerUnder_connect other negations connective (List.cons_ne_nil _ _)]
      apply Lowered.SameText.under
      apply Lowered.SameText.join
      rw [List.forall₂_map_left_iff, List.forall₂_map_right_iff]
      exact .cons head tail

include scopes in
/-- Alike filters are both rejected, or are accepted and written with one text. -/
theorem sameText_filter {field : Field} {first second : Operator} {value otherValue : String}
    (alike : AlikeFilters field first value second otherValue) (negations : Nat) :
    ((Expression.filter field first value).lowerUnder scope negations).SameText schema scope other
      ((Expression.filter field second otherValue).lowerUnder other negations) := by
  have accepted := alike.accepted
  cases valid : Criterion.ofFilter field first value with
  | error issue =>
      cases otherValid : Criterion.ofFilter field second otherValue with
      | error otherIssue =>
          simp only [lowerUnder, valid, otherValid]
          exact .rejected issue otherIssue
      | ok _ => simp [valid, otherValid, Except.isOk, Except.toBool] at accepted
  | ok criterion =>
      cases otherValid : Criterion.ofFilter field second otherValue with
      | error _ => simp [valid, otherValid, Except.isOk, Except.toBool] at accepted
      | ok otherCriterion =>
          have criteria := Criterion.alike_of_alikeFilters alike valid otherValid
          simp only [lowerUnder, valid, otherValid]
          exact (Lowered.SameText.clean (sql_lowerCriterion scopes criteria)).under negations

include scopes in
/-- Expressions of one shape are written with one text under any number of negations. -/
theorem SameShape.sameText {first second : Expression} (shape : SameShape first second)
    (negations : Nat) :
    (first.lowerUnder scope negations).SameText schema scope other
      (second.lowerUnder other negations) := by
  induction first using induction generalizing second negations with
  | empty =>
      cases shape
      rw [lowerUnder, lowerUnder]
      split_ifs
      · exact .clean (by simp)
      · exact .rejected _ _
  | text value =>
      cases shape with
      | text searchable =>
          rw [lowerUnder, lowerUnder]
          exact (Lowered.SameText.clean (sql_lowerText scopes _ searchable)).under negations
  | filter field operator value =>
      cases shape with
      | filter alike => exact sameText_filter scopes alike negations
  | and firsts ih =>
      cases shape with
      | and operands =>
          apply sameText_connect .and
          apply forall₂_imp_of_mem operands
          intro operand mem otherOperand alike
          exact ih operand mem alike 0
  | or firsts ih =>
      cases shape with
      | or operands =>
          apply sameText_connect .or
          apply forall₂_imp_of_mem operands
          intro operand mem otherOperand alike
          exact ih operand mem alike 0
  | not operand ih =>
      cases shape with
      | not operandShape =>
          rw [lowerUnder, lowerUnder]
          exact ih operandShape (negations + 1)

end SameShape

end Expression

namespace Sql

/-! ## The characters of the text -/

/-- Whether a character may stand in SQL text: in a name, or in a constant. -/
def isSqlChar (c : Char) : Bool :=
  isIdentifierChar c || [' ', '.', '?', '=', '<', '>', '(', ')'].contains c

/-- Every character of the text may stand in SQL text. -/
def IsPlain (sql : String) : Prop :=
  ∀ c ∈ sql.toList, isSqlChar c = true

instance (sql : String) : Decidable (IsPlain sql) :=
  List.decidableBAll _ sql.toList

@[simp]
theorem isPlain_append {first second : String} :
    IsPlain (first ++ second) ↔ IsPlain first ∧ IsPlain second := by
  simp [IsPlain, or_imp, forall_and]

@[simp]
theorem isPlain_concat {parts : List Fragment} :
    IsPlain (Fragment.concat parts).sql ↔ ∀ part ∈ parts, IsPlain part.sql := by
  simp only [IsPlain, Fragment.toList_sql_concat, List.mem_flatMap]
  constructor
  · intro plain part partMem c mem
    exact plain c ⟨part, partMem, mem⟩
  · rintro plain c ⟨part, partMem, mem⟩
    exact plain part partMem c mem

theorem isPlain_intercalate {separator : String} (plainSeparator : IsPlain separator)
    {texts : List String} (plain : ∀ text ∈ texts, IsPlain text) :
    IsPlain (separator.intercalate texts) := by
  induction texts with
  | nil => simp [IsPlain]
  | cons text texts ih =>
      rw [List.forall_mem_cons] at plain
      cases texts with
      | nil => simpa using plain.1
      | cons next texts =>
          rw [String.intercalate_cons_cons, isPlain_append, isPlain_append]
          exact ⟨⟨plain.1, plainSeparator⟩, ih plain.2⟩

section Plain

variable {schema : Schema} (valid : schema.validate = .ok ()) (scope : String)
include valid

/-- The names of a valid schema are plain. -/
theorem isPlain_name (setting : Setting) : IsPlain (schema.name setting) := by
  intro c mem
  rw [isSqlChar, isIdentifierChar_of_mem (schema.isIdentifier_name valid setting) mem,
    Bool.true_or]

theorem Leaf.isPlain_inScope : IsPlain (inScope schema scope).sql := by
  simp +decide [inScope, isPlain_name valid]

theorem Leaf.isPlain_tagMembership {further : Fragment} (plain : IsPlain further.sql) :
    IsPlain (tagMembership schema scope further).sql := by
  simp +decide [tagMembership, isPlain_name valid, plain]

theorem Leaf.isPlain_fragment (leaf : Leaf) : IsPlain (leaf.fragment schema scope).sql := by
  cases leaf with
  | fullText _ _ _ | createdOn _ =>
      simp +decide [fragment, isPlain_inScope valid, isPlain_name valid]
  | created comparison _ =>
      have symbol : IsPlain comparison.symbol := by
        cases comparison <;> decide
      simp +decide [fragment, isPlain_inScope valid, isPlain_name valid, symbol]
  | hasTags =>
      apply isPlain_tagMembership valid
      decide
  | tagged name id =>
      cases id with
      | none | some _ =>
          apply isPlain_tagMembership valid
          simp +decide [isPlain_name valid]

theorem Condition.isPlain_fragment (condition : Condition) :
    IsPlain (condition.fragment schema scope).sql := by
  induction condition using Condition.induction with
  | always =>
      rw [sql_always]
      decide
  | never =>
      rw [sql_never]
      decide
  | leaf question =>
      rw [sql_leaf]
      exact question.isPlain_fragment valid scope
  | junction connective operands ih =>
      have keyword : IsPlain (" " ++ connective.keyword ++ " ") := by
        cases connective <;> decide
      have texts := isPlain_intercalate keyword (List.forall_mem_map.mpr ih)
      rw [sql_junction, isPlain_append, isPlain_append]
      exact ⟨⟨by decide, texts⟩, by decide⟩
  | negation operand ih =>
      rw [sql_negation, isPlain_append, isPlain_append]
      exact ⟨⟨by decide, ih⟩, by decide⟩

end Plain

namespace Compiler

variable (compiler : Compiler)

theorem isPlain_compile (expression : Expression) (scope : String) :
    IsPlain (compiler.compile expression scope).fragment.sql :=
  Condition.isPlain_fragment compiler.valid scope _

theorem isPlain_statement (expression : Expression) (scope : String) :
    IsPlain (compiler.statement expression scope).sql := by
  simp +decide [compiler.statement_eq, isPlain_name compiler.valid, isPlain_compile]

/-- What a user writes does not reach the text of the SQL. Two expressions of one shape
are compiled to the same text, within two scopes that both can be searched for or both
cannot; and the text holds names, constants and placeholders only. -/
theorem sql_of_sameShape {first second : Expression} {scope other : String}
    (shape : first.SameShape second) (scopes : isSearchable scope = isSearchable other) :
    (compiler.compile first scope).fragment.sql = (compiler.compile second other).fragment.sql ∧
      (compiler.statement first scope).sql = (compiler.statement second other).sql ∧
      IsPlain (compiler.compile first scope).fragment.sql ∧
      IsPlain (compiler.statement first scope).sql := by
  have compiled : (compiler.compile first scope).fragment.sql =
      (compiler.compile second other).fragment.sql := (shape.sameText scopes 0).sql
  refine ⟨compiled, ?_, compiler.isPlain_compile first scope,
    compiler.isPlain_statement first scope⟩
  rw [(compiler.statement_eq first scope).1, (compiler.statement_eq second other).1, compiled]

/-- Values that would end a literal, open a comment or start another statement leave the
text as it is, whether their clause is accepted or, as the last one here, rejected. -/
theorem sql_of_sameShape_with_hostile_values :
    let first := Expression.and
      [.text "flour", .not (.filter .tag .equal "cooking"),
        .or [.filter .created (.ordering .less) "2024-02-01", .filter .has .equal "tags"],
        .not (.filter .name (.ordering .less) "plan")]
    let second := Expression.and
      [.text "x') OR 1=1; --", .not (.filter .tag .equal "'; DROP TABLE tags; --"),
        .or [.filter .created (.ordering .less) "1999-12-31", .filter .has .equal " TAGS "],
        .not (.filter .name (.ordering .less) "') OR ('1'='1")]
    first.SameShape second ∧ isSearchable "org_1" = isSearchable "org' OR '1'='1" ∧
      (standard.statement first "org_1").sql =
        (standard.statement second "org' OR '1'='1").sql ∧
      IsPlain (standard.statement second "org' OR '1'='1").sql := by
  intro first second
  have tags : Expression.AlikeFilters .tag .equal "cooking" .equal "'; DROP TABLE tags; --" := by
    constructor <;> decide +kernel
  have dates : Expression.AlikeFilters .created (.ordering .less) "2024-02-01"
      (.ordering .less) "1999-12-31" := by
    constructor <;> decide +kernel
  have presence : Expression.AlikeFilters .has .equal "tags" .equal " TAGS " := by
    constructor <;> decide +kernel
  have names : Expression.AlikeFilters .name (.ordering .less) "plan"
      (.ordering .less) "') OR ('1'='1" := by
    constructor <;> decide +kernel
  have shape : first.SameShape second := by
    refine .and (.cons (.text ?_) (.cons (.not (.filter tags)) (.cons (.or ?_) ?_)))
    · decide +kernel
    · exact .cons (.filter dates) (.cons (.filter presence) .nil)
    · exact .cons (.not (.filter names)) .nil
  have scopes : isSearchable "org_1" = isSearchable "org' OR '1'='1" := by
    decide +kernel
  have same := standard.sql_of_sameShape shape scopes
  exact ⟨shape, scopes, same.2.1, same.2.1 ▸ same.2.2.2⟩

end Compiler

end Sql

end SearchQuery
