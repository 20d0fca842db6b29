import SearchQuery.Json.Compiled
import SearchQuery.Json.Expression
import SearchQuery.Proofs.Calendar.Milliseconds
import Mathlib.Data.List.Forall2
import Mathlib.Logic.Relation

/-!
# JSON forms are read back

Expressions, compiled queries and statements are read back from their JSON forms as they were.
They are also read back after members with new names have been added to objects in these forms,
since a record is read by the names of its fields. What each form is read as therefore is
stated of all the values that extend it (`Json.ReadsAs`), and the forms of records and lists
follow from those of their parts.
-/

namespace SearchQuery

namespace Json

/-! ## New members -/

/-- A member with a new name is added to one object in a value. -/
inductive AddsMember : Json → Json → Prop
  | here (before after : List (String × Json)) {name : String} (value : Json)
      (new : name ∉ (before ++ after).map Prod.fst) :
      AddsMember (.object (before ++ after)) (.object (before ++ (name, value) :: after))
  | member (before after : List (String × Json)) {name : String} {part whole : Json}
      (inside : AddsMember part whole) :
      AddsMember (.object (before ++ (name, part) :: after))
        (.object (before ++ (name, whole) :: after))
  | element (before after : List Json) {part whole : Json} (inside : AddsMember part whole) :
      AddsMember (.array (before ++ part :: after)) (.array (before ++ whole :: after))

/-- Members with new names are added to objects in a value, any number of them. -/
def Extends : Json → Json → Prop :=
  Relation.ReflTransGen AddsMember

theorem Extends.refl (value : Json) : Extends value value :=
  Relation.ReflTransGen.refl

/-- A new member hides none, and the others are kept or extended. -/
theorem AddsMember.lookup {members : List (String × Json)} {later : Json}
    (step : AddsMember (.object members) later) :
    ∃ laterMembers, later = .object laterMembers ∧
      ∀ name value, List.lookup name members = some value →
        ∃ laterValue, List.lookup name laterMembers = some laterValue ∧
          (laterValue = value ∨ AddsMember value laterValue) := by
  cases step with
  | @here before after new _ isNew =>
      refine ⟨_, rfl, ?_⟩
      intro name kept found
      refine ⟨kept, ?_, .inl rfl⟩
      -- A name that is found belongs to a member, so it is not the new one.
      have other : (name == new) = false := by
        rw [beq_eq_false_iff_ne]
        rintro rfl
        obtain ⟨front, back, split, _⟩ := List.lookup_eq_some_iff.mp found
        rw [split] at isNew
        exact isNew (by simp)
      rw [List.lookup_append] at found ⊢
      rwa [List.lookup_cons, other]
  | @member before after changed part whole inside =>
      refine ⟨_, rfl, ?_⟩
      intro name kept found
      rw [List.lookup_append, List.lookup_cons] at found ⊢
      cases earlier : List.lookup name before with
      | some value =>
          rw [earlier] at found
          exact ⟨value, rfl, .inl (by simpa using found)⟩
      | none =>
          rw [earlier] at found
          cases here : name == changed with
          | true =>
              rw [here] at found
              cases found
              exact ⟨whole, rfl, .inr inside⟩
          | false =>
              rw [here] at found
              exact ⟨kept, found, .inl rfl⟩

/-- The members of an object stand in every extension of it, extended. -/
theorem Extends.object {members : List (String × Json)} {later : Json}
    (extension : Extends (.object members) later) :
    ∃ laterMembers, later = .object laterMembers ∧
      ∀ name value, List.lookup name members = some value →
        ∃ laterValue, List.lookup name laterMembers = some laterValue ∧
          Extends value laterValue := by
  induction extension with
  | refl => exact ⟨members, rfl, fun name value found => ⟨value, found, .refl value⟩⟩
  | tail _ step ih =>
      obtain ⟨middleMembers, rfl, middle⟩ := ih
      obtain ⟨laterMembers, rfl, kept⟩ := step.lookup
      refine ⟨laterMembers, rfl, ?_⟩
      intro name value found
      obtain ⟨middleValue, middleFound, extended⟩ := middle name value found
      obtain ⟨laterValue, laterFound, rfl | further⟩ := kept name middleValue middleFound
      · exact ⟨laterValue, laterFound, extended⟩
      · exact ⟨laterValue, laterFound, extended.tail further⟩

theorem forall₂_of_replaced {α β : Type} {related : α → β → Prop} {first : List α}
    {before after : List β} {part whole : β} (replaces : ∀ x, related x part → related x whole)
    (each : List.Forall₂ related first (before ++ part :: after)) :
    List.Forall₂ related first (before ++ whole :: after) := by
  induction before generalizing first with
  | nil =>
      obtain ⟨x, rest, ofPart, ofRest, rfl⟩ := List.forall₂_cons_right_iff.mp each
      exact .cons (replaces x ofPart) ofRest
  | cons y before ih =>
      obtain ⟨x, rest, ofFirst, ofRest, rfl⟩ := List.forall₂_cons_right_iff.mp each
      exact .cons ofFirst (ih ofRest)

/-- No element is added to an array, and each is extended. -/
theorem Extends.array {elements : List Json} {later : Json}
    (extension : Extends (.array elements) later) :
    ∃ laterElements, later = .array laterElements ∧
      List.Forall₂ Extends elements laterElements := by
  induction extension with
  | refl => exact ⟨elements, rfl, List.forall₂_same.mpr fun element _ => .refl element⟩
  | tail _ step ih =>
      obtain ⟨middleElements, rfl, each⟩ := ih
      cases step with
      | element before after inside =>
          exact ⟨_, rfl, forall₂_of_replaced (fun _ extended => extended.tail inside) each⟩

/-- Nothing but itself extends a value without objects in it. -/
theorem Extends.eq_of_bare {value later : Json} (extension : Extends value later)
    (bare : ∀ next, ¬ AddsMember value next) : later = value := by
  rcases Relation.ReflTransGen.cases_head extension with rfl | ⟨next, step, _⟩
  · rfl
  · exact absurd step (bare next)

theorem Extends.string {text : String} {later : Json} (extension : Extends (.string text) later) :
    later = .string text :=
  extension.eq_of_bare fun _ => nofun

/-! ## What forms are read as -/

section Reading

variable {α : Type}

/-- A form is read as a result, whatever new members are added to objects in it. -/
def ReadsAs (read? : Json → Option α) (form : Json) (result : α) : Prop :=
  ∀ later, Extends form later → read? later = some result

theorem readsAs_of_bare {read? : Json → Option α} {form : Json} {result : α}
    (bare : ∀ next, ¬ AddsMember form next) (read : read? form = some result) :
    ReadsAs read? form result := by
  intro later extension
  rwa [extension.eq_of_bare bare]

theorem mapM_of_readsAs {read? : Json → Option α} {toJson : α → Json} {results : List α}
    (each : ∀ result ∈ results, ReadsAs read? (toJson result) result) {forms : List Json}
    (extended : List.Forall₂ Extends (results.map toJson) forms) :
    forms.mapM read? = some results := by
  induction results generalizing forms with
  | nil =>
      cases extended
      rfl
  | cons result results ih =>
      cases extended with
      | cons first others =>
          have ofFirst := each result List.mem_cons_self _ first
          have ofOthers := ih (fun other mem => each other (List.mem_cons_of_mem result mem)) others
          rw [List.mapM_cons, ofFirst, ofOthers]
          rfl

/-- A list is read back if each of its elements is. -/
theorem readsAs_listOf {read? : Json → Option α} {toJson : α → Json} {results : List α}
    (each : ∀ result ∈ results, ReadsAs read? (toJson result) result) :
    ReadsAs (listOf? read?) (.array (results.map toJson)) results := by
  intro later extension
  obtain ⟨forms, rfl, extended⟩ := extension.array
  exact mapM_of_readsAs each extended

end Reading

end Json

open Json

/-! ## Expressions -/

theorem ExpressionKind.ofJson?_name (nested : Bool) (kind : ExpressionKind) :
    ofJson? nested (.string kind.name) = some kind := by
  cases kind <;> rfl

theorem ExpressionKind.split?_of_name {nested : Bool} {kind : ExpressionKind}
    {members : List (String × Json)}
    (named : List.lookup "type" members = some (.string kind.name)) :
    split? nested (.object members) =
      some (kind, kind.fieldNames.map fun name => List.lookup name members) := by
  rw [split?, named, Option.bind_some, ofJson?_name]
  rfl

theorem Field.ofJson?_text (isEmpty : Json → Bool) (field : Field) :
    Field.ofJson? isEmpty (.string field.text) = some field := by
  cases field <;> rfl

theorem Operator.ofJson?_symbol (isEmpty : Json → Bool) (operator : Operator) :
    Operator.ofJson? isEmpty (.string operator.symbol) = some operator := by
  cases operator with
  | equal => rfl
  | ordering comparison => cases comparison <;> rfl

namespace Expression

/-- Decoding without the proof that it ends. -/
theorem ofNestedJson?_eq (nested : Bool) (json : Json) :
    ofNestedJson? nested json =
      match ExpressionKind.split? nested json with
      | some (.empty, _) => some .empty
      | some (.text, [some value]) => value.text?.map .text
      | some (.filter, [some field, some operator, some value]) => do
          return .filter (← Field.ofJson? Json.isNullOrBare field)
            (← Operator.ofJson? Json.isNullOrBare operator) (← value.text?)
      | some (.and, [some (.array operands)]) => (operands.mapM (ofNestedJson? true)).map .and
      | some (.or, [some (.array operands)]) => (operands.mapM (ofNestedJson? true)).map .or
      | some (.not, [some operand]) => (ofNestedJson? true operand).map .not
      | _ => none := by
  rw [ofNestedJson?]
  split <;> simp_all

/-- The kind that an extended form of an expression has, and the members of the form, extended. -/
theorem split?_of_extends {nested : Bool} {kind : ExpressionKind}
    {contents : List (String × Json)} {later : Json}
    (extension : Extends (.object (("type", .string kind.name) :: contents)) later) :
    ∃ found : String → Option Json,
      ExpressionKind.split? nested later = some (kind, kind.fieldNames.map found) ∧
        ∀ name value, name ≠ "type" → List.lookup name contents = some value →
          ∃ laterValue, found name = some laterValue ∧ Extends value laterValue := by
  obtain ⟨members, rfl, kept⟩ := extension.object
  obtain ⟨named, isNamed, extended⟩ := kept "type" (.string kind.name) rfl
  obtain rfl := extended.string
  refine ⟨_, ExpressionKind.split?_of_name isNamed, ?_⟩
  intro name value other found
  apply kept
  rw [List.lookup_cons, beq_eq_false_iff_ne.mpr other]
  exact found

/-- The operands of a connective are read back if each of them is. -/
theorem operands_of_extends {nested : Bool} {kind : ExpressionKind}
    (connective : kind.fieldNames = ["operands"]) {operands : List Expression}
    (each : ∀ operand ∈ operands, ReadsAs (ofNestedJson? true) operand.toJson operand)
    {later : Json} (extension : Extends (.object [("type", .string kind.name),
      ("operands", .array (operands.map toJson))]) later) :
    ∃ forms, ExpressionKind.split? nested later = some (kind, [some (.array forms)]) ∧
      forms.mapM (ofNestedJson? true) = some operands := by
  obtain ⟨found, split, kept⟩ := @split?_of_extends nested kind _ _ extension
  obtain ⟨_, isArray, extended⟩ := kept "operands" _ (by decide) rfl
  obtain ⟨forms, rfl, extendedForms⟩ := extended.array
  rw [connective, List.map_singleton, isArray] at split
  exact ⟨forms, split, mapM_of_readsAs each extendedForms⟩

theorem readsAs_toJson (nested : Bool) (expression : Expression) :
    ReadsAs (ofNestedJson? nested) expression.toJson expression := by
  induction expression using Expression.induction generalizing nested with
  | empty =>
      intro later extension
      rw [toJson] at extension
      obtain ⟨_, split, _⟩ := @split?_of_extends nested .empty _ _ extension
      rw [ofNestedJson?_eq, split]
  | text value =>
      intro later extension
      rw [toJson] at extension
      obtain ⟨found, split, kept⟩ := @split?_of_extends nested .text _ _ extension
      obtain ⟨_, isValue, extended⟩ := kept "value" (.string value) (by decide) rfl
      obtain rfl := extended.string
      rw [ofNestedJson?_eq, split, ExpressionKind.fieldNames, List.map_singleton, isValue]
      rfl
  | filter field operator value =>
      intro later extension
      rw [toJson] at extension
      obtain ⟨found, split, kept⟩ := @split?_of_extends nested .filter _ _ extension
      obtain ⟨_, isField, fieldExtended⟩ := kept "field" (.string field.text) (by decide) rfl
      obtain ⟨_, isOperator, operatorExtended⟩ :=
        kept "operator" (.string operator.symbol) (by decide) rfl
      obtain ⟨_, isValue, valueExtended⟩ := kept "value" (.string value) (by decide) rfl
      obtain rfl := fieldExtended.string
      obtain rfl := operatorExtended.string
      obtain rfl := valueExtended.string
      rw [ofNestedJson?_eq, split]
      simp only [ExpressionKind.fieldNames, List.map_cons, List.map_nil, isField, isOperator,
        isValue, Field.ofJson?_text, Operator.ofJson?_symbol]
      rfl
  | and operands ih =>
      intro later extension
      rw [toJson] at extension
      obtain ⟨forms, split, read⟩ := @operands_of_extends nested .and rfl _
        (fun operand mem => ih operand mem true) _ extension
      rw [ofNestedJson?_eq, split]
      exact congrArg (Option.map Expression.and) read
  | or operands ih =>
      intro later extension
      rw [toJson] at extension
      obtain ⟨forms, split, read⟩ := @operands_of_extends nested .or rfl _
        (fun operand mem => ih operand mem true) _ extension
      rw [ofNestedJson?_eq, split]
      exact congrArg (Option.map Expression.or) read
  | not operand ih =>
      intro later extension
      rw [toJson] at extension
      obtain ⟨found, split, kept⟩ := @split?_of_extends nested .not _ _ extension
      obtain ⟨form, isOperand, extended⟩ := kept "operand" operand.toJson (by decide) rfl
      have read := ih true form extended
      rw [ofNestedJson?_eq, split, ExpressionKind.fieldNames, List.map_singleton, isOperand]
      exact congrArg (Option.map Expression.not) read

end Expression

/-! ## Compiled queries and statements -/

theorem IssueCode.ofJson?_text (code : IssueCode) : ofJson? (.string code.text) = some code := by
  cases code <;> rfl

theorem Diagnostic.readsAs_toJson (diagnostic : Diagnostic) :
    ReadsAs ofJson? diagnostic.toJson diagnostic := by
  intro later extension
  obtain ⟨members, rfl, kept⟩ := extension.object
  obtain ⟨_, isMessage, messageExtended⟩ := kept "message" (.string diagnostic.message) rfl
  obtain ⟨_, isCode, codeExtended⟩ := kept "code" (.string diagnostic.code.text) rfl
  obtain rfl := messageExtended.string
  obtain rfl := codeExtended.string
  simp only [ofJson?, fields?, List.map_cons, List.map_nil, isMessage, isCode,
    IssueCode.ofJson?_text]
  rfl

namespace Sql

/-- A parameter is a text, or a number that has 64 bits with its sign. -/
def Param.Fits64 : Param → Prop
  | .text _ => True
  | .integer number => isInteger64 number = true

instance (param : Param) : Decidable param.Fits64 :=
  match param with
  | .text _ => isTrue trivial
  | .integer number => inferInstanceAs (Decidable (isInteger64 number = true))

theorem Param.readsAs_toJson {param : Param} (fits : param.Fits64) :
    ReadsAs ofJson? param.toJson param := by
  cases param with
  | text value => exact readsAs_of_bare (fun _ => nofun) rfl
  | integer number =>
      rw [toJson]
      refine readsAs_of_bare (fun _ => nofun) ?_
      rw [Fits64] at fits
      simp [ofJson?, integer64?, fits]

theorem Fragment.readsAs_toJson {fragment : Fragment}
    (fits : ∀ param ∈ fragment.params, param.Fits64) :
    ReadsAs ofJson? fragment.toJson fragment := by
  intro later extension
  obtain ⟨members, rfl, kept⟩ := extension.object
  obtain ⟨_, isSql, sqlExtended⟩ := kept "sql" (.string fragment.sql) rfl
  obtain ⟨params, isParams, paramsExtended⟩ := kept "params" _ rfl
  obtain rfl := sqlExtended.string
  have readParams := readsAs_listOf (fun param mem => Param.readsAs_toJson (fits param mem))
    params paramsExtended
  simp only [ofJson?, fields?, List.map_cons, List.map_nil, isSql, isParams, readParams]
  rfl

theorem CompiledQuery.readsAs_toJson {compiled : CompiledQuery}
    (fits : ∀ param ∈ compiled.fragment.params, param.Fits64) :
    ReadsAs ofJson? compiled.toJson compiled := by
  intro later extension
  obtain ⟨members, rfl, kept⟩ := extension.object
  obtain ⟨fragment, isFragment, fragmentExtended⟩ := kept "fragment" compiled.fragment.toJson rfl
  obtain ⟨issues, isIssues, issuesExtended⟩ := kept "issues" _ rfl
  have readFragment := Fragment.readsAs_toJson fits fragment fragmentExtended
  have readIssues := readsAs_listOf (fun issue _ => Diagnostic.readsAs_toJson issue)
    issues issuesExtended
  simp only [ofJson?, fields?, List.map_cons, List.map_nil, isFragment, isIssues, readFragment,
    readIssues]
  rfl

theorem SearchStatement.readsAs_toJson {statement : SearchStatement}
    (fits : ∀ param ∈ statement.params, param.Fits64) :
    ReadsAs ofJson? statement.toJson statement := by
  intro later extension
  obtain ⟨members, rfl, kept⟩ := extension.object
  obtain ⟨_, isSql, sqlExtended⟩ := kept "sql" (.string statement.sql) rfl
  obtain ⟨params, isParams, paramsExtended⟩ := kept "params" _ rfl
  obtain ⟨issues, isIssues, issuesExtended⟩ := kept "issues" _ rfl
  obtain rfl := sqlExtended.string
  have readParams := readsAs_listOf (fun param mem => Param.readsAs_toJson (fits param mem))
    params paramsExtended
  have readIssues := readsAs_listOf (fun issue _ => Diagnostic.readsAs_toJson issue)
    issues issuesExtended
  simp only [ofJson?, fields?, List.map_cons, List.map_nil, isSql, isParams, isIssues, readParams,
    readIssues]
  rfl

/-! ## Parameters of what is compiled -/

section Compiled

open Calendar

theorem fits64_of_bounds {number : Int} (low : -9223372036854775808 ≤ number)
    (high : number ≤ 9223372036854775807) : (Param.integer number).Fits64 := by
  simp [Param.Fits64, isInteger64, low, high]

theorem fits64_millis (instant : Instant) : (Param.integer instant.millis).Fits64 := by
  obtain ⟨low, high, few⟩ := instant.inRange
  unfold secondsPerDay at low high
  apply fits64_of_bounds
  · rw [Instant.millis]
    omega
  · rw [Instant.millis]
    omega

theorem fits64_millisRange (day : Day) :
    (Param.integer day.millisRange.1).Fits64 ∧ (Param.integer day.millisRange.2).Fits64 := by
  have first := day.first_le
  have last := day.le_last
  rw [day.millisRange_eq]
  unfold Day.startMillis Day.lastMillis secondsPerDay
  constructor
  · apply fits64_of_bounds <;> dsimp only <;> omega
  · apply fits64_of_bounds <;> dsimp only <;> split <;> omega

theorem Leaf.fits64_fragment (schema : Schema) (scope : String) (leaf : Leaf) :
    ∀ param ∈ (leaf.fragment schema scope).params, param.Fits64 := by
  cases leaf with
  | fullText place scopeTerm term => simp [fragment, inScope, Param.Fits64]
  | tagged name id =>
      cases id with
      | none => simp [fragment, tagMembership, Param.Fits64]
      | some id => simp [fragment, tagMembership, Param.Fits64]
  | hasTags => simp [fragment, tagMembership, Param.Fits64]
  | createdOn day =>
      have fits := fits64_millisRange day
      simpa [fragment, inScope, Param.Fits64] using fits
  | created comparison instant =>
      have fits := fits64_millis instant
      simpa [fragment, inScope, Param.Fits64] using fits

theorem Condition.fits64_fragment (schema : Schema) (scope : String) (condition : Condition) :
    ∀ param ∈ (condition.fragment schema scope).params, param.Fits64 := by
  induction condition using Condition.induction with
  | always => simp [fragment]
  | never => simp [fragment]
  | leaf question =>
      rw [fragment]
      exact question.fits64_fragment schema scope
  | junction connective operands ih =>
      intro param mem
      obtain ⟨operand, isOperand, inOperand⟩ :
          ∃ operand ∈ operands, param ∈ (operand.fragment schema scope).params := by
        simpa [fragment] using mem
      exact ih operand isOperand param inOperand
  | negation operand ih =>
      intro param mem
      exact ih param (by simpa [fragment] using mem)

/-- The numbers among the parameters of compiled queries and statements have 64 bits. -/
theorem Compiler.fits64 (compiler : Compiler) (expression : Expression) (scope : String) :
    (∀ param ∈ (compiler.compile expression scope).fragment.params, param.Fits64) ∧
      ∀ param ∈ (compiler.statement expression scope).params, param.Fits64 := by
  have compiled := (expression.lower scope).condition.fits64_fragment compiler.schema scope
  refine ⟨compiled, ?_⟩
  intro param mem
  have own : param = .text scope ∨ param ∈ (compiler.compile expression scope).fragment.params := by
    simpa [statement, selectFragment, Leaf.inScope] using mem
  rcases own with rfl | inCompiled
  · trivial
  · exact compiled param inCompiled

theorem Compiler.readsAs_toJson (compiler : Compiler) (expression : Expression) (scope : String) :
    ReadsAs CompiledQuery.ofJson? (compiler.compile expression scope).toJson
        (compiler.compile expression scope) ∧
      ReadsAs SearchStatement.ofJson? (compiler.statement expression scope).toJson
        (compiler.statement expression scope) := by
  obtain ⟨compiled, statement⟩ := compiler.fits64 expression scope
  exact ⟨CompiledQuery.readsAs_toJson compiled, SearchStatement.readsAs_toJson statement⟩

end Compiled

end Sql

/-- Expressions, compiled queries and statements are read back from their JSON forms, also after
members with new names have been added to any objects in these. -/
theorem Json.toJson_reads_back :
    (∀ (expression : Expression) (form : Json), Extends expression.toJson form →
        Expression.ofJson? form = some expression) ∧
      (∀ compiled : Sql.CompiledQuery,
        (∀ param ∈ compiled.fragment.params, param.Fits64) →
          ∀ form, Extends compiled.toJson form →
            Sql.CompiledQuery.ofJson? form = some compiled) ∧
      ∀ statement : Sql.SearchStatement, (∀ param ∈ statement.params, param.Fits64) →
        ∀ form, Extends statement.toJson form →
          Sql.SearchStatement.ofJson? form = some statement := by
  refine ⟨?_, ?_, ?_⟩
  · intro expression
    exact expression.readsAs_toJson false
  · intro compiled fits
    exact Sql.CompiledQuery.readsAs_toJson fits
  · intro statement fits
    exact Sql.SearchStatement.readsAs_toJson fits

/-- Members are added to the innermost and the outermost object of a nested expression, and the
parameters of a query are a text that looks like a number and the ends of the range of numbers. -/
theorem Json.toJson_reads_back_with_new_members :
    let negation := Expression.not (.and [.text "a"])
    let text (more : List (String × Json)) : Json :=
      .object ([("type", .string "text"), ("value", .string "a")] ++ more)
    let whole (first : List (String × Json)) (operand : Json) : Json :=
      .object (first ++ [("type", .string "not"), ("operand",
        .object [("type", .string "and"), ("operands", .array [operand])])])
    let form := whole [("note", .object [("type", .null)])] (text [("weight", .integer 2)])
    let fragment : Sql.Fragment :=
      ⟨"?", [.text "7", .integer 9223372036854775807, .integer (-9223372036854775808)]⟩
    let compiled : Sql.CompiledQuery := ⟨fragment, [Issue.emptyNotOperand.diagnostic]⟩
    let statement : Sql.SearchStatement := ⟨fragment.sql, fragment.params, compiled.issues⟩
    negation.toJson = whole [] (text []) ∧ Expression.ofJson? form = some negation ∧
      Sql.CompiledQuery.ofJson? compiled.toJson = some compiled ∧
      Sql.SearchStatement.ofJson? statement.toJson = some statement := by
  intro negation text whole form fragment compiled statement
  have written : negation.toJson = whole [] (text []) := by
    simp [negation, whole, text, Expression.toJson]
  have inside : AddsMember (text []) (text [("weight", .integer 2)]) := by
    refine .here [("type", _), ("value", _)] [] (.integer 2) ?_
    decide
  have weighted : AddsMember (whole [] (text [])) (whole [] (text [("weight", .integer 2)])) :=
    .member [_] [] (.member [_] [] (.element [] [] inside))
  have noted : AddsMember (whole [] (text [("weight", .integer 2)])) form := by
    refine .here [] [("type", _), ("operand", _)] (.object [("type", .null)]) ?_
    decide
  have extension : Extends negation.toJson form := by
    rw [written]
    exact .tail (.single weighted) noted
  have fits : ∀ param ∈ fragment.params, param.Fits64 := by decide
  exact ⟨written, toJson_reads_back.1 negation form extension,
    toJson_reads_back.2.1 compiled fits _ (.refl _),
    toJson_reads_back.2.2 statement fits _ (.refl _)⟩

end SearchQuery
