import SearchQuery.Proofs.SearchTerm

/-!
# Full-text queries cannot be broken out of

A clause that asks for a term binds a text in the language of the full-text index to its
second placeholder. In this text the scope and the term stand between double quotes. A
term keeps no quote, and neither has a name of the schema, so the text has exactly the
four quotes that are put there. Splitting at quotes therefore gives back what the text
was made of (`splitOn_matchQuery`), whatever was typed; and two clauses with one such text
ask for the same term, in the same columns, within scopes that the index cannot tell
apart.
-/

namespace SearchQuery

/-- A term has no double quote. -/
theorem quote_notMem_searchTerm {value term : String} (found : searchTerm? value = some term) :
    '"' ∉ term.toList := by
  obtain ⟨isTerm, -⟩ := searchTerm?_eq_some_iff.mp found
  intro mem
  rw [isTerm] at mem
  exact absurd (isQuote_of_mem_stripQuotes mem) (by decide)

/-- Clauses that ask for a term: a text, and a filter on name or content, be it accepted
or not. -/
inductive Expression.AsksFor : Expression → TextPlace → String → Prop
  | text (value : String) : AsksFor (.text value) .nameOrContent value
  | name (operator : Operator) (value : String) :
      AsksFor (.filter .name operator value) .name value
  | content (operator : Operator) (value : String) :
      AsksFor (.filter .content operator value) .content value

/-- A field that is searched for terms accepts equality and nothing else. -/
theorem Expression.condition_lower_filter {field : Field} {place : TextPlace}
    (searches : field.Searches place) (operator : Operator) (value scope : String) :
    ((filter field operator value).lower scope).condition = Sql.lowerText scope place value ∨
      ((filter field operator value).lower scope).condition = .never := by
  cases operator with
  | equal =>
      left
      rw [lower_filter_of_ok scope (searches.accepts value), Sql.Lowered.condition_clean,
        Sql.lowerCriterion]
  | ordering comparison =>
      right
      rw [lower_filter_of_error scope (searches.refuses comparison value),
        Sql.Lowered.condition_rejected]

theorem Expression.AsksFor.condition_lower {clause : Expression} {place : TextPlace}
    {value : String} (asks : clause.AsksFor place value) (scope : String) :
    (clause.lower scope).condition = Sql.lowerText scope place value ∨
      (clause.lower scope).condition = .never := by
  cases asks with
  | text =>
      left
      rw [lower_text, Sql.Lowered.condition_clean]
  | name operator => exact condition_lower_filter Field.Searches.name operator value scope
  | content operator => exact condition_lower_filter Field.Searches.content operator value scope

namespace Sql

/-! ## Between the quotes -/

/-- What stands before, between and after the quotes of a full-text query. -/
def matchSegments (schema : Schema) (place : TextPlace) (scopeTerm term : String) : List String :=
  [schema.name .ftsScopeColumn ++ ":", scopeTerm,
    " \x7b" ++ " ".intercalate (textColumns schema place) ++ "\x7d:", term, "*"]

theorem toList_matchQuery (schema : Schema) (place : TextPlace) (scopeTerm term : String) :
    (matchQuery schema place scopeTerm term).toList =
      ['"'].intercalate ((matchSegments schema place scopeTerm term).map String.toList) := by
  simp [matchQuery, matchSegments, List.intercalate_cons_cons]

section Names

variable {schema : Schema} (valid : schema.validate = .ok ())
include valid

theorem notMem_name {c : Char} (outside : isIdentifierChar c = false) (setting : Setting) :
    c ∉ (schema.name setting).toList := by
  intro mem
  have inside := isIdentifierChar_of_mem (schema.isIdentifier_name valid setting) mem
  rw [outside] at inside
  contradiction

theorem isIdentifier_of_mem_textColumns {place : TextPlace} {column : String}
    (mem : column ∈ textColumns schema place) : isIdentifier column = true := by
  cases place with
  | name | content =>
      rw [textColumns, List.mem_singleton] at mem
      rw [mem]
      exact schema.isIdentifier_name valid _
  | nameOrContent =>
      rw [textColumns, List.mem_cons, List.mem_singleton] at mem
      rcases mem with rfl | rfl
      · exact schema.isIdentifier_name valid _
      · exact schema.isIdentifier_name valid _

/-- Columns joined by spaces can be told apart again. -/
theorem textColumns_of_intercalate_eq {place other : TextPlace}
    (same : " ".intercalate (textColumns schema place) =
      " ".intercalate (textColumns schema other)) :
    textColumns schema place = textColumns schema other := by
  have split : ∀ place, (" ".intercalate (textColumns schema place)).toList.splitOn ' ' =
      (textColumns schema place).map String.toList := by
    intro place
    rw [String.toList_intercalate]
    apply List.splitOn_intercalate ' '
    · rw [List.forall_mem_map]
      intro column mem space
      have inside := isIdentifierChar_of_mem (isIdentifier_of_mem_textColumns valid mem) space
      contradiction
    · cases place <;> simp [textColumns]
  have columns := split place
  rw [same, split other] at columns
  exact ((List.map_inj_right fun _ _ => String.toList_inj.mp).mp columns).symm

variable {place : TextPlace} {scopeTerm term : String} (scopePlain : '"' ∉ scopeTerm.toList)
  (termPlain : '"' ∉ term.toList)
include scopePlain termPlain

theorem quote_notMem_matchSegments :
    ∀ segment ∈ (matchSegments schema place scopeTerm term).map String.toList, '"' ∉ segment := by
  have column := notMem_name valid (c := '"') rfl
  have columns : '"' ∉ [' '].intercalate ((textColumns schema place).map String.toList) := by
    cases place <;> simp [textColumns, List.intercalate_cons_cons, column]
  simp [matchSegments, column, columns, scopePlain, termPlain]

/-- Splitting at the quotes gives back what the query was made of. -/
theorem splitOn_matchQuery :
    (matchQuery schema place scopeTerm term).toList.splitOn '"' =
      (matchSegments schema place scopeTerm term).map String.toList := by
  rw [toList_matchQuery]
  apply List.splitOn_intercalate
  · exact quote_notMem_matchSegments valid scopePlain termPlain
  · simp [matchSegments]

/-- No quotes but the four that are put there. -/
theorem count_quote_matchQuery :
    (matchQuery schema place scopeTerm term).toList.count '"' = 4 := by
  have plain : ∀ segment ∈ (matchSegments schema place scopeTerm term).map String.toList,
      segment.count '"' = 0 := by
    intro segment mem
    rw [List.count_eq_zero]
    exact quote_notMem_matchSegments valid scopePlain termPlain segment mem
  rw [toList_matchQuery]
  simp only [matchSegments, List.map_cons, List.map_nil, List.forall_mem_cons] at plain ⊢
  simp only [List.intercalate_cons_cons, List.intercalate_singleton, List.count_append, plain,
    List.count_singleton_self]

/-- Equal queries are made of equal terms and search the same columns. -/
theorem matchQuery_inj {other : TextPlace} {otherScopeTerm otherTerm : String}
    (otherScopePlain : '"' ∉ otherScopeTerm.toList) (otherPlain : '"' ∉ otherTerm.toList)
    (same : matchQuery schema place scopeTerm term =
      matchQuery schema other otherScopeTerm otherTerm) :
    scopeTerm = otherScopeTerm ∧ textColumns schema place = textColumns schema other ∧
      term = otherTerm := by
  have segments : (matchQuery schema place scopeTerm term).toList.splitOn '"' =
      (matchSegments schema place scopeTerm term).map String.toList :=
    splitOn_matchQuery valid scopePlain termPlain
  rw [same, splitOn_matchQuery valid otherScopePlain otherPlain,
    List.map_inj_right fun _ _ => String.toList_inj.mp] at segments
  simp only [matchSegments, List.cons.injEq, String.append_left_inj, String.append_right_inj]
    at segments
  obtain ⟨_, scopes, columns, terms, _⟩ := segments
  exact ⟨scopes.symm, textColumns_of_intercalate_eq valid columns.symm, terms.symm⟩

end Names

/-! ## The leaf of a term -/

/-- A fragment is the full-text leaf of a scope, and this query is bound to its MATCH. -/
def IsFullTextLeaf (schema : Schema) (scope query : String) (fragment : Fragment) : Prop :=
  fragment.sql = "(d." ++ schema.name .documentScopeColumn ++ " = ? AND d." ++
      schema.name .documentIdColumn ++ " IN (SELECT " ++ schema.name .ftsDocumentIdColumn ++
      " FROM " ++ schema.name .ftsTable ++ " WHERE " ++ schema.name .ftsTable ++ " MATCH ?))" ∧
    fragment.params = [.text scope, .text query]

theorem Leaf.isFullTextLeaf_fragment (schema : Schema) (scope : String) (place : TextPlace)
    (scopeTerm term : String) :
    IsFullTextLeaf schema scope (matchQuery schema place scopeTerm term)
      ((fullText place scopeTerm term).fragment schema scope) := by
  constructor
  · rw [← String.toList_inj]
    simp [fragment, inScope]
  · simp [fragment, inScope]

/-- The full-text leaf starts with a parenthesis, so it is not constant. -/
theorem IsFullTextLeaf.isAlwaysFalse_eq_false {schema : Schema} {scope query : String}
    {fragment : Fragment} (leaf : IsFullTextLeaf schema scope query fragment) :
    fragment.isAlwaysFalse = false := by
  rw [Fragment.isAlwaysFalse, beq_eq_false_iff_ne]
  intro constant
  have characters := congrArg String.toList (leaf.1.symm.trans constant)
  simp at characters

namespace Compiler

variable (compiler : Compiler) {clause : Expression} {place : TextPlace} {value scope : String}

/-- A clause that asks for a term and is not constant has terms for its value and for the
scope, and becomes their leaf. -/
theorem exists_terms_of_asksFor (asks : clause.AsksFor place value)
    (answerable : (compiler.compile clause scope).fragment.isAlwaysFalse = false) :
    ∃ scopeTerm term, searchTerm? scope = some scopeTerm ∧ searchTerm? value = some term ∧
      (compiler.compile clause scope).fragment =
        (Leaf.fullText place scopeTerm term).fragment compiler.schema scope := by
  have never : (Condition.never.fragment compiler.schema scope).isAlwaysFalse = true := by
    rw [Condition.fragment]
    rfl
  rw [compile] at answerable ⊢
  rcases asks.condition_lower scope with lowered | lowered
  · rw [lowered] at answerable ⊢
    unfold lowerText at answerable ⊢
    split at answerable
    · next scopeTerm term scopeFound found =>
        rw [scopeFound, found]
        refine ⟨scopeTerm, term, rfl, rfl, ?_⟩
        rw [Condition.fragment]
    · rw [never] at answerable
      contradiction
  · rw [lowered, never] at answerable
    contradiction

/-- What is typed stays between the quotes it is put in.

- The query bound to MATCH has four quotes. Split at them, it is the term of the scope and
  the term of the value between syntax that names columns of the schema, and a star.
- Another clause with the same query, in the same schema, asks for the same term in the
  same columns, and the term of its scope is the same. -/
theorem match_parameter_confines_terms (asks : clause.AsksFor place value)
    (answerable : (compiler.compile clause scope).fragment.isAlwaysFalse = false) :
    ∃ scopeTerm term query,
      searchTerm? scope = some scopeTerm ∧ searchTerm? value = some term ∧
      IsFullTextLeaf compiler.schema scope query (compiler.compile clause scope).fragment ∧
      query.toList.count '"' = 4 ∧
      query.toList.splitOn '"' =
        [compiler.schema.name .ftsScopeColumn ++ ":", scopeTerm,
          " \x7b" ++ " ".intercalate (textColumns compiler.schema place) ++ "\x7d:", term,
          "*"].map String.toList ∧
      (∀ column ∈ compiler.schema.name .ftsScopeColumn :: textColumns compiler.schema place,
        isIdentifier column = true) ∧
      ∀ other otherPlace otherValue otherScope,
        Expression.AsksFor other otherPlace otherValue →
        IsFullTextLeaf compiler.schema otherScope query
          (compiler.compile other otherScope).fragment →
        searchTerm? otherScope = some scopeTerm ∧ searchTerm? otherValue = some term ∧
          textColumns compiler.schema otherPlace = textColumns compiler.schema place := by
  have valid := compiler.valid
  obtain ⟨scopeTerm, term, scopeFound, found, compiled⟩ :=
    compiler.exists_terms_of_asksFor asks answerable
  have scopePlain := quote_notMem_searchTerm scopeFound
  have plain := quote_notMem_searchTerm found
  refine ⟨scopeTerm, term, matchQuery compiler.schema place scopeTerm term, scopeFound, found,
    ?_, ?_, ?_, ?_, ?_⟩
  · rw [compiled]
    exact Leaf.isFullTextLeaf_fragment compiler.schema scope place scopeTerm term
  · exact count_quote_matchQuery valid scopePlain plain
  · exact splitOn_matchQuery valid scopePlain plain
  · rw [List.forall_mem_cons]
    exact ⟨compiler.schema.isIdentifier_name valid _,
      fun column mem => isIdentifier_of_mem_textColumns valid mem⟩
  · intro other otherPlace otherValue otherScope otherAsks leaf
    obtain ⟨otherScopeTerm, otherTerm, otherScopeFound, otherFound, otherCompiled⟩ :=
      compiler.exists_terms_of_asksFor otherAsks leaf.isAlwaysFalse_eq_false
    have otherLeaf := Leaf.isFullTextLeaf_fragment compiler.schema otherScope otherPlace
      otherScopeTerm otherTerm
    rw [← otherCompiled] at otherLeaf
    have params := leaf.2.symm.trans otherLeaf.2
    simp only [List.cons.injEq, Param.text.injEq] at params
    obtain ⟨rfl, columns, rfl⟩ := matchQuery_inj valid scopePlain plain
      (quote_notMem_searchTerm otherScopeFound) (quote_notMem_searchTerm otherFound) params.2.1
    exact ⟨otherScopeFound, otherFound, columns.symm⟩

/-- Quotes that would close a phrase and start a query of another column are gone from the
term and from the scope. -/
theorem match_parameter_confines_hostile_terms :
    let value := "\u201Cx\" OR name:\"y* \""
    let clause := Expression.text value
    let scope := "org\"1 "
    clause.AsksFor .nameOrContent value ∧
      (standard.compile clause scope).fragment.isAlwaysFalse = false ∧
      ∃ query, IsFullTextLeaf standard.schema scope query (standard.compile clause scope).fragment ∧
        query.toList.splitOn '"' =
          ["organization_id:", "org1", " \x7bname content\x7d:", "x OR name:y*", "*"].map
            String.toList := by
  intro value clause scope
  have scopeFound : searchTerm? scope = some "org1" := by decide +kernel
  have found : searchTerm? value = some "x OR name:y*" := by decide +kernel
  have asks : clause.AsksFor .nameOrContent value := .text value
  have answerable : (standard.compile clause scope).fragment.isAlwaysFalse = false := by
    rw [compile, Expression.lower_text, Lowered.condition_clean, lowerText, scopeFound, found,
      Condition.fragment]
    exact (Leaf.isFullTextLeaf_fragment _ _ _ _ _).isAlwaysFalse_eq_false
  obtain ⟨scopeTerm, term, query, sameScope, same, leaf, _, split, _⟩ :=
    standard.match_parameter_confines_terms asks answerable
  rw [scopeFound, Option.some_inj] at sameScope
  rw [found, Option.some_inj] at same
  subst sameScope same
  exact ⟨asks, answerable, query, leaf, split⟩

end Compiler

end Sql

end SearchQuery
