import SearchQuery.Proofs.Sql.Formula
import SearchQuery.Proofs.Sql.Truth
import SearchQuery.Sql.Compiler

/-!
# Conditions as they are read

A condition written for a valid schema is read back as it is built: every leaf as the
items of its template with the parameters in their places, every junction as one
group, and every negation as NOT before one group.
-/

namespace SearchQuery.Sql

open Grammar

/-- A character of an identifier is part of a word. -/
theorem boundary?_of_isIdentifierChar {c : Char} (identifierChar : isIdentifierChar c = true) :
    boundary? c = none := by
  unfold boundary?
  split
  · exact absurd identifierChar (by decide)
  · exact absurd identifierChar (by decide)
  · exact absurd identifierChar (by decide)
  · exact absurd identifierChar (by decide)
  · rfl

/-- Words as items. -/
def Grammar.words (texts : List String) : List Item :=
  texts.map fun text => .word text.toList

namespace Leaf

/-- The comparison of a scope column with the scope. -/
def scopeComparison (column scope : String) : List Item :=
  words [column, "="] ++ [.value (.text scope)]

/-- The comparison of the scope column of the documents table with the scope. -/
def scopeItems (schema : Schema) (scope : String) : List Item :=
  scopeComparison ("d." ++ schema.name .documentScopeColumn) scope

/-- The items of a tag sub-query that ends with further items. -/
def tagItems (schema : Schema) (scope : String) (further : List Item) : List Item :=
  words ["d." ++ schema.name .documentIdColumn, "IN"] ++
    [.group (words ["SELECT", "dt." ++ schema.name .documentTagsDocumentColumn, "FROM",
          schema.name .documentTagsTable, "AS", "dt", "JOIN", schema.name .tagsTable, "AS", "t",
          "ON", "t." ++ schema.name .tagIdColumn, "=",
          "dt." ++ schema.name .documentTagsTagColumn, "WHERE"] ++
        scopeComparison ("t." ++ schema.name .tagScopeColumn) scope ++ further)]

/-- The items of a leaf. -/
def items (schema : Schema) (scope : String) : Leaf → List Item
  | fullText place scopeTerm term =>
      [.group (scopeItems schema scope ++
        words ["AND", "d." ++ schema.name .documentIdColumn, "IN"] ++
          [.group (words ["SELECT", schema.name .ftsDocumentIdColumn, "FROM",
              schema.name .ftsTable, "WHERE", schema.name .ftsTable, "MATCH"] ++
            [.value (.text (matchQuery schema place scopeTerm term))])])]
  | tagged name none =>
      tagItems schema scope
        (words ["AND", "t." ++ schema.name .tagNameColumn, "="] ++ [.value (.text name)])
  | tagged name (some id) =>
      tagItems schema scope (words ["AND"] ++
        [.group (words ["lower"] ++ [.group (words ["t." ++ schema.name .tagIdColumn])] ++
          words ["="] ++ [.value (.text id.text)] ++
          words ["OR", "t." ++ schema.name .tagNameColumn, "="] ++ [.value (.text name)])])
  | hasTags => tagItems schema scope []
  | createdOn day =>
      [.group (scopeItems schema scope ++
        words ["AND", "d." ++ schema.name .createdAtColumn, ">="] ++
          [.value (.integer day.millisRange.1)] ++
        words ["AND", "d." ++ schema.name .createdAtColumn, "<"] ++
          [.value (.integer day.millisRange.2)])]
  | created comparison instant =>
      [.group (scopeItems schema scope ++
        words ["AND", "d." ++ schema.name .createdAtColumn, comparison.symbol] ++
          [.value (.integer instant.millis)])]

end Leaf

/-! ## Fragments made of fragments -/

theorem symbols_parenthesized (text : List Char) :
    symbols ('(' :: text ++ [')']) = .opening :: symbols text ++ [.closing] := by
  rw [List.cons_append, symbols_cons_boundary rfl, symbols_append_boundary rfl]
  rfl

theorem symbols_keyword (connective : Connective) :
    symbols connective.keyword.toList = [.word connective.keyword.toList] := by
  cases connective <;> rfl

/-- Between spaces, the keyword of a connective is a word of its own. -/
theorem symbols_append_keyword (connective : Connective) (left right : List Char) :
    symbols (left ++ (" " ++ connective.keyword ++ " ").toList ++ right) =
      symbols left ++ [.word connective.keyword.toList] ++ symbols right := by
  have spelled : left ++ (" " ++ connective.keyword ++ " ").toList ++ right =
      left ++ ' ' :: (connective.keyword.toList ++ ' ' :: right) := by
    simp
  rw [spelled, symbols_append_boundary rfl, symbols_append_boundary rfl, symbols_keyword]
  simp

/-- Fragments separated by a connective are read as their items joined by it. -/
theorem reads_separated (connective : Connective) {parts : List Fragment}
    {items : List (List Item)} (reads : List.Forall₂ Fragment.Reads parts items) :
    (Fragment.separated (" " ++ connective.keyword ++ " ") parts).Reads
      (joined connective items) := by
  unfold Fragment.Reads
  rw [Fragment.toList_sql_separated, Fragment.params_separated, joined]
  induction reads with
  | nil => exact .nil
  | cons first rest ih =>
      cases rest with
      | nil => simpa [Fragment.Reads] using first
      | cons second rest =>
          have keyword : Reads [.word connective.keyword.toList] []
              [.word connective.keyword.toList] := .word _
          have joinedReads := (Reads.append first keyword).append ih
          simp only [List.map_cons, List.flatMap_cons, List.intercalate_cons_cons] at joinedReads ⊢
          rw [symbols_append_keyword]
          simpa using joinedReads

/-- Parentheses around a fragment are read as a group of its items. -/
theorem reads_parenthesized {fragment : Fragment} {items : List Item}
    (reads : fragment.Reads items) :
    (Fragment.concat ["(", fragment, ")"]).Reads [.group items] := by
  have spelled : (Fragment.concat ["(", fragment, ")"]).sql.toList =
      '(' :: fragment.sql.toList ++ [')'] := by
    simp
  rw [Fragment.Reads, spelled, symbols_parenthesized]
  simpa using Reads.group reads

/-- NOT before a fragment in parentheses is a word before a group. -/
theorem reads_negated {fragment : Fragment} {items : List Item} (reads : fragment.Reads items) :
    (Fragment.concat ["NOT (", fragment, ")"]).Reads [.word ['N', 'O', 'T'], .group items] := by
  have spelled : (Fragment.concat ["NOT (", fragment, ")"]).sql.toList =
      ['N', 'O', 'T'] ++ ' ' :: ('(' :: fragment.sql.toList ++ [')']) := by
    simp
  have word : symbols ['N', 'O', 'T'] = [.word ['N', 'O', 'T']] := rfl
  have keyword : Reads [.word ['N', 'O', 'T']] [] [.word ['N', 'O', 'T']] := .word _
  rw [Fragment.Reads, spelled, symbols_append_boundary rfl, symbols_parenthesized, word]
  simpa using keyword.append (Reads.group reads)

/-- Fragments with a space between them are read one after the other. -/
theorem reads_spaced {first second : Fragment} {firstItems secondItems : List Item}
    (readsFirst : first.Reads firstItems) (readsSecond : second.Reads secondItems) :
    (Fragment.concat [first, " ", second]).Reads (firstItems ++ secondItems) := by
  have spelled : (Fragment.concat [first, " ", second]).sql.toList =
      first.sql.toList ++ ' ' :: second.sql.toList := by
    simp
  rw [Fragment.Reads, spelled, symbols_append_boundary rfl]
  simpa using Reads.append readsFirst readsSecond

/-- What follows a placeholder is read apart from it. -/
theorem reads_afterValue {first second : Fragment} {param : Param}
    {firstItems secondItems : List Item}
    (readsFirst : (Fragment.concat [first, .bind param]).Reads firstItems)
    (readsSecond : second.Reads secondItems) :
    (Fragment.concat [first, .bind param, second]).Reads (firstItems ++ secondItems) := by
  have spelledFirst : (Fragment.concat [first, .bind param]).sql.toList =
      first.sql.toList ++ '?' :: [] := by
    simp
  have spelled : (Fragment.concat [first, .bind param, second]).sql.toList =
      first.sql.toList ++ '?' :: second.sql.toList := by
    simp
  rw [Fragment.Reads, spelledFirst, symbols_append_boundary rfl] at readsFirst
  rw [Fragment.Reads, spelled, symbols_append_boundary rfl]
  simpa using Reads.append readsFirst readsSecond

/-! ## Names as words -/

section Names

variable {schema : Schema} (valid : schema.validate = .ok ())
include valid

theorem inWord_name (setting : Setting) : InWord (schema.name setting).toList := by
  intro c mem
  exact boundary?_of_isIdentifierChar
    (isIdentifierChar_of_mem (schema.isIdentifier_name valid setting) mem)

theorem scan_name (setting : Setting) (rest : List Char) :
    scan ((schema.name setting).toList ++ rest) =
      ((schema.name setting).toList ++ (scan rest).1, (scan rest).2) :=
  scan_append_of_inWord (inWord_name valid setting) rest

theorem withWord_name (setting : Setting) (rest : List Symbol) :
    withWord (schema.name setting).toList rest = .word (schema.name setting).toList :: rest := by
  obtain ⟨c, others, whole, _⟩ := isIdentifier_iff.mp (schema.isIdentifier_name valid setting)
  rw [whole, withWord_cons]

end Names

/-! ## Leaves -/

section Leaves

variable {schema : Schema} (valid : schema.validate = .ok ()) (scope : String)
include valid

/-- The comparison with the scope is read as such. -/
theorem Leaf.reads_inScope : (inScope schema scope).Reads (scopeItems schema scope) := by
  intro enclosing current rest
  simp [inScope, scopeItems, scopeComparison, words, symbols, scan, boundary?, scan_name valid,
    State.run, State.step]

-- Templates are executed symbol by symbol, so the recursion is as deep as they are long.
set_option maxRecDepth 10000 in
/-- A tag sub-query is read as its template, whatever the further condition is. -/
theorem Leaf.reads_tagMembership {further : Fragment} {items : List Item}
    (reads : further.Reads items) :
    (tagMembership schema scope further).Reads (tagItems schema scope items) := by
  have column : (Fragment.concat ["d.", schema.name .documentIdColumn, " IN"]).Reads
      (words ["d." ++ schema.name .documentIdColumn, "IN"]) := by
    intro enclosing current rest
    simp [words, symbols, scan, boundary?, scan_name valid, State.run, State.step]
  have source : (Fragment.concat [.concat ["SELECT dt.", schema.name .documentTagsDocumentColumn,
        " FROM ", schema.name .documentTagsTable, " AS dt JOIN ", schema.name .tagsTable,
        " AS t ON t.", schema.name .tagIdColumn, " = dt.", schema.name .documentTagsTagColumn,
        " WHERE t.", schema.name .tagScopeColumn, " = "], .bind (.text scope)]).Reads
      (words ["SELECT", "dt." ++ schema.name .documentTagsDocumentColumn, "FROM",
          schema.name .documentTagsTable, "AS", "dt", "JOIN", schema.name .tagsTable, "AS", "t",
          "ON", "t." ++ schema.name .tagIdColumn, "=",
          "dt." ++ schema.name .documentTagsTagColumn, "WHERE"] ++
        scopeComparison ("t." ++ schema.name .tagScopeColumn) scope) := by
    intro enclosing current rest
    simp [scopeComparison, words, symbols, scan, boundary?, scan_name valid, withWord_name valid,
      State.run, State.step]
  have whole := reads_spaced column (reads_parenthesized (reads_afterValue source reads))
  unfold Fragment.Reads at whole ⊢
  simpa [tagMembership, tagItems] using whole

set_option maxRecDepth 10000 in
/-- Every leaf is read as the items of its template. -/
theorem Leaf.reads_fragment (leaf : Leaf) :
    (leaf.fragment schema scope).Reads (leaf.items schema scope) := by
  cases leaf with
  | fullText _ _ _ | createdOn _ =>
      intro enclosing current rest
      simp [fragment, items, inScope, scopeItems, scopeComparison, words, symbols, scan, boundary?,
        scan_name valid, withWord_name valid, State.run, State.step]
  | created comparison _ =>
      intro enclosing current rest
      cases comparison <;>
        simp [fragment, items, inScope, scopeItems, scopeComparison, words, symbols, scan,
          boundary?, scan_name valid, Comparison.symbol, State.run, State.step]
  | hasTags =>
      apply reads_tagMembership valid scope
      exact Reads.nil
  | tagged name id =>
      cases id with
      | none | some _ =>
          apply reads_tagMembership valid scope
          intro enclosing current rest
          simp [words, symbols, scan, boundary?, scan_name valid, State.run, State.step]

end Leaves

/-! ## Conditions -/

/-- The items of a condition. -/
def Condition.items (schema : Schema) (scope : String) : Condition → List Item
  | .always => [.word ['1']]
  | .never => [.word ['0']]
  | .leaf question => question.items schema scope
  | .junction connective operands =>
      [.group (joined connective (operands.map (items schema scope)))]
  | .negation operand => [.word ['N', 'O', 'T'], .group (operand.items schema scope)]

section Conditions

variable {schema : Schema} (valid : schema.validate = .ok ()) (scope : String)

include valid in
/-- A condition is read as it is built. -/
theorem Condition.reads_fragment (condition : Condition) :
    (condition.fragment schema scope).Reads (condition.items schema scope) := by
  induction condition using Condition.induction with
  | always =>
      have symbol : Reads [.word ['1']] [] [.word ['1']] := .word _
      rw [fragment, items]
      exact symbol
  | never =>
      have symbol : Reads [.word ['0']] [] [.word ['0']] := .word _
      rw [fragment, items]
      exact symbol
  | leaf question =>
      rw [fragment, items]
      exact question.reads_fragment valid scope
  | junction connective operands ih =>
      rw [fragment, items]
      apply reads_parenthesized
      apply reads_separated
      rw [List.forall₂_map_left_iff, List.forall₂_map_right_iff, List.forall₂_same]
      exact ih
  | negation operand ih =>
      rw [fragment, items]
      exact reads_negated ih

/-- A column of the documents table, an operator and what it is compared with make one
operand, whatever the name of the column is. -/
theorem isOperand_comparison (name operator : String) (last : Item)
    (operatorPlain : ∀ connective, Item.isKeyword connective (.word operator.toList) = false)
    (lastPlain : ∀ connective, last.isKeyword connective = false) :
    IsOperand (words ["d." ++ name, operator] ++ [last]) := by
  intro item mem connective
  simp only [words, List.map_cons, List.map_nil, List.cons_append, List.nil_append,
    List.mem_cons, List.not_mem_nil, or_false] at mem
  rcases mem with rfl | rfl | rfl
  · cases connective <;> simp [Item.isKeyword, Connective.keyword]
  · exact operatorPlain connective
  · exact lastPlain connective

theorem Leaf.isOperand_tagItems (further : List Item) :
    IsOperand (tagItems schema scope further) := by
  apply isOperand_comparison
  · intro connective
    cases connective <;> rfl
  · intro connective
    rfl

/-- No leaf shows a connective outside parentheses. -/
theorem Leaf.isOperand_items (leaf : Leaf) : IsOperand (leaf.items schema scope) := by
  cases leaf with
  | fullText _ _ _ | createdOn _ | created _ _ => exact isOperand_group _
  | hasTags => exact isOperand_tagItems scope _
  | tagged _ id =>
      cases id with
      | none => exact isOperand_tagItems scope _
      | some _ => exact isOperand_tagItems scope _

theorem Condition.isOperand_items (condition : Condition) :
    IsOperand (condition.items schema scope) := by
  cases condition with
  | always | never =>
      intro item mem connective
      rw [items, List.mem_singleton] at mem
      subst item
      cases connective <;> rfl
  | leaf question =>
      rw [items]
      exact question.isOperand_items scope
  | junction connective operands =>
      rw [items]
      exact isOperand_group _
  | negation operand =>
      rw [items]
      exact isOperand_negation _

/-- Read as SQL, a proper condition has the value of the formula it is. -/
theorem Condition.truth_items (comparison : List Item → Bool) {condition : Condition}
    (proper : condition.IsProper) :
    truth comparison (condition.items schema scope) =
      condition.eval fun leaf => truth comparison (leaf.items schema scope) := by
  induction proper with
  | always =>
      rw [items, eval]
      rfl
  | never =>
      rw [items, eval]
      rfl
  | leaf question => rw [items, eval]
  | junction connective two proper ih =>
      rw [items, truth_group, truth_joined, List.map_map, eval]
      · exact congrArg connective.value (List.map_congr_left ih)
      · intro noOperands
        rw [List.map_eq_nil_iff] at noOperands
        rw [noOperands] at two
        contradiction
      · intro items mem
        obtain ⟨operand, _, rfl⟩ := List.mem_map.mp mem
        exact operand.isOperand_items scope
  | negation proper ih => rw [items, truth_negation, ih, eval]

include valid in
/-- The SQL of a proper condition has the value of the formula it is, when every leaf
has the value of its own SQL. -/
theorem Condition.truth?_fragment (comparison : List Item → Bool) {condition : Condition}
    (proper : condition.IsProper) :
    (condition.fragment schema scope).truth? comparison =
      some (condition.eval fun leaf => truth comparison (leaf.items schema scope)) := by
  rw [(condition.reads_fragment valid scope).truth?_eq_some, truth_items scope comparison proper]

end Conditions

end SearchQuery.Sql
