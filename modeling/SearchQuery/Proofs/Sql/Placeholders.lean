import SearchQuery.Proofs.Diagnosis
import SearchQuery.Proofs.Sql.Isolation

/-!
# Placeholders and their parameters

A database binds the first parameter to the first placeholder of a text, the second to
the second, and so on. `Fragment.boundText` writes this down: it is the text with the
parameter of every placeholder beside it. A fragment is aligned if no placeholder and no
parameter is left over.

The texts of aligned fragments can be put together without any placeholder changing its
parameter (`boundText_concat`, `boundText_separated`). The names of a valid schema hold
no placeholder, so everything that is compiled is aligned.
-/

namespace SearchQuery.Sql

/-! ## Binding from left to right -/

/-- A text in which the k-th placeholder has the k-th parameter beside it, and no other
character has one. -/
def bindPlaceholders (text : List Char) (params : List Param) : List (Char × Option Param) :=
  text.mapIdx fun position c =>
    (c, if c = '?' then params[(text.take position).count '?']? else none)

/-- A text that no parameter is bound to. -/
def unbound (text : String) : List (Char × Option Param) :=
  text.toList.map fun c => (c, none)

@[simp]
theorem unbound_append (first second : String) :
    unbound (first ++ second) = unbound first ++ unbound second := by
  simp [unbound]

theorem bindPlaceholders_of_notMem {text : List Char} (plain : '?' ∉ text)
    (params : List Param) : bindPlaceholders text params = text.map fun c => (c, none) := by
  unfold bindPlaceholders
  apply List.ext_getElem
  · simp
  · intro position _ inside
    rw [List.length_map] at inside
    rw [List.getElem_mapIdx, List.getElem_map,
      if_neg (ne_of_mem_of_not_mem (List.getElem_mem inside) plain)]

/-- A placeholder counts among all, but not among those before it. -/
theorem count_take_lt_count {text : List Char} {position : Nat} (inside : position < text.length)
    (placeholder : text[position] = '?') :
    (text.take position).count '?' < text.count '?' := by
  calc
    (text.take position).count '?' < (text.take position).count '?' +
        (text.drop position).count '?' := by
      rw [List.drop_eq_getElem_cons inside, placeholder, List.count_cons_self]
      omega
    _ = text.count '?' := by
      rw [← List.count_append, List.take_append_drop]

/-- If the first text takes exactly its own parameters, the second takes its own too. -/
theorem bindPlaceholders_append {first : List Char} {params : List Param}
    (aligned : first.count '?' = params.length) (second : List Char) (more : List Param) :
    bindPlaceholders (first ++ second) (params ++ more) =
      bindPlaceholders first params ++ bindPlaceholders second more := by
  unfold bindPlaceholders
  rw [List.mapIdx_append]
  congr 1
  · rw [List.mapIdx_eq_mapIdx_iff]
    intro position inside
    rw [List.take_append_of_le_length (Nat.le_of_lt inside)]
    split_ifs with placeholder
    · have bound := count_take_lt_count inside placeholder
      rw [aligned] at bound
      rw [List.getElem?_append_left bound]
    · rfl
  · rw [List.mapIdx_eq_mapIdx_iff]
    intro position inside
    rw [Nat.add_comm position, List.take_length_add_append, List.count_append, aligned,
      List.getElem?_append_right (Nat.le_add_right _ _), Nat.add_sub_cancel_left]

namespace Fragment

/-- There is one parameter for each placeholder. -/
def IsAligned (fragment : Fragment) : Prop :=
  fragment.sql.toList.count '?' = fragment.params.length

/-- The text of a fragment with the parameters that its placeholders take. -/
def boundText (fragment : Fragment) : List (Char × Option Param) :=
  bindPlaceholders fragment.sql.toList fragment.params

/-! ## Fragments put together -/

@[simp]
theorem isAligned_text {sql : String} : (text sql).IsAligned ↔ '?' ∉ sql.toList := by
  simp [IsAligned, List.count_eq_zero]

@[simp]
theorem isAligned_bind (param : Param) : (bind param).IsAligned := by
  rw [IsAligned, sql_bind, params_bind]
  rfl

theorem boundText_text {sql : String} (plain : '?' ∉ sql.toList) :
    (text sql).boundText = unbound sql := by
  rw [boundText, sql_text, bindPlaceholders_of_notMem plain, unbound]

theorem boundText_bind (param : Param) : (bind param).boundText = [('?', some param)] := by
  rw [boundText, sql_bind, params_bind]
  rfl

theorem isAligned_concat {parts : List Fragment} (aligned : ∀ part ∈ parts, part.IsAligned) :
    (concat parts).IsAligned := by
  rw [IsAligned, toList_sql_concat, params_concat]
  induction parts with
  | nil => rfl
  | cons part parts ih =>
      rw [List.forall_mem_cons] at aligned
      rw [List.flatMap_cons, List.flatMap_cons, List.count_append, List.length_append, aligned.1,
        ih aligned.2]

/-- Concatenation leaves every placeholder with its parameter. -/
theorem boundText_concat {parts : List Fragment} (aligned : ∀ part ∈ parts, part.IsAligned) :
    (concat parts).boundText = parts.flatMap boundText := by
  rw [boundText, toList_sql_concat, params_concat]
  induction parts with
  | nil => rfl
  | cons part parts ih =>
      rw [List.forall_mem_cons] at aligned
      rw [List.flatMap_cons, List.flatMap_cons, List.flatMap_cons,
        bindPlaceholders_append aligned.1, ih aligned.2]
      rfl

theorem separated_cons_cons (separator : String) (first second : Fragment)
    (rest : List Fragment) :
    separated separator (first :: second :: rest) =
      concat [first, separator, separated separator (second :: rest)] := by
  simp [separated, concat, String.append_assoc]

section Separated

variable {separator : String} (plain : '?' ∉ separator.toList) {parts : List Fragment}
  (aligned : ∀ part ∈ parts, part.IsAligned)
include plain aligned

theorem isAligned_separated : (separated separator parts).IsAligned := by
  induction parts with
  | nil => rfl
  | cons first rest ih =>
      rw [List.forall_mem_cons] at aligned
      cases rest with
      | nil => simpa [separated, IsAligned] using aligned.1
      | cons second rest =>
          rw [separated_cons_cons]
          apply isAligned_concat
          simp [isAligned_text.mpr plain, aligned.1, ih aligned.2]

/-- A separator without placeholders leaves every placeholder with its parameter. -/
theorem boundText_separated :
    (separated separator parts).boundText =
      (unbound separator).intercalate (parts.map boundText) := by
  induction parts with
  | nil => rfl
  | cons first rest ih =>
      rw [List.forall_mem_cons] at aligned
      cases rest with
      | nil => simp [separated, boundText]
      | cons second rest =>
          have others := isAligned_separated plain aligned.2
          rw [separated_cons_cons, boundText_concat]
          · simp [boundText_text plain, ih aligned.2]
          · simp [isAligned_text.mpr plain, aligned.1, others]

end Separated

end Fragment

/-! ## What is compiled -/

open Fragment

theorem notMem_keyword (connective : Connective) :
    '?' ∉ (" " ++ connective.keyword ++ " ").toList := by
  cases connective <;> decide

/-- The constant of a rejected clause has no placeholder. -/
theorem Condition.boundText_never (schema : Schema) (scope : String) :
    (Condition.never.fragment schema scope).boundText = unbound "0" := by
  rw [fragment]
  rfl

section Conditions

variable {schema : Schema} (valid : schema.validate = .ok ()) (scope : String)
include valid

/-- The names of a valid schema hold no placeholder. -/
theorem isAligned_name (setting : Setting) : (text (schema.name setting)).IsAligned := by
  rw [isAligned_text]
  intro mem
  have identifierChar := isIdentifierChar_of_mem (schema.isIdentifier_name valid setting) mem
  contradiction

theorem Leaf.isAligned_inScope : (inScope schema scope).IsAligned := by
  apply isAligned_concat
  simp +decide [isAligned_name valid]

theorem Leaf.isAligned_tagMembership {further : Fragment} (aligned : further.IsAligned) :
    (tagMembership schema scope further).IsAligned := by
  apply isAligned_concat
  simp +decide [isAligned_name valid, aligned]

/-- Every leaf has a parameter for each placeholder, be it one, two or three. -/
theorem Leaf.isAligned_fragment (leaf : Leaf) : (leaf.fragment schema scope).IsAligned := by
  cases leaf with
  | fullText _ _ _ | createdOn _ =>
      apply isAligned_concat
      simp +decide [isAligned_name valid, isAligned_inScope valid]
  | created comparison _ =>
      have symbol : (text comparison.symbol).IsAligned := by
        cases comparison <;> rfl
      apply isAligned_concat
      simp +decide [isAligned_name valid, isAligned_inScope valid, symbol]
  | hasTags =>
      apply isAligned_tagMembership valid
      rfl
  | tagged name id =>
      cases id with
      | none | some _ =>
          apply isAligned_tagMembership valid
          apply isAligned_concat
          simp +decide [isAligned_name valid]

/-- Every condition has a parameter for each placeholder. -/
theorem Condition.isAligned_fragment (condition : Condition) :
    (condition.fragment schema scope).IsAligned := by
  induction condition using Condition.induction with
  | always | never =>
      rw [fragment]
      rfl
  | leaf question =>
      rw [fragment]
      exact question.isAligned_fragment valid scope
  | junction connective operands ih =>
      have operandsAligned := isAligned_separated (notMem_keyword connective)
        (List.forall_mem_map.mpr ih)
      rw [fragment]
      apply isAligned_concat
      simp +decide [operandsAligned]
  | negation operand ih =>
      rw [fragment]
      apply isAligned_concat
      simp +decide [ih]

/-- Around the operands of a junction stand only characters that take no parameter. -/
theorem Condition.boundText_junction (connective : Connective) (operands : List Condition) :
    ((Condition.junction connective operands).fragment schema scope).boundText =
      unbound "(" ++ (unbound (" " ++ connective.keyword ++ " ")).intercalate
        (operands.map fun operand => (operand.fragment schema scope).boundText) ++
      unbound ")" := by
  have each : ∀ part ∈ operands.map (fragment schema scope), part.IsAligned :=
    List.forall_mem_map.mpr fun operand _ => operand.isAligned_fragment valid scope
  have operandsAligned := isAligned_separated (notMem_keyword connective) each
  rw [fragment, boundText_concat]
  · simp +decide [boundText_text, boundText_separated (notMem_keyword connective) each,
      Function.comp_def]
  · simp +decide [operandsAligned]

theorem Condition.boundText_negation (operand : Condition) :
    ((Condition.negation operand).fragment schema scope).boundText =
      unbound "NOT (" ++ (operand.fragment schema scope).boundText ++ unbound ")" := by
  have aligned := operand.isAligned_fragment valid scope
  rw [fragment, boundText_concat]
  · simp +decide [boundText_text]
  · simp +decide [aligned]

end Conditions

/-- The bound text of a connective, made of those of its operands. Without operands it
is the constant of a rejected clause, and a single operand is left as it is. -/
def joinedText (connective : Connective) :
    List (List (Char × Option Param)) → List (Char × Option Param)
  | [] => unbound "0"
  | [operand] => operand
  | operands =>
      unbound "(" ++ (unbound (" " ++ connective.keyword ++ " ")).intercalate operands ++
        unbound ")"

/-- The bound text of a chain of negations, made of that of the expression under it. An
invalid clause inside takes all of it away, its parameters included. -/
def negatedText (degraded : Bool) (negations : Nat) (operand : List (Char × Option Param)) :
    List (Char × Option Param) :=
  if degraded then unbound "0"
  else if negations % 2 = 0 then operand
  else unbound "NOT (" ++ operand ++ unbound ")"

namespace Compiler

variable (compiler : Compiler) (scope : String)

theorem isAligned_compile (expression : Expression) :
    (compiler.compile expression scope).fragment.IsAligned :=
  Condition.isAligned_fragment compiler.valid scope _

/-- In the text of a connective every placeholder keeps the parameter that it has in the
text of its operand. -/
theorem boundText_compile_connect (connective : Connective) (operands : List Expression) :
    (compiler.compile (.connect connective operands) scope).fragment.boundText =
      joinedText connective
        (operands.map fun operand => (compiler.compile operand scope).fragment.boundText) := by
  match operands with
  | [] =>
      rw [compile, Expression.lower_connect_nil]
      exact Condition.boundText_never _ _
  | [operand] =>
      rw [compile, Expression.lower_connect scope connective (List.cons_ne_nil _ _)]
      rfl
  | first :: second :: rest =>
      rw [compile, Expression.lower_connect scope connective (List.cons_ne_nil _ _),
        List.map_cons, List.map_cons, Lowered.join_cons_cons]
      simp only [Condition.boundText_junction compiler.valid]
      simp [joinedText, compile, Function.comp_def]

/-- In the text of a negation every placeholder keeps the parameter that it has in the
text of the expression under the chain. -/
theorem boundText_compile_not (operand : Expression) :
    (compiler.compile (.not operand) scope).fragment.boundText =
      negatedText (Expression.not operand).isDegraded (operand.peel.1 + 1)
        (compiler.compile operand.peel.2 scope).fragment.boundText := by
  have chain : Expression.not operand = .negate (operand.peel.1 + 1) operand.peel.2 := by
    rw [← Expression.not_negate, Expression.negate_peel]
  rw [chain]
  rcases operand.peel_eq_empty_or_isChainBase with isEmpty | isBase
  · rw [isEmpty, compile, Expression.lower_negate_empty, Expression.isDegraded_negate_empty,
      negatedText, if_pos rfl]
    exact Condition.boundText_never _ _
  · rw [compile, Expression.lower_negate scope isBase, Expression.isDegraded_negate isBase,
      ← Expression.degraded_lower scope, Lowered.under, if_neg (Nat.succ_ne_zero _), negatedText]
    split_ifs with degraded even
    · exact Condition.boundText_never _ _
    · rfl
    · exact Condition.boundText_negation compiler.valid scope _

theorem isAligned_selectFragment {fragment : Fragment} (aligned : fragment.IsAligned) :
    (selectFragment compiler.schema scope fragment).IsAligned := by
  apply isAligned_concat
  simp +decide [isAligned_name compiler.valid, Leaf.isAligned_inScope compiler.valid, aligned]

/-- A statement binds the scope to its first placeholder, and then what its fragment
binds. -/
theorem boundText_selectFragment {fragment : Fragment} (aligned : fragment.IsAligned) :
    (selectFragment compiler.schema scope fragment).boundText =
      unbound ("SELECT d." ++ compiler.schema.name .documentIdColumn ++ " FROM " ++
          compiler.schema.name .documentsTable ++ " AS d WHERE d." ++
          compiler.schema.name .documentScopeColumn ++ " = ") ++
        [('?', some (.text scope))] ++ unbound " AND (" ++ fragment.boundText ++ unbound ")" := by
  have name := fun setting => isAligned_text.mp (isAligned_name compiler.valid setting)
  have comparison : (Leaf.inScope compiler.schema scope).boundText =
      unbound ("d." ++ compiler.schema.name .documentScopeColumn ++ " = ") ++
        [('?', some (.text scope))] := by
    rw [Leaf.inScope, boundText_concat]
    · simp +decide [boundText_text, boundText_bind, name]
    · simp +decide [isAligned_name compiler.valid]
  have spelled : unbound " AS d WHERE d." = unbound " AS d WHERE " ++ unbound "d." := rfl
  rw [selectFragment, boundText_concat]
  · simp +decide [boundText_text, name, comparison, spelled]
  · simp +decide [isAligned_name compiler.valid, Leaf.isAligned_inScope compiler.valid, aligned]

/-- Placeholders and parameters line up.

- A fragment has as many placeholders as parameters, and so has a statement, which binds
  the scope first and then what its fragment binds.
- Joining operands leaves every placeholder with the parameter that it has in the text of
  its operand, whichever operands have no parameters.
- So does a chain of negations, unless it stands over an invalid clause: then neither text
  nor parameters are left. -/
theorem placeholders_keep_parameters (expression : Expression) :
    let fragment := fun expression => (compiler.compile expression scope).fragment
    let statement := compiler.statement expression scope
    (fragment expression).IsAligned ∧
      Fragment.IsAligned ⟨statement.sql, statement.params⟩ ∧
      Fragment.boundText ⟨statement.sql, statement.params⟩ =
        unbound ("SELECT d." ++ compiler.schema.name .documentIdColumn ++ " FROM " ++
            compiler.schema.name .documentsTable ++ " AS d WHERE d." ++
            compiler.schema.name .documentScopeColumn ++ " = ") ++
          [('?', some (.text scope))] ++ unbound " AND (" ++ (fragment expression).boundText ++
          unbound ")" ∧
      (∀ connective operands,
        (fragment (.connect connective operands)).boundText =
          joinedText connective (operands.map fun operand => (fragment operand).boundText)) ∧
      ∀ operand,
        (fragment (.not operand)).boundText =
          negatedText (Expression.not operand).isDegraded (operand.peel.1 + 1)
            (fragment operand.peel.2).boundText := by
  intro fragment statement
  have aligned := compiler.isAligned_compile scope expression
  refine ⟨aligned, compiler.isAligned_selectFragment scope aligned,
    compiler.boundText_selectFragment scope aligned, ?_, ?_⟩
  · exact compiler.boundText_compile_connect scope
  · exact compiler.boundText_compile_not scope

end Compiler

end SearchQuery.Sql
