import SearchQuery.Proofs.Derivation
import SearchQuery.Proofs.Sql.Lowering

/-!
# The height of a query

The height of an expression is the number of nodes on its longest path. An expression that
is derived in the grammar has at most one negation, one conjunction and one disjunction
for each group and for the query itself, so what is read has a height that does not depend
on the length of the query. Lowering does not make a tree higher.
-/

namespace SearchQuery

namespace Expression

/-- The expressions right below the root. -/
def children : Expression → List Expression
  | .empty | .text _ | .filter _ _ _ => []
  | .and operands | .or operands => operands
  | .not operand => [operand]

/-- The number of nodes on the longest path from the root. -/
def height : Expression → Nat
  | .empty | .text _ | .filter _ _ _ => 1
  | .and operands | .or operands => (operands.map height).foldr max 0 + 1
  | .not operand => operand.height + 1

/-- Each node of a path is a child of the one before it. -/
def IsPath (nodes : List Expression) : Prop :=
  nodes.IsChain fun parent child => child ∈ parent.children

theorem height_le_succ_iff {expression : Expression} {bound : Nat} :
    expression.height ≤ bound + 1 ↔ ∀ child ∈ expression.children, child.height ≤ bound := by
  cases expression with
  | empty | text _ | filter _ _ _ => simp [height, children]
  | and operands | or operands =>
      rw [height, Nat.succ_le_succ_iff, Operands.foldr_max_le_iff, List.forall_mem_map, children]
  | not operand => simp [height, children]

theorem height_pos (expression : Expression) : 0 < expression.height := by
  cases expression <;> simp [height]

theorem height_lt_of_mem_children {parent child : Expression} (mem : child ∈ parent.children) :
    child.height < parent.height := by
  obtain ⟨bound, eq⟩ := Nat.exists_eq_succ_of_ne_zero (Nat.ne_of_gt parent.height_pos)
  rw [eq, Nat.lt_succ_iff]
  exact height_le_succ_iff.mp (Nat.le_of_eq eq) child mem

/-- No path is longer than the height of the node that it starts at. -/
theorem length_le_height_of_isPath {root : Expression} {below : List Expression}
    (path : IsPath (root :: below)) : (root :: below).length ≤ root.height := by
  induction below generalizing root with
  | nil => exact root.height_pos
  | cons child below ih =>
      obtain ⟨mem, further⟩ := List.isChain_cons_cons.mp path
      exact Nat.lt_of_le_of_lt (ih further) (height_lt_of_mem_children mem)

@[simp]
theorem height_negate (count : Nat) (expression : Expression) :
    (negate count expression).height = expression.height + count := by
  induction count generalizing expression with
  | zero => rfl
  | succ count ih =>
      rw [negate_succ, ih, height]
      omega

/-- A level adds one node to the level that is tighter by one, and a group stands over a
whole query with room for one group less. -/
theorem Derived.height_le {level : Level} {room : Nat} {expression : Expression}
    (derived : Derived level room expression) :
    expression.height ≤ 3 * room + level.rank + 1 := by
  induction derived with
  | text _ _ | filter _ _ _ _ => simp [height]
  | group _ ih => exact ih
  | positive _ ih | operand _ ih | alternative _ ih => exact Nat.le_succ_of_le ih
  | negation _ ih =>
      rw [height_le_succ_iff, children, List.forall_mem_singleton]
      exact ih
  | conjunction _ _ ih | disjunction _ _ ih => exact height_le_succ_iff.mpr ih

/-- What is read is at most as high as 64 groups inside each other. -/
theorem height_ofTokens_le (tokens : List Token) : (ofTokens tokens).height ≤ 196 := by
  rcases eq_empty_or_derived_ofTokens tokens with blank | derived
  · rw [blank, height]
    decide
  · exact derived.height_le

end Expression

namespace Sql

namespace Condition

/-- The number of nodes on the longest path from the root. -/
def height : Condition → Nat
  | .always | .never | .leaf _ => 1
  | .junction _ operands => (operands.map height).foldr max 0 + 1
  | .negation operand => operand.height + 1

theorem height_pos (condition : Condition) : 0 < condition.height := by
  cases condition <;> simp [height]

theorem height_junction_le_iff {connective : Connective} {operands : List Condition}
    {bound : Nat} :
    (junction connective operands).height ≤ bound + 1 ↔
      ∀ operand ∈ operands, operand.height ≤ bound := by
  rw [height, Nat.succ_le_succ_iff, Operands.foldr_max_le_iff, List.forall_mem_map]

theorem height_lowerText (scope : String) (place : TextPlace) (value : String) :
    (lowerText scope place value).height = 1 := by
  unfold lowerText
  split
  · rw [height]
  · rw [height]

theorem height_lowerCriterion (scope : String) (criterion : Criterion) :
    (lowerCriterion scope criterion).height = 1 := by
  cases criterion with
  | contains place value => exact height_lowerText scope place value
  | tagged _ _ | hasTags | createdOn _ | created _ _ => simp [lowerCriterion, height]

end Condition

/-- Negations above a condition make it higher by one node at most. -/
theorem Lowered.height_under_le (operand : Lowered) (negations : Nat) :
    (operand.under negations).condition.height ≤ operand.condition.height + negations := by
  have positive := operand.condition.height_pos
  unfold under
  split_ifs with none_above invalid even
  · exact Nat.le_add_right _ _
  · simp only [Condition.height]
    omega
  · exact Nat.le_add_right _ _
  · simp only [Condition.height]
    omega

theorem Lowered.height_join_le {connective : Connective} {operands : List Lowered} {bound : Nat}
    (nonempty : operands ≠ []) (each : ∀ operand ∈ operands, operand.condition.height ≤ bound) :
    (join connective operands).condition.height ≤ bound + 1 := by
  match operands with
  | [operand] =>
      rw [join_singleton]
      exact Nat.le_succ_of_le (each operand (List.mem_singleton_self operand))
  | first :: second :: rest =>
      rw [join_cons_cons, Condition.height_junction_le_iff, List.forall_mem_map]
      exact each

end Sql

open Sql

/-- A condition is no higher than the expression that it is made from. -/
theorem Expression.height_lower_le (scope : String) (expression : Expression) :
    (expression.lower scope).condition.height ≤ expression.height := by
  induction expression using chainInduction with
  | empty => simp [Condition.height, height]
  | emptyChain count =>
      rw [lower_negate_empty, Lowered.condition_rejected, Condition.height]
      exact height_pos _
  | text value => simp [Condition.height_lowerText, height]
  | criterion field operator value criterion valid =>
      rw [lower_filter_of_ok scope valid, Lowered.condition_clean, Condition.height_lowerCriterion]
      exact height_pos _
  | invalidFilter field operator value issue invalid =>
      rw [lower_filter_of_error scope invalid, Lowered.condition_rejected, Condition.height]
      exact height_pos _
  | noOperands connective =>
      rw [lower_connect_nil, Lowered.condition_rejected, Condition.height]
      exact height_pos _
  | connect connective operands nonempty ih =>
      have children_connect : (connect connective operands).children = operands := by
        cases connective <;> rfl
      obtain ⟨bound, eq⟩ := Nat.exists_eq_succ_of_ne_zero
        (Nat.ne_of_gt (connect connective operands).height_pos)
      have lower : ∀ operand ∈ operands, operand.height ≤ bound := by
        have below := height_le_succ_iff.mp (Nat.le_of_eq eq)
        rwa [children_connect] at below
      rw [lower_connect scope connective nonempty, eq]
      refine Lowered.height_join_le (by simpa using nonempty) ?_
      rw [List.forall_mem_map]
      intro operand mem
      exact Nat.le_trans (ih operand mem) (lower operand mem)
  | chain count base isBase ih =>
      rw [lower_negate scope isBase, height_negate]
      exact Nat.le_trans (Lowered.height_under_le _ _) (Nat.add_le_add_right ih count)

end SearchQuery
