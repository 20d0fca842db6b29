import SearchQuery.Proofs.Interchange
import SearchQuery.Proofs.Leaves

/-!
# Values of tokens and leaves

Reading tokens never looks into their values, except to see whether they are blank. So a change
of values that keeps blank values blank, and the others not, may be made before or after reading
(`Expression.ofTokens_map`). What an expression matches does not change with the values if it does
not for any of its leaves (`Expression.interchangeable_mapValues`).
-/

namespace SearchQuery

/-- A token with its value changed. Keywords, operators and punctuation have none. -/
def Token.mapValue (change : String → String) : Token → Token
  | .word value => .word (change value)
  | .phrase value => .phrase (change value)
  | .filter field comparison value => .filter field comparison (change value)
  | token => token

namespace Expression

/-- An expression with the values of its leaves changed. -/
def mapValues (change : String → String) : Expression → Expression
  | .empty => .empty
  | .text value => .text (change value)
  | .filter field operator value => .filter field operator (change value)
  | .and operands => .and (operands.map (mapValues change))
  | .or operands => .or (operands.map (mapValues change))
  | .not operand => .not (operand.mapValues change)

section

variable (change : String → String)

@[simp]
theorem mapValues_empty : mapValues change .empty = .empty := by
  rw [mapValues]

@[simp]
theorem mapValues_text (value : String) :
    mapValues change (.text value) = .text (change value) := by
  rw [mapValues]

@[simp]
theorem mapValues_filter (field : Field) (operator : Operator) (value : String) :
    mapValues change (.filter field operator value) = .filter field operator (change value) := by
  rw [mapValues]

@[simp]
theorem mapValues_and (operands : List Expression) :
    mapValues change (.and operands) = .and (operands.map (mapValues change)) := by
  rw [mapValues]

@[simp]
theorem mapValues_or (operands : List Expression) :
    mapValues change (.or operands) = .or (operands.map (mapValues change)) := by
  rw [mapValues]

@[simp]
theorem mapValues_not (operand : Expression) :
    mapValues change (.not operand) = .not (operand.mapValues change) := by
  rw [mapValues]

theorem mapValues_foldNegations (operand : Expression) (negations : Int32) :
    mapValues change (operand.foldNegations negations) =
      (operand.mapValues change).foldNegations negations := by
  rw [foldNegations, foldNegations]
  split
  · exact mapValues_not change operand
  · rfl

/-- Joining operands and changing values commute, if they do for many operands. -/
theorem join_map {junction : List Expression → Expression}
    (commutes : ∀ operands,
      mapValues change (junction operands) = junction (operands.map (mapValues change)))
    (operands : List Expression) :
    join junction (operands.map (mapValues change)) =
      (join junction operands).map (mapValues change) := by
  match operands with
  | [] => rfl
  | [operand] => rfl
  | first :: second :: rest => exact congrArg some (commutes (first :: second :: rest)).symm

/-- Leaves that can stand for what they are changed to make an expression that can. -/
theorem interchangeable_mapValues {expression : Expression}
    (each : ∀ leaf ∈ expression.leaves, Interchangeable (leaf.mapValues change) leaf) :
    Interchangeable (expression.mapValues change) expression := by
  have connected (connective : Connective) {operands : List Expression}
      (ih : ∀ operand ∈ operands, Interchangeable (operand.mapValues change) operand) :
      Interchangeable (.connect connective (operands.map (mapValues change)))
        (.connect connective operands) := by
    apply Interchangeable.connect
    rw [List.forall₂_map_left_iff, List.forall₂_same]
    exact ih
  induction expression using induction with
  | empty =>
      rw [mapValues_empty]
      exact .refl .empty
  | text value => exact each _ (by simp)
  | filter field operator value => exact each _ (by simp)
  | and operands ih =>
      rw [leaves_and] at each
      rw [mapValues_and]
      exact connected .and fun operand mem =>
        ih operand mem fun leaf inside => each leaf (List.mem_flatMap_of_mem mem inside)
  | or operands ih =>
      rw [leaves_or] at each
      rw [mapValues_or]
      exact connected .or fun operand mem =>
        ih operand mem fun leaf inside => each leaf (List.mem_flatMap_of_mem mem inside)
  | not operand ih =>
      rw [leaves_not] at each
      rw [mapValues_not]
      exact (ih each).not

end

end Expression

/-! ## Reading -/

namespace OpenGroup

variable (change : String → String)

/-- A group with the values in all of its expressions changed. -/
def mapValues (group : OpenGroup) : OpenGroup :=
  ⟨group.alternatives.map (Expression.mapValues change),
    group.operands.map (Expression.mapValues change), group.negations⟩

theorem take_mapValues (group : OpenGroup) (operand : Option Expression) :
    (group.mapValues change).take (operand.map (Expression.mapValues change)) =
      (group.take operand).mapValues change := by
  cases operand with
  | none => rfl
  | some operand =>
      simp [take, mapValues, Expression.mapValues_foldNegations]

theorem conjunction_mapValues (group : OpenGroup) :
    (group.mapValues change).conjunction =
      group.conjunction.map (Expression.mapValues change) := by
  rw [conjunction, conjunction, ← Expression.join_map change (Expression.mapValues_and change),
    List.map_reverse]
  rfl

theorem allAlternatives_mapValues (group : OpenGroup) :
    (group.mapValues change).allAlternatives =
      group.allAlternatives.map (Expression.mapValues change) := by
  rw [allAlternatives, allAlternatives, conjunction_mapValues, List.map_append]
  cases group.conjunction <;> rfl

theorem nextAlternative_mapValues (group : OpenGroup) :
    (group.mapValues change).nextAlternative = group.nextAlternative.mapValues change := by
  rw [nextAlternative, allAlternatives_mapValues]
  rfl

theorem result_mapValues (group : OpenGroup) :
    (group.mapValues change).result = group.result.map (Expression.mapValues change) := by
  rw [result, result, allAlternatives_mapValues,
    ← Expression.join_map change (Expression.mapValues_or change), List.map_reverse]

end OpenGroup

namespace Reading

variable (change : String → String)

/-- A query that is being read, with the values in all of its expressions changed. -/
def mapValues (reading : Reading) : Reading :=
  ⟨reading.current.mapValues change, reading.enclosing.map (OpenGroup.mapValues change)⟩

theorem openGroup_mapValues (reading : Reading) :
    (reading.mapValues change).openGroup = reading.openGroup.mapValues change := by
  have depth : (reading.mapValues change).depth = reading.depth := List.length_map _
  unfold openGroup
  rw [depth]
  split <;> rfl

theorem closeGroup_mapValues (reading : Reading) :
    (reading.mapValues change).closeGroup = reading.closeGroup.mapValues change := by
  obtain ⟨current, enclosing⟩ := reading
  cases enclosing with
  | nil => rfl
  | cons outer others =>
      have taken := outer.take_mapValues change current.result
      rw [← OpenGroup.result_mapValues] at taken
      exact congrArg (Reading.mk · (others.map (OpenGroup.mapValues change))) taken

theorem finishAround_mapValues (inner : Option Expression) (groups : List OpenGroup) :
    finishAround (inner.map (Expression.mapValues change))
        (groups.map (OpenGroup.mapValues change)) =
      (finishAround inner groups).map (Expression.mapValues change) := by
  induction groups generalizing inner with
  | nil => rfl
  | cons outer others ih =>
      rw [List.map_cons, finishAround, OpenGroup.take_mapValues, OpenGroup.result_mapValues, ih,
        finishAround]

theorem finish_mapValues (reading : Reading) :
    (reading.mapValues change).finish = reading.finish.map (Expression.mapValues change) := by
  rw [finish, finish, ← finishAround_mapValues, ← OpenGroup.result_mapValues]
  rfl

variable {change : String → String}
  (keepsBlank : ∀ value, Text.isBlank (change value) = Text.isBlank value)
include keepsBlank

/-- A leaf is there before the change if and only if it is there afterwards. -/
theorem leaf?_change {leaf : String → Expression}
    (isLeaf : ∀ value, (leaf value).mapValues change = leaf (change value)) (value : String) :
    leaf? leaf (change value) = (leaf? leaf value).map (Expression.mapValues change) := by
  rw [leaf?, leaf?, keepsBlank]
  cases Text.isBlank value with
  | true => rfl
  | false => exact congrArg some (isLeaf value).symm

/-- One more token, before or after the change. -/
theorem step_mapValues (reading : Reading) (token : Token) :
    (reading.mapValues change).step (token.mapValue change) =
      (reading.step token).mapValues change := by
  have takeLeaf {leaf : String → Expression} {value : String}
      (isLeaf : ∀ value, (leaf value).mapValues change = leaf (change value)) :
      (reading.mapValues change).update (·.take (leaf? leaf (change value))) =
        (reading.update (·.take (leaf? leaf value))).mapValues change := by
    rw [leaf?_change keepsBlank isLeaf]
    exact congrArg (Reading.mk · (reading.enclosing.map (OpenGroup.mapValues change)))
      (reading.current.take_mapValues change (leaf? leaf value))
  cases token with
  | word value | phrase value => exact takeLeaf (Expression.mapValues_text change)
  | filter field operator value => exact takeLeaf (Expression.mapValues_filter change field operator)
  | or =>
      exact congrArg (Reading.mk · (reading.enclosing.map (OpenGroup.mapValues change)))
        (reading.current.nextAlternative_mapValues change)
  | openGroup => exact reading.openGroup_mapValues change
  | closeGroup => exact reading.closeGroup_mapValues change
  | operator _ | and | not | minus | endOfQuery => rfl

theorem run_mapValues (reading : Reading) (tokens : List Token) :
    (tokens.map (Token.mapValue change)).foldl step (reading.mapValues change) =
      (tokens.foldl step reading).mapValues change := by
  induction tokens generalizing reading with
  | nil => rfl
  | cons token tokens ih =>
      rw [List.map_cons, List.foldl_cons, List.foldl_cons, step_mapValues keepsBlank, ih]

end Reading

/-- A change of values that keeps blank values blank, and the others not, may be made before or
after tokens are read. -/
theorem Expression.ofTokens_map {change : String → String}
    (keepsBlank : ∀ value, Text.isBlank (change value) = Text.isBlank value)
    (tokens : List Token) :
    ofTokens (tokens.map (Token.mapValue change)) = (ofTokens tokens).mapValues change := by
  have sameEnd : (· != Token.endOfQuery) ∘ Token.mapValue change = (· != Token.endOfQuery) := by
    funext token
    cases token <;> rfl
  have start : Reading.start = Reading.start.mapValues change := rfl
  rw [ofTokens, List.takeWhile_map, sameEnd, start, Reading.run_mapValues keepsBlank,
    Reading.finish_mapValues, ofTokens]
  cases (List.foldl Reading.step Reading.start (tokens.takeWhile (· != .endOfQuery))).finish with
  | none => simp
  | some expression => rfl

end SearchQuery
