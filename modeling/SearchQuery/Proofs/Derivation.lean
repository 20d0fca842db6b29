import SearchQuery.Expression.Reader

/-!
# What the reader builds

The reader never fails, so the grammar of queries says nothing about which token lists
it accepts. It says what can come out: every expression that is read is `Derived` in the
grammar, at the loosest level and with room for as many groups inside each other as the
reader opens. The derivation is an invariant of the reader's state, kept by every token.
-/

namespace SearchQuery

/-- The places of an expression in a query, from the tightest to the loosest. -/
inductive Level where
  /-- A term, a filter or a group. -/
  | primary
  /-- A primary that may be negated. -/
  | operand
  /-- Operands side by side. -/
  | alternative
  /-- Alternatives with OR between them. -/
  | query
deriving DecidableEq, Repr

/-- Levels from the tightest to the loosest. -/
def Level.rank : Level → Nat
  | primary => 0
  | operand => 1
  | alternative => 2
  | query => 3

namespace Expression

/-- An expression can be built at a level from groups that stand inside each other at
most the given number of times. -/
inductive Derived : Level → Nat → Expression → Prop
  | text (room : Nat) (value : String) : Derived .primary room (.text value)
  | filter (room : Nat) (field : Field) (operator : Operator) (value : String) :
      Derived .primary room (.filter field operator value)
  | group {room : Nat} {expression : Expression} (inside : Derived .query room expression) :
      Derived .primary (room + 1) expression
  | positive {room : Nat} {expression : Expression} (only : Derived .primary room expression) :
      Derived .operand room expression
  | negation {room : Nat} {expression : Expression} (inside : Derived .primary room expression) :
      Derived .operand room (.not expression)
  | operand {room : Nat} {expression : Expression} (only : Derived .operand room expression) :
      Derived .alternative room expression
  | conjunction {room : Nat} {operands : List Expression} (two : 2 ≤ operands.length)
      (each : ∀ operand ∈ operands, Derived .operand room operand) :
      Derived .alternative room (.and operands)
  | alternative {room : Nat} {expression : Expression}
      (only : Derived .alternative room expression) : Derived .query room expression
  | disjunction {room : Nat} {operands : List Expression} (two : 2 ≤ operands.length)
      (each : ∀ operand ∈ operands, Derived .alternative room operand) :
      Derived .query room (.or operands)

/-- No node is empty, and every connective has two and more operands. -/
inductive IsWellBuilt : Expression → Prop
  | text (value : String) : IsWellBuilt (.text value)
  | filter (field : Field) (operator : Operator) (value : String) :
      IsWellBuilt (.filter field operator value)
  | and {operands : List Expression} (two : 2 ≤ operands.length)
      (each : ∀ operand ∈ operands, IsWellBuilt operand) : IsWellBuilt (.and operands)
  | or {operands : List Expression} (two : 2 ≤ operands.length)
      (each : ∀ operand ∈ operands, IsWellBuilt operand) : IsWellBuilt (.or operands)
  | not {operand : Expression} (inside : IsWellBuilt operand) : IsWellBuilt (.not operand)

theorem Derived.isWellBuilt {level : Level} {room : Nat} {expression : Expression}
    (derived : Derived level room expression) : expression.IsWellBuilt := by
  induction derived with
  | text room value => exact .text value
  | filter room field operator value => exact .filter field operator value
  | group _ ih | positive _ ih | operand _ ih | alternative _ ih => exact ih
  | negation _ ih => exact .not ih
  | conjunction two _ ih => exact .and two ih
  | disjunction two _ ih => exact .or two ih

/-- A junction stands only over two and more operands. -/
theorem join_eq_some_iff {junction : List Expression → Expression} {operands : List Expression}
    {expression : Expression} :
    join junction operands = some expression ↔
      operands = [expression] ∨ 2 ≤ operands.length ∧ junction operands = expression := by
  match operands with
  | [] => simp [join]
  | [operand] => simp [join]
  | first :: second :: rest => simp [join]

theorem join_of_two (junction : List Expression → Expression) {operands : List Expression}
    (two : 2 ≤ operands.length) : join junction operands = some (junction operands) :=
  join_eq_some_iff.mpr (.inr ⟨two, rfl⟩)

end Expression

open Expression

namespace OpenGroup

/-- What has been read of a group is derived at the levels where it stands. -/
structure IsDerived (room : Nat) (group : OpenGroup) : Prop where
  operands : ∀ operand ∈ group.operands, Derived .operand room operand
  alternatives : ∀ alternative ∈ group.alternatives, Derived .alternative room alternative

section Steps

variable {room : Nat} {group : OpenGroup} (derived : group.IsDerived room)

theorem isDerived_fresh (room : Nat) : fresh.IsDerived room :=
  ⟨by simp [fresh], by simp [fresh]⟩

include derived

theorem IsDerived.withNegations (negations : Int32) :
    IsDerived room { group with negations := negations } :=
  ⟨derived.operands, derived.alternatives⟩

theorem IsDerived.take {operand : Option Expression}
    (primary : ∀ expression, operand = some expression → Derived .primary room expression) :
    (group.take operand).IsDerived room := by
  cases operand with
  | none => exact derived.withNegations 0
  | some operand =>
      refine ⟨?_, derived.alternatives⟩
      intro other mem
      rcases List.mem_cons.mp mem with rfl | earlier
      · rw [foldNegations]
        split
        · exact .negation (primary operand rfl)
        · exact .positive (primary operand rfl)
      · exact derived.operands other earlier

theorem IsDerived.conjunction {expression : Expression}
    (result : group.conjunction = some expression) : Derived .alternative room expression := by
  rcases join_eq_some_iff.mp result with only | ⟨two, rfl⟩
  · apply Derived.operand
    apply derived.operands
    rw [← List.mem_reverse, only]
    exact List.mem_singleton_self expression
  · refine .conjunction two ?_
    intro operand mem
    exact derived.operands operand (List.mem_reverse.mp mem)

theorem IsDerived.allAlternatives :
    ∀ alternative ∈ group.allAlternatives, Derived .alternative room alternative := by
  intro alternative mem
  rcases List.mem_append.mp mem with present | earlier
  · exact derived.conjunction (Option.mem_toList.mp present)
  · exact derived.alternatives alternative earlier

theorem IsDerived.nextAlternative : group.nextAlternative.IsDerived room :=
  ⟨by simp [OpenGroup.nextAlternative], derived.allAlternatives⟩

theorem IsDerived.result {expression : Expression} (result : group.result = some expression) :
    Derived .query room expression := by
  rcases join_eq_some_iff.mp result with only | ⟨two, rfl⟩
  · apply Derived.alternative
    apply derived.allAlternatives
    rw [← List.mem_reverse, only]
    exact List.mem_singleton_self expression
  · refine .disjunction two ?_
    intro alternative mem
    exact derived.allAlternatives alternative (List.mem_reverse.mp mem)

end Steps

end OpenGroup

namespace Reading

/-- The groups around one that has the given room, from the inside out. Each has room
for one group more than the group in it, and the query itself has the most. -/
inductive Enclosing : Nat → List OpenGroup → Prop
  | none : Enclosing maxDepth []
  | within {room : Nat} {outer : OpenGroup} {others : List OpenGroup}
      (derived : outer.IsDerived (room + 1)) (around : Enclosing (room + 1) others) :
      Enclosing room (outer :: others)

/-- Every open group takes up room. -/
theorem Enclosing.room_add_length {room : Nat} {groups : List OpenGroup}
    (around : Enclosing room groups) : room + groups.length = maxDepth := by
  induction around with
  | none => rfl
  | within derived around ih =>
      rw [List.length_cons]
      omega

/-- What has been read of a query is derived, in every open group. -/
def IsDerived (reading : Reading) : Prop :=
  ∃ room, reading.current.IsDerived room ∧ Enclosing room reading.enclosing

theorem isDerived_start : start.IsDerived :=
  ⟨maxDepth, OpenGroup.isDerived_fresh maxDepth, .none⟩

theorem derived_of_leaf? {leaf : String → Expression} {value : String} {expression : Expression}
    {room : Nat} (primary : Derived .primary room (leaf value))
    (found : leaf? leaf value = some expression) : Derived .primary room expression := by
  unfold leaf? at found
  split at found
  · contradiction
  · cases found
    exact primary

section Steps

variable {reading : Reading} (derived : reading.IsDerived)
include derived

/-- A change of the innermost group that keeps its derivations keeps all. -/
theorem IsDerived.update {change : OpenGroup → OpenGroup}
    (keeps : ∀ room, reading.current.IsDerived room → (change reading.current).IsDerived room) :
    (reading.update change).IsDerived := by
  obtain ⟨room, current, around⟩ := derived
  exact ⟨room, keeps room current, around⟩

theorem IsDerived.openGroup : reading.openGroup.IsDerived := by
  unfold Reading.openGroup
  split
  · rename_i more
    obtain ⟨room, current, around⟩ := derived
    have total := around.room_add_length
    rw [depth] at more
    cases room with
    | zero => omega
    | succ room => exact ⟨room, OpenGroup.isDerived_fresh room, .within current around⟩
  · exact derived.update fun _ current => current.withNegations 0

theorem IsDerived.closeGroup : reading.closeGroup.IsDerived := by
  unfold Reading.closeGroup
  obtain ⟨room, current, around⟩ := derived
  split
  · exact ⟨room, current.withNegations 0, around⟩
  · rename_i outer others enclosing
    rw [enclosing] at around
    cases around with
    | within outerDerived around =>
        refine ⟨room + 1, outerDerived.take ?_, around⟩
        intro expression result
        exact .group (current.result result)

/-- No token spoils what has been read before it. -/
theorem IsDerived.step (token : Token) : (reading.step token).IsDerived := by
  cases token with
  | word value | phrase value =>
      refine derived.update fun room current => current.take fun expression found => ?_
      exact derived_of_leaf? (.text room value) found
  | filter field operator value =>
      refine derived.update fun room current => current.take fun expression found => ?_
      exact derived_of_leaf? (.filter room field operator value) found
  | operator _ | and => exact derived.update fun _ current => current.withNegations 0
  | or => exact derived.update fun _ current => current.nextAlternative
  | not | minus => exact derived.update fun _ current => current.withNegations _
  | openGroup => exact derived.openGroup
  | closeGroup => exact derived.closeGroup
  | endOfQuery => exact derived

theorem IsDerived.run (tokens : List Token) : (tokens.foldl Reading.step reading).IsDerived := by
  induction tokens generalizing reading with
  | nil => exact derived
  | cons token tokens ih => exact ih (derived.step token)

end Steps

/-- Groups that end together are derived from the inside out. -/
theorem Enclosing.finishAround {room : Nat} {groups : List OpenGroup}
    (around : Enclosing room groups) {inner : Option Expression}
    (inside : ∀ expression, inner = some expression → Derived .query room expression)
    {expression : Expression} (result : Reading.finishAround inner groups = some expression) :
    Derived .query maxDepth expression := by
  induction around generalizing inner with
  | none => exact inside expression result
  | within derived around ih =>
      refine ih ?_ result
      intro whole wholeResult
      exact (derived.take fun part found => .group (inside part found)).result wholeResult

theorem IsDerived.finish {reading : Reading} (derived : reading.IsDerived)
    {expression : Expression} (result : reading.finish = some expression) :
    Derived .query maxDepth expression := by
  obtain ⟨room, current, around⟩ := derived
  exact around.finishAround (fun _ => current.result) result

end Reading

/-- What is read is the empty expression, or it is derived in the grammar. -/
theorem Expression.eq_empty_or_derived_ofTokens (tokens : List Token) :
    ofTokens tokens = .empty ∨ Derived .query Reading.maxDepth (ofTokens tokens) := by
  unfold ofTokens
  cases result : (List.foldl Reading.step Reading.start
      (tokens.takeWhile (· != .endOfQuery))).finish with
  | none => exact .inl rfl
  | some expression => exact .inr ((Reading.isDerived_start.run _).finish result)

end SearchQuery
