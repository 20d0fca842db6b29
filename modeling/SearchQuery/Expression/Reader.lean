import SearchQuery.Expression
import SearchQuery.Text.WhiteSpace
import SearchQuery.Token.Reader

/-!
# Reading tokens as an expression

AND binds more tightly than OR and is understood between neighbours; NOT and the
dash bind more tightly than both; parentheses group. The reader never fails. What
carries no meaning is dropped: a keyword with nothing to act on, a parenthesis
that closes nothing, a blank term, an operator without a field. A group that is
never closed ends with the query.

The reader goes through the tokens once. Its state is the stack of open groups,
and each token changes that state by `Reading.step`, so what a token does depends
on the tokens before it only through the state.
-/

namespace SearchQuery

namespace Expression

/-- No expression for no operands, the operand itself for one, and the given
junction for more. -/
def join (junction : List Expression → Expression) : List Expression → Option Expression
  | [] => none
  | [operand] => some operand
  | operands => some (junction operands)

/-- The operand behind some negations, of which only the parity is kept. They are counted in 32
bits with a sign, so the count goes on below zero when it passes the greatest number. The
remainder of a negative count is never 1. -/
def foldNegations (negations : Int32) (operand : Expression) : Expression :=
  if negations % 2 = 1 then .not operand else operand

end Expression

/-- A group of which some tokens have been read. -/
structure OpenGroup where
  /-- The alternatives before the last OR, the latest first. -/
  alternatives : List Expression
  /-- The operands of the present alternative, the latest first. -/
  operands : List Expression
  /-- The count of the negations that have been read since the last operand. -/
  negations : Int32
deriving Repr

namespace OpenGroup

/-- A group of which nothing has been read. -/
def fresh : OpenGroup :=
  ⟨[], [], 0⟩

/-- Count one more negation that waits for an operand. -/
def negate (group : OpenGroup) : OpenGroup :=
  { group with negations := group.negations + 1 }

/-- Drop the negations that wait for an operand. -/
def settle (group : OpenGroup) : OpenGroup :=
  { group with negations := 0 }

/-- Take in an operand, under the negations that wait for it. Without an operand
those negations are dropped. -/
def take (group : OpenGroup) : Option Expression → OpenGroup
  | none => group.settle
  | some operand =>
      { group with
        operands := operand.foldNegations group.negations :: group.operands
        negations := 0 }

/-- The conjunction of the operands of the present alternative. -/
def conjunction (group : OpenGroup) : Option Expression :=
  Expression.join .and group.operands.reverse

/-- The alternatives with the present one, the latest first. -/
def allAlternatives (group : OpenGroup) : List Expression :=
  group.conjunction.toList ++ group.alternatives

/-- End the present alternative and begin another. -/
def nextAlternative (group : OpenGroup) : OpenGroup :=
  ⟨group.allAlternatives, [], 0⟩

/-- What the group means if it ends here. -/
def result (group : OpenGroup) : Option Expression :=
  Expression.join .or group.allAlternatives.reverse

end OpenGroup

/-- A query of which some tokens have been read: the innermost open group and the
groups around it, from the inside out. The outermost group is the query itself. -/
structure Reading where
  current : OpenGroup
  enclosing : List OpenGroup
deriving Repr

namespace Reading

/-- Groups are opened only to this depth; parentheses below it do not group. -/
def maxDepth : Nat := 64

/-- A query of which nothing has been read. -/
def start : Reading :=
  ⟨.fresh, []⟩

/-- The number of groups that have been opened and not closed. -/
def depth (reading : Reading) : Nat :=
  reading.enclosing.length

/-- Change the innermost group. -/
def update (reading : Reading) (change : OpenGroup → OpenGroup) : Reading :=
  { reading with current := change reading.current }

/-- Open a group, unless too many are open. -/
def openGroup (reading : Reading) : Reading :=
  if reading.depth < maxDepth then ⟨.fresh, reading.current :: reading.enclosing⟩
  else reading.update .settle

/-- Close the innermost group and hand its meaning to the group around it. The
query itself is not closed by a parenthesis. -/
def closeGroup (reading : Reading) : Reading :=
  match reading.enclosing with
  | [] => reading.update .settle
  | outer :: others => ⟨outer.take reading.current.result, others⟩

/-- The operand that a leaf stands for, unless its value is blank. -/
def leaf? (leaf : String → Expression) (value : String) : Option Expression :=
  if Text.isBlank value then none else some (leaf value)

/-- The state after one more token. -/
def step (reading : Reading) : Token → Reading
  | .word value => reading.update (·.take (leaf? .text value))
  | .phrase value => reading.update (·.take (leaf? .text value))
  | .filter field operator value =>
      reading.update (·.take (leaf? (.filter field operator) value))
  | .operator _ => reading.update .settle
  | .and => reading.update .settle
  | .or => reading.update .nextAlternative
  | .not => reading.update .negate
  | .minus => reading.update .negate
  | .openGroup => reading.openGroup
  | .closeGroup => reading.closeGroup
  | .endOfQuery => reading

/-- What the groups from the inside out mean, if all end here, given the meaning
of what stands inside them. -/
def finishAround (inner : Option Expression) : List OpenGroup → Option Expression
  | [] => inner
  | outer :: others => finishAround (outer.take inner).result others

/-- What the query means if it ends here. -/
def finish (reading : Reading) : Option Expression :=
  finishAround reading.current.result reading.enclosing

end Reading

namespace Expression

/-- The expression that tokens stand for. Reading stops at the first end marker. -/
def ofTokens (tokens : List Token) : Expression :=
  (((tokens.takeWhile (· != .endOfQuery)).foldl Reading.step Reading.start).finish).getD .empty

/-- The expression that a query stands for. -/
def ofQuery (query : String) : Expression :=
  ofTokens (Token.ofQuery query)

end Expression

end SearchQuery
