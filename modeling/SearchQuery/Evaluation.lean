import SearchQuery.Criterion
import SearchQuery.Expression

/-!
# Evaluation on documents

An expression is compiled once to a predicate, which then tests any number of
documents. An invalid clause never matches, and neither does a negation over an
invalid clause: a clause that cannot be answered must not widen the result.

A chain of negations is taken as a whole. Its parity decides, so its length plays
no part; the number of negations above an expression is handed down to it.
-/

namespace SearchQuery

/-- A compiled query. -/
structure Predicate where
  /-- The test on one document. -/
  test : Document → Bool
  /-- Whether some clause is invalid. -/
  degraded : Bool

namespace Predicate

/-- The predicate of valid clauses with the given test. -/
def ofTest (test : Document → Bool) : Predicate :=
  ⟨test, false⟩

/-- The stand-in for an invalid clause. -/
def rejected : Predicate :=
  ⟨fun _ => false, true⟩

/-- Every operand must match. -/
def conjunction (operands : List Predicate) : Predicate :=
  ⟨fun document => operands.all (·.test document), operands.any (·.degraded)⟩

/-- Some operand must match. -/
def disjunction (operands : List Predicate) : Predicate :=
  ⟨fun document => operands.any (·.test document), operands.any (·.degraded)⟩

/-- The predicate under a number of negations. -/
def under (negations : Nat) (operand : Predicate) : Predicate :=
  if negations = 0 then operand
  else if operand.degraded then rejected
  else if negations % 2 = 0 then operand
  else ⟨fun document => !operand.test document, false⟩

end Predicate

/-- The predicate of one criterion. -/
def Criterion.predicate (criterion : Criterion) : Predicate :=
  .ofTest fun document => criterion.holds document

namespace Expression

/-- The predicate of an expression under a number of negations. -/
def predicateUnder (negations : Nat) : Expression → Predicate
  | .empty => if negations = 0 then .ofTest fun _ => true else .rejected
  | .text value => (Criterion.contains .nameOrContent value).predicate.under negations
  | .filter field operator value =>
      match Criterion.ofFilter field operator value with
      | .ok criterion => criterion.predicate.under negations
      | .error _ => .rejected
  | .and [] => .rejected
  | .and operands => (Predicate.conjunction (operands.map (predicateUnder 0))).under negations
  | .or [] => .rejected
  | .or operands => (Predicate.disjunction (operands.map (predicateUnder 0))).under negations
  | .not operand => predicateUnder (negations + 1) operand

/-- The predicate of an expression. -/
def predicate (expression : Expression) : Predicate :=
  expression.predicateUnder 0

/-- Whether a document matches an expression. -/
def matchesDocument (expression : Expression) (document : Document) : Bool :=
  expression.predicate.test document

/-- Whether some clause of an expression is invalid. -/
def isDegraded (expression : Expression) : Bool :=
  expression.predicate.degraded

/-- The documents that match, in their order. -/
def select (expression : Expression) (documents : List Document) : List Document :=
  documents.filter expression.predicate.test

end Expression

end SearchQuery
