import SearchQuery.Field

/-!
# Issues

An issue is the reason why one clause of a query cannot be answered. The clause
then matches nothing, and the rest of the query stays in force. `Issue` lists the
causes; `Issue.diagnostic` gives each the code and the wording under which it is
reported.
-/

namespace SearchQuery

/-- The two ways to join operands. -/
inductive Connective where
  | and
  | or
deriving DecidableEq, Repr

/-- The keyword of a connective. -/
def Connective.keyword : Connective → String
  | and => "AND"
  | or => "OR"

/-- Why a clause is rejected. -/
inductive Issue where
  /-- The field admits equality only. -/
  | unsupportedOperator (field : Field) (operator : Operator)
  /-- The value of a date filter is no date. -/
  | invalidDate (value : String)
  /-- Only tags can be asked for with `has:`. -/
  | unsupportedHasValue (value : String)
  /-- A negation stands over the empty expression. -/
  | emptyNotOperand
  /-- A connective has no operands. -/
  | noOperands (connective : Connective)
deriving DecidableEq, Repr

/-- The stable codes under which issues are reported. -/
inductive IssueCode where
  | unsupportedFilterOperator
  | unsupportedExpressionType
  | unsupportedHasValue
  | invalidDateFormat
  | emptyNotOperand
deriving DecidableEq, Repr

namespace IssueCode

/-- Every code. -/
def all : List IssueCode :=
  [unsupportedFilterOperator, unsupportedExpressionType, unsupportedHasValue, invalidDateFormat,
    emptyNotOperand]

/-- The spelling of a code. -/
def text : IssueCode → String
  | unsupportedFilterOperator => "UNSUPPORTED_FILTER_OPERATOR"
  | unsupportedExpressionType => "UNSUPPORTED_EXPRESSION_TYPE"
  | unsupportedHasValue => "UNSUPPORTED_HAS_VALUE"
  | invalidDateFormat => "INVALID_DATE_FORMAT"
  | emptyNotOperand => "EMPTY_NOT_OPERAND"

/-- The code with exactly the given spelling. -/
def ofText? (text : String) : Option IssueCode :=
  all.find? fun code => code.text == text

end IssueCode

/-- A reported issue: its code and a sentence for the reader. -/
structure Diagnostic where
  code : IssueCode
  message : String
deriving DecidableEq, Repr

/-- The one-line form of a diagnostic. -/
def Diagnostic.text (diagnostic : Diagnostic) : String :=
  diagnostic.code.text ++ ": " ++ diagnostic.message

namespace Issue

/-- The code of a cause. -/
def code : Issue → IssueCode
  | unsupportedOperator _ _ => .unsupportedFilterOperator
  | invalidDate _ => .invalidDateFormat
  | unsupportedHasValue _ => .unsupportedHasValue
  | emptyNotOperand => .emptyNotOperand
  | noOperands _ => .unsupportedExpressionType

/-- The wording of a cause. -/
def message : Issue → String
  | unsupportedOperator field operator =>
      "Operator \"" ++ operator.symbol ++ "\" is not supported for field \"" ++ field.text ++ "\""
  | invalidDate value =>
      "Invalid date \"" ++ value ++ "\"; expected YYYY-MM-DD or an RFC 3339 timestamp"
  | unsupportedHasValue value =>
      "Unsupported value \"" ++ value ++ "\" for has:; only has:tags is supported"
  | emptyNotOperand => "NOT requires an operand"
  | noOperands connective =>
      "Unsupported expression: " ++ connective.keyword ++ " with no operands"

/-- A cause as it is reported. -/
def diagnostic (issue : Issue) : Diagnostic :=
  ⟨issue.code, issue.message⟩

end Issue

end SearchQuery
