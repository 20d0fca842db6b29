/-!
# Integers of 64 bits

Configuration files and parameters of SQL hold integers of 64 bits with a sign.
-/

namespace SearchQuery

/-- Whether an integer has 64 bits with its sign. -/
def isInteger64 (number : Int) : Bool :=
  -9223372036854775808 ≤ number && number ≤ 9223372036854775807

/-- The integers of 64 bits are those between the least and the greatest machine
integer. -/
theorem isInteger64_iff {number : Int} :
    isInteger64 number = true ↔
      Int64.minValue.toInt ≤ number ∧ number ≤ Int64.maxValue.toInt := by
  have least : Int64.minValue.toInt = -9223372036854775808 := by decide
  have greatest : Int64.maxValue.toInt = 9223372036854775807 := by decide
  rw [isInteger64, Bool.and_eq_true, decide_eq_true_eq, decide_eq_true_eq, least, greatest]

end SearchQuery
