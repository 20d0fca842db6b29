import SearchQuery.Expression.Reader
import Mathlib.Algebra.Group.Nat.Defs

/-!
# Counting negations

The negations before an operand are counted in 32 bits with a sign. A run of negations turns the
operand around if its length is odd and the count does not stand below zero. So only the parity
matters in runs of fewer than `2 ^ 31` negations, but not in longer ones: there the count has
wrapped, and the remainder of a negative odd count is -1.
-/

namespace SearchQuery

/-- A run of so many negations turns the operand behind it around. -/
def TurnsAround (count : Nat) : Prop :=
  count % 2 = 1 ∧ count % 2 ^ 32 < 2 ^ 31

instance (count : Nat) : Decidable (TurnsAround count) :=
  inferInstanceAs (Decidable (_ ∧ _))

/-- So many negations make no difference before so many others. -/
def Cancels (count others : Nat) : Prop :=
  TurnsAround (count + others) ↔ TurnsAround others

instance (count others : Nat) : Decidable (Cancels count others) :=
  inferInstanceAs (Decidable (_ ↔ _))

section Counts

variable {count other : Nat}

theorem ofNat_mod_two_eq_one_iff : Int32.ofNat count % 2 = 1 ↔ TurnsAround count := by
  have remainder : (Int32.ofNat count % 2).toInt = ((count : Int).bmod 4294967296).tmod 2 := by
    rw [Int32.toInt_mod, Int32.toInt_ofNat']
    rfl
  have one : (1 : Int32).toInt = 1 := rfl
  rw [← Int32.toInt_inj, remainder, one, Int.tmod_eq_emod, Int.bmod_def, TurnsAround]
  -- The count stands above or below zero, and the remainder is rounded toward zero.
  split <;> split <;> omega

/-- Of fewer negations than make the count wrap, only the parity matters. -/
theorem turnsAround_iff_of_lt (short : count < 2 ^ 31) : TurnsAround count ↔ count % 2 = 1 := by
  rw [TurnsAround]
  omega

/-- Two short runs turn an operand around alike if and only if they have the same parity. -/
theorem turnsAround_iff_iff_of_lt (short : count < 2 ^ 31) (otherShort : other < 2 ^ 31) :
    (TurnsAround count ↔ TurnsAround other) ↔ count % 2 = other % 2 := by
  rw [turnsAround_iff_of_lt short, turnsAround_iff_of_lt otherShort]
  omega

/-- In a short run, negations cancel if and only if there is an even number of them. -/
theorem cancels_iff_of_lt {others : Nat} (short : count + others < 2 ^ 31) :
    Cancels count others ↔ count % 2 = 0 := by
  have fewer : others < 2 ^ 31 := Nat.lt_of_le_of_lt (Nat.le_add_left _ _) short
  rw [Cancels, turnsAround_iff_iff_of_lt short fewer]
  omega

theorem cancels_zero (others : Nat) : Cancels 0 others := by
  rw [Cancels, Nat.zero_add]

end Counts

namespace Expression

variable (operand : Expression)

@[simp]
theorem foldNegations_zero : operand.foldNegations 0 = operand :=
  rfl

@[simp]
theorem foldNegations_one : operand.foldNegations 1 = .not operand :=
  rfl

theorem foldNegations_ofNat (count : Nat) :
    operand.foldNegations (Int32.ofNat count) =
      if TurnsAround count then .not operand else operand := by
  rw [foldNegations]
  exact ite_congr (propext ofNat_mod_two_eq_one_iff) (fun _ => rfl) fun _ => rfl

theorem ne_not : operand ≠ .not operand := by
  intro same
  have sizes := congrArg sizeOf same
  simp at sizes

/-- Behind two runs of negations an operand means the same if and only if both turn it around or
neither does. -/
theorem foldNegations_ofNat_eq_iff (count other : Nat) :
    operand.foldNegations (Int32.ofNat count) = operand.foldNegations (Int32.ofNat other) ↔
      (TurnsAround count ↔ TurnsAround other) := by
  rw [foldNegations_ofNat, foldNegations_ofNat]
  by_cases turns : TurnsAround count
  · by_cases otherTurns : TurnsAround other
    · simp [turns, otherTurns]
    · simp [turns, otherTurns, (ne_not operand).symm]
  · by_cases otherTurns : TurnsAround other
    · simp [turns, otherTurns, ne_not operand]
    · simp [turns, otherTurns]

theorem foldNegations_injective (negations : Int32) :
    Function.Injective (foldNegations negations) := by
  intro first second same
  rw [foldNegations, foldNegations] at same
  split at same
  · exact Expression.not.inj same
  · exact same

end Expression

/-- Without negations an operand is taken in as it is. -/
theorem OpenGroup.take_unnegated (alternatives operands : List Expression) (operand : Expression) :
    take ⟨alternatives, operands, 0⟩ (some operand) = ⟨alternatives, operand :: operands, 0⟩ :=
  congrArg (fun taken => mk alternatives (taken :: operands) 0) operand.foldNegations_zero

end SearchQuery
