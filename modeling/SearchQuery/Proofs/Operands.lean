import SearchQuery.Expression
import Mathlib.Data.List.Forall2

/-!
# Lists of operands

The two connectives are alike but for the value they make of the values of their
operands, so laws of both are stated once, for `Expression.connect`.

Tests on operands are compared member by member: two tests on one list, and one test
on two lists that correspond side by side.
-/

namespace SearchQuery

/-- The value of a connective on the values of its operands. -/
def Connective.value : Connective → List Bool → Bool
  | .and, operands => operands.all id
  | .or, operands => operands.any id

@[simp]
theorem Connective.value_singleton (connective : Connective) (operand : Bool) :
    connective.value [operand] = operand := by
  cases connective <;> simp [value]

/-- Operands joined by a connective. -/
def Expression.connect : Connective → List Expression → Expression
  | .and, operands => .and operands
  | .or, operands => .or operands

namespace Operands

universe u v

variable {α : Type u}

section OneList

variable {operands : List α} {first second : α → Bool}

theorem any_congr_of_mem (same : ∀ operand ∈ operands, first operand = second operand) :
    operands.any first = operands.any second := by
  rw [Bool.eq_iff_iff, List.any_eq_true, List.any_eq_true]
  exact exists_congr fun operand => and_congr_right fun mem => by rw [same operand mem]

theorem all_congr_of_mem (same : ∀ operand ∈ operands, first operand = second operand) :
    operands.all first = operands.all second := by
  rw [Bool.eq_iff_iff, List.all_eq_true, List.all_eq_true]
  exact forall₂_congr fun operand mem => by rw [same operand mem]

end OneList

/-- The greatest of some numbers is bounded if each of them is. -/
theorem foldr_max_le_iff {numbers : List Nat} {bound : Nat} :
    numbers.foldr max 0 ≤ bound ↔ ∀ number ∈ numbers, number ≤ bound := by
  induction numbers with
  | nil => simp
  | cons number numbers ih =>
      rw [List.foldr_cons, Nat.max_le, ih, List.forall_mem_cons]

section SideBySide

variable {sources targets : List α}

/-- What a relation implies for the members of one list, it implies side by side. -/
theorem forall₂_imp_of_mem {R S : α → α → Prop} (related : List.Forall₂ R sources targets)
    (implies : ∀ source ∈ sources, ∀ target, R source target → S source target) :
    List.Forall₂ S sources targets := by
  induction related with
  | nil => exact .nil
  | cons head _ ih =>
      refine .cons (implies _ List.mem_cons_self _ head) (ih ?_)
      intro source mem
      exact implies source (List.mem_cons_of_mem _ mem)

/-- Images that agree side by side are the same list of images. -/
theorem map_eq_of_forall₂ {β : Type v} {f g : α → β}
    (same : List.Forall₂ (fun source target => f source = g target) sources targets) :
    sources.map f = targets.map g := by
  rw [← List.forall₂_eq_eq_eq, List.forall₂_map_left_iff, List.forall₂_map_right_iff]
  exact same

variable {holds : α → Bool}
  (kept : List.Forall₂ (fun source target => holds source = true → holds target = true)
    sources targets)
include kept

theorem all_of_forall₂ (all : sources.all holds = true) : targets.all holds = true := by
  induction kept with
  | nil => rfl
  | cons head _ ih =>
      rw [List.all_cons, Bool.and_eq_true] at all ⊢
      exact ⟨head all.1, ih all.2⟩

theorem any_of_forall₂ (any : sources.any holds = true) : targets.any holds = true := by
  induction kept with
  | nil => exact any
  | cons head _ ih =>
      rw [List.any_cons, Bool.or_eq_true] at any ⊢
      exact any.imp head ih

end SideBySide

end Operands

end SearchQuery
