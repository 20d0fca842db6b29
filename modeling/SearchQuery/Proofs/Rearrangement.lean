import SearchQuery.Proofs.Diagnosis
import SearchQuery.Proofs.Interchange

/-!
# The order and the grouping of operands

AND and OR are commutative and associative. `Expression.Rearranges` lets the operands of a
connective change places, and lets an operand with the connective of its parent be dissolved into
its own operands, at any depth and any number of times, in both directions. Neither evaluation nor
the list of issues, but for its order, depends on it.
-/

namespace SearchQuery

namespace Connective

/-- The value of a connective does not depend on the order of the operands. -/
theorem value_perm (connective : Connective) {operands others : List Bool}
    (perm : operands.Perm others) : connective.value operands = connective.value others := by
  cases connective with
  | and => exact perm.all_eq
  | or => exact perm.any_eq

/-- An operand may be the value of the same connective on operands of its own. -/
theorem value_splice (connective : Connective) (front inner back : List Bool) :
    connective.value (front ++ connective.value inner :: back) =
      connective.value (front ++ inner ++ back) := by
  cases connective <;> simp [value]

end Connective

namespace Expression

/-- The least congruence by which operands may change places and operands with the connective of
their parent may be dissolved. -/
inductive Rearranges : Expression → Expression → Prop
  | refl (expression : Expression) : Rearranges expression expression
  | symm {left right : Expression} (rearranges : Rearranges left right) : Rearranges right left
  | trans {first second third : Expression} (front : Rearranges first second)
      (back : Rearranges second third) : Rearranges first third
  | permute (connective : Connective) {operands others : List Expression}
      (perm : operands.Perm others) :
      Rearranges (.connect connective operands) (.connect connective others)
  | splice (connective : Connective) (front back : List Expression) {inner : List Expression}
      (nonempty : inner ≠ []) :
      Rearranges (.connect connective (front ++ .connect connective inner :: back))
        (.connect connective (front ++ inner ++ back))
  | operand (connective : Connective) (front back : List Expression) {left right : Expression}
      (rearranges : Rearranges left right) :
      Rearranges (.connect connective (front ++ left :: back))
        (.connect connective (front ++ right :: back))
  | not {left right : Expression} (rearranges : Rearranges left right) :
      Rearranges (.not left) (.not right)

section Permuted

variable (connective : Connective) {operands others : List Expression}
  (perm : operands.Perm others)
include perm

theorem interchangeable_of_perm :
    Interchangeable (.connect connective operands) (.connect connective others) := by
  have sameEmpty : operands.isEmpty = others.isEmpty := by
    rw [Bool.eq_iff_iff, List.isEmpty_iff, List.isEmpty_iff]
    exact ⟨fun empty => (empty ▸ perm).nil_eq.symm, fun empty => (empty ▸ perm).eq_nil⟩
  constructor
  · rw [overEmpty_connect, overEmpty_connect]
  · rw [isDegraded_connect, isDegraded_connect, sameEmpty, perm.any_eq]
  · intro document
    rw [matchesDocument_connect, matchesDocument_connect, sameEmpty,
      connective.value_perm (perm.map _)]

theorem issues_perm_of_perm :
    (issues (.connect connective operands)).Perm (issues (.connect connective others)) := by
  by_cases empty : operands = []
  · subst empty
    rw [perm.nil_eq]
  · have othersNonempty : others ≠ [] := by
      rintro rfl
      exact empty perm.eq_nil
    rw [issues_connect connective empty, issues_connect connective othersNonempty]
    exact perm.flatMap_right issues

end Permuted

section Spliced

variable (connective : Connective) (front back : List Expression) {inner : List Expression}
  (nonempty : inner ≠ [])
include nonempty

theorem interchangeable_splice :
    Interchangeable (.connect connective (front ++ .connect connective inner :: back))
      (.connect connective (front ++ inner ++ back)) := by
  have innerNonempty : inner.isEmpty = false := List.isEmpty_eq_false_iff.mpr nonempty
  have wholeNonempty : (front ++ inner ++ back).isEmpty = false := by
    simp [nonempty]
  constructor
  · rw [overEmpty_connect, overEmpty_connect]
  · rw [isDegraded_connect, isDegraded_connect, wholeNonempty]
    simp [isDegraded_connect, innerNonempty]
  · intro document
    have spliced := connective.value_splice (front.map (·.matchesDocument document))
      (inner.map (·.matchesDocument document)) (back.map (·.matchesDocument document))
    rw [matchesDocument_connect, matchesDocument_connect, wholeNonempty, List.map_append,
      List.map_cons, matchesDocument_connect, innerNonempty, Bool.not_false, Bool.true_and, spliced]
    simp

theorem issues_splice :
    issues (.connect connective (front ++ .connect connective inner :: back)) =
      issues (.connect connective (front ++ inner ++ back)) := by
  rw [issues_connect connective (by simp), issues_connect connective (by simp [nonempty]),
    List.flatMap_append, List.flatMap_cons, issues_connect connective nonempty,
    List.flatMap_append, List.flatMap_append, List.append_assoc]

end Spliced

theorem Rearranges.interchangeable {left right : Expression} (rearranges : Rearranges left right) :
    Interchangeable left right := by
  induction rearranges with
  | refl expression => exact .refl expression
  | symm _ ih => exact ih.symm
  | trans _ _ front back => exact front.trans back
  | permute connective perm => exact interchangeable_of_perm connective perm
  | splice connective front back nonempty =>
      exact interchangeable_splice connective front back nonempty
  | operand connective front back _ ih =>
      have same (expressions : List Expression) :
          List.Forall₂ Interchangeable expressions expressions :=
        List.forall₂_same.mpr fun expression _ => .refl expression
      exact .connect connective (List.rel_append (same front) (.cons ih (same back)))
  | not _ ih => exact ih.not

theorem Rearranges.issues_perm {left right : Expression} (rearranges : Rearranges left right) :
    left.issues.Perm right.issues := by
  induction rearranges with
  | refl expression => exact .refl _
  | symm _ ih => exact ih.symm
  | trans _ _ front back => exact front.trans back
  | permute connective perm => exact issues_perm_of_perm connective perm
  | splice connective front back nonempty =>
      rw [issues_splice connective front back nonempty]
  | operand connective front back _ ih =>
      rw [issues_connect connective (by simp), issues_connect connective (by simp),
        List.flatMap_append, List.flatMap_append, List.flatMap_cons, List.flatMap_cons]
      exact (ih.append_right _).append_left _
  | not rearranges ih =>
      rw [issues_not_eq, issues_not_eq, rearranges.interchangeable.overEmpty]
      split
      · exact .refl _
      · exact ih

/-- Operands may change places and be regrouped, at any depth, and nothing is told from it:
neither the documents that match, nor whether some clause is invalid, nor, whatever the schema and
the scope, which issues the compiler reports. -/
theorem rearranged_agree {left right : Expression} (rearranges : Rearranges left right) :
    (∀ document, left.matchesDocument document = right.matchesDocument document) ∧
      left.isDegraded = right.isDegraded ∧
      ∀ (compiler : Sql.Compiler) (scope : String),
        (compiler.compile left scope).issues.Perm (compiler.compile right scope).issues := by
  refine ⟨rearranges.interchangeable.matchesDocument, rearranges.interchangeable.isDegraded, ?_⟩
  intro compiler scope
  rw [Sql.Compiler.compile, Sql.Compiler.compile, issues_lower, issues_lower]
  exact rearranges.issues_perm.map _

/-- Below a negation and beside it operands change places and groups, among them two clauses that
are reported. -/
theorem rearranged_agree_below_negation :
    let ordered := Expression.filter .name (.ordering .less) "a"
    let links := Expression.filter .has .equal "links"
    let flour := Expression.text "flour"
    let left := Expression.and [.not (.or [ordered, .or [flour, links]]), .and [flour, .empty]]
    let right := Expression.and [flour, .empty, .not (.or [links, ordered, flour])]
    Rearranges left right ∧
      (∀ document, left.matchesDocument document = right.matchesDocument document) ∧
      left.isDegraded = right.isDegraded ∧
      ∀ (compiler : Sql.Compiler) (scope : String),
        (compiler.compile left scope).issues.Perm (compiler.compile right scope).issues := by
  intro ordered links flour left right
  let negated := Expression.not (.or [links, ordered, flour])
  have alternatives : Rearranges (.or [ordered, .or [flour, links]])
      (.or [links, ordered, flour]) := by
    have moved : ([ordered, flour] ++ [links]).Perm ([links] ++ [ordered, flour]) :=
      List.perm_append_comm
    exact (Rearranges.splice .or [ordered] [] (List.cons_ne_nil flour [links])).trans
      (.permute .or moved)
  have below : Rearranges left (.and [negated, .and [flour, .empty]]) :=
    .operand .and [] [.and [flour, .empty]] alternatives.not
  have dissolved : Rearranges (.and [negated, .and [flour, .empty]])
      (.and [negated, flour, .empty]) :=
    .splice .and [negated] [] (List.cons_ne_nil flour [.empty])
  have moved : ([negated] ++ [flour, .empty]).Perm ([flour, .empty] ++ [negated]) :=
    List.perm_append_comm
  have rearranges : Rearranges left right :=
    below.trans (dissolved.trans (.permute .and moved))
  exact ⟨rearranges, rearranged_agree rearranges⟩

end Expression

end SearchQuery
