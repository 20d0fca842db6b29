import SearchQuery.Proofs.Operands
import SearchQuery.Proofs.Sql.Reading

/-!
# The truth of SQL formulas

Given the value of every elementary comparison for a row, the items of a formula have
a truth value: OR binds loosest, then AND, then NOT, and parentheses group. The value
depends on the items alone, so together with `Fragment.items?` it is the meaning of
the SQL text and not of what the text was written from.

Operands that show neither AND nor OR outside parentheses can be joined without
changing what any of them means (`truth_joined`).
-/

namespace SearchQuery.Sql

open Grammar

namespace Grammar

/-- Whether an item is the given keyword. -/
def Item.isKeyword (connective : Connective) : Item → Bool
  | .word characters => characters == connective.keyword.toList
  | _ => false

/-- The truth of an operand of AND, where every item comes with its own truth: NOT
turns it around, a group and the constants have their own, and all else is an
elementary comparison. -/
def operandTruth (comparison : List Item → Bool) : List (Item × Bool) → Bool
  | (.word ['N', 'O', 'T'], _) :: operand => !operandTruth comparison operand
  | [(.group _, truth)] => truth
  | [(.word ['1'], _)] => true
  | [(.word ['0'], _)] => false
  | items => comparison (items.map (·.1))

/-- The truth of a formula, where every item comes with its own truth. -/
def formulaTruth (comparison : List Item → Bool) (items : List (Item × Bool)) : Bool :=
  (items.splitOnP (·.1.isKeyword .or)).any fun alternative =>
    (alternative.splitOnP (·.1.isKeyword .and)).all (operandTruth comparison)

/-- The truth of a group; no other item has a truth of its own. -/
def Item.truth (comparison : List Item → Bool) : Item → Bool
  | .group items =>
      formulaTruth comparison (items.map fun item => (item, item.truth comparison))
  | _ => false

/-- The truth of a formula. -/
def truth (comparison : List Item → Bool) (items : List Item) : Bool :=
  formulaTruth comparison (items.map fun item => (item, item.truth comparison))

@[simp]
theorem Item.truth_group (comparison : List Item → Bool) (items : List Item) :
    (Item.group items).truth comparison = Grammar.truth comparison items := by
  rw [Item.truth, Grammar.truth]

/-- Items with neither AND nor OR outside parentheses. -/
def IsOperand (items : List Item) : Prop :=
  ∀ item ∈ items, ∀ connective : Connective, item.isKeyword connective = false

variable (comparison : List Item → Bool)

/-! ## Single operands -/

theorem truth_of_isOperand {items : List Item} (isOperand : IsOperand items) :
    truth comparison items =
      operandTruth comparison (items.map fun item => (item, item.truth comparison)) := by
  have unsplit : ∀ connective : Connective,
      (items.map fun item => (item, item.truth comparison)).splitOnP
          (·.1.isKeyword connective) =
        [items.map fun item => (item, item.truth comparison)] := by
    intro connective
    apply List.splitOnP_eq_singleton
    intro marked mem
    obtain ⟨item, itemMem, rfl⟩ := List.mem_map.mp mem
    exact isOperand item itemMem connective
  rw [truth, formulaTruth, unsplit, List.any_cons, List.any_nil, unsplit, List.all_cons,
    List.all_nil, Bool.and_true, Bool.or_false]

@[simp]
theorem isOperand_group (items : List Item) : IsOperand [.group items] := by
  simp [IsOperand, Item.isKeyword]

/-- Parentheses around a whole formula do not change it. -/
@[simp]
theorem truth_group (items : List Item) :
    truth comparison [.group items] = truth comparison items := by
  rw [truth_of_isOperand comparison (isOperand_group items)]
  simp [operandTruth]

theorem isOperand_negation (items : List Item) :
    IsOperand [.word ['N', 'O', 'T'], .group items] := by
  intro item mem connective
  rw [List.mem_cons, List.mem_singleton] at mem
  rcases mem with rfl | rfl
  · cases connective <;> rfl
  · rfl

/-- NOT before a group negates the whole group. -/
@[simp]
theorem truth_negation (items : List Item) :
    truth comparison [.word ['N', 'O', 'T'], .group items] = !truth comparison items := by
  rw [truth_of_isOperand comparison (isOperand_negation items)]
  simp [operandTruth]

/-! ## Joined operands -/

/-- The operands of a connective with its keyword between neighbours. -/
def joined (connective : Connective) (operands : List (List Item)) : List Item :=
  [.word connective.keyword.toList].intercalate operands

section Intercalate

universe u v

variable {α : Type u} {β : Type v}

theorem map_intercalate (f : α → β) (separator : α) (parts : List (List α)) :
    ([separator].intercalate parts).map f = [f separator].intercalate (parts.map (List.map f)) := by
  match parts with
  | [] => rfl
  | [part] => simp
  | first :: second :: rest =>
      have tail := map_intercalate f separator (second :: rest)
      rw [List.map_cons] at tail
      rw [List.intercalate_cons_cons, List.map_cons, List.map_cons, List.intercalate_cons_cons,
        List.map_append, List.map_append, tail]
      rfl

theorem eq_or_mem_of_mem_intercalate {separator x : α} {parts : List (List α)}
    (mem : x ∈ [separator].intercalate parts) : x = separator ∨ ∃ part ∈ parts, x ∈ part := by
  match parts with
  | [] => simp at mem
  | [part] => exact .inr ⟨part, List.mem_cons_self, by simpa using mem⟩
  | first :: second :: rest =>
      rw [List.intercalate_cons_cons, List.mem_append, List.mem_append, List.mem_singleton] at mem
      rcases mem with (inFirst | isSeparator) | inRest
      · exact .inr ⟨first, List.mem_cons_self, inFirst⟩
      · exact .inl isSeparator
      · rcases eq_or_mem_of_mem_intercalate inRest with isSeparator | ⟨part, partMem, inPart⟩
        · exact .inl isSeparator
        · exact .inr ⟨part, List.mem_cons_of_mem first partMem, inPart⟩

/-- Splitting undoes joining if no part contains a place to split at. -/
theorem splitOnP_intercalate {p : α → Bool} {separator : α} (separates : p separator = true)
    {parts : List (List α)} (nonempty : parts ≠ [])
    (unsplit : ∀ part ∈ parts, ∀ x ∈ part, p x = false) :
    ([separator].intercalate parts).splitOnP p = parts := by
  match parts with
  | [] => contradiction
  | [part] =>
      rw [List.intercalate_singleton]
      exact List.splitOnP_eq_singleton (unsplit part List.mem_cons_self)
  | first :: second :: rest =>
      rw [List.intercalate_cons_cons, List.append_assoc, List.singleton_append,
        List.splitOnP_append_cons_of_forall_mem (unsplit first List.mem_cons_self) _ separates,
        splitOnP_intercalate separates (List.cons_ne_nil second rest)]
      intro part partMem
      exact unsplit part (List.mem_cons_of_mem first partMem)

end Intercalate

/-- Joined operands mean what the connective makes of the operands, each taken whole. -/
theorem truth_joined (connective : Connective) {operands : List (List Item)}
    (nonempty : operands ≠ []) (whole : ∀ operand ∈ operands, IsOperand operand) :
    truth comparison (joined connective operands) =
      connective.value (operands.map (truth comparison)) := by
  have marked := map_intercalate (fun item : Item => (item, item.truth comparison))
    (.word connective.keyword.toList) operands
  have markedNonempty : operands.map (List.map fun item : Item =>
      (item, item.truth comparison)) ≠ [] := by
    rwa [ne_eq, List.map_eq_nil_iff]
  have markedWhole : ∀ other : Connective, ∀ part ∈ operands.map (List.map fun item : Item =>
      (item, item.truth comparison)), ∀ item ∈ part, item.1.isKeyword other = false := by
    intro other part partMem item itemMem
    obtain ⟨operand, operandMem, rfl⟩ := List.mem_map.mp partMem
    obtain ⟨source, sourceMem, rfl⟩ := List.mem_map.mp itemMem
    exact whole operand operandMem source sourceMem other
  rw [truth, formulaTruth, joined, marked]
  cases connective with
  | and =>
      rw [List.splitOnP_eq_singleton]
      · rw [List.any_cons, List.any_nil, Bool.or_false, splitOnP_intercalate rfl markedNonempty
          (markedWhole .and), List.all_map, Connective.value, List.all_map]
        apply Operands.all_congr_of_mem
        intro operand mem
        exact (truth_of_isOperand comparison (whole operand mem)).symm
      · intro item mem
        rcases eq_or_mem_of_mem_intercalate mem with rfl | ⟨part, partMem, inPart⟩
        · rfl
        · exact markedWhole .or part partMem item inPart
  | or =>
      rw [splitOnP_intercalate rfl markedNonempty (markedWhole .or), List.any_map,
        Connective.value, List.any_map]
      apply Operands.any_congr_of_mem
      intro operand mem
      rw [Function.comp_apply, Function.comp_apply, id_eq, List.splitOnP_eq_singleton,
        truth_of_isOperand comparison (whole operand mem)]
      · simp
      · exact markedWhole .and _ (List.mem_map_of_mem mem)

end Grammar

/-- The truth of a fragment for the row on which comparisons have the given values;
nothing if the fragment cannot be read. -/
def Fragment.truth? (comparison : List Item → Bool) (fragment : Fragment) : Option Bool :=
  fragment.items?.map (truth comparison)

theorem Fragment.Reads.truth?_eq_some {fragment : Fragment} {items : List Item}
    (reads : fragment.Reads items) (comparison : List Item → Bool) :
    fragment.truth? comparison = some (truth comparison items) := by
  rw [Fragment.truth?, reads.items?_eq_some, Option.map_some]

end SearchQuery.Sql
