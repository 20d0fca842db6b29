/-!
# Runs of code points

A character class of the Unicode standard is a finite union of runs of code
points. `CodePointRanges` stores such a union as a sorted list of inclusive
runs; `CodePointRanges.contains` decides membership and stops at the first run
above the code point, so text in the low blocks costs a few comparisons.
-/

namespace SearchQuery.Text

/-- Inclusive runs of code points, in increasing order and without overlap. -/
abbrev CodePointRanges := List (Nat × Nat)

namespace CodePointRanges

/-- Whether a code point lies in one of the runs. -/
def contains : CodePointRanges → Nat → Bool
  | [], _ => false
  | (first, last) :: later, code =>
      if code < first then false
      else if code ≤ last then true
      else contains later code

@[simp]
theorem contains_nil (code : Nat) : contains [] code = false :=
  rfl

/-- A code point of the class lies in a listed run. -/
theorem exists_mem_of_contains {ranges : CodePointRanges} {code : Nat}
    (inside : ranges.contains code = true) :
    ∃ run ∈ ranges, run.1 ≤ code ∧ code ≤ run.2 := by
  induction ranges with
  | nil => simp at inside
  | cons run later ih =>
      unfold contains at inside
      by_cases below : code < run.1
      · simp [below] at inside
      · by_cases within : code ≤ run.2
        · exact ⟨run, List.mem_cons_self, by omega, within⟩
        · simp only [below, within, if_false] at inside
          obtain ⟨other, otherMem, bounds⟩ := ih inside
          exact ⟨other, List.mem_cons_of_mem run otherMem, bounds⟩

end CodePointRanges

end SearchQuery.Text
