import SearchQuery.Proofs.Calendar.Milliseconds
import SearchQuery.Proofs.Evaluation
import SearchQuery.Proofs.Sql.Lowering

/-!
# Creation dates in SQL and in evaluation

Evaluation compares the instant of a document with the instant of a filter, to the
nanosecond. SQL compares the milliseconds of both, and for equality asks whether those of
the document lie in the range of a day.

The two agree on order comparisons unless the document and the filter fall into one
millisecond or a leap second comes between (`created_agrees_iff`), and they agree on days
but for one millisecond at the end of the supported range (`createdOn_agrees_iff`).
-/

namespace SearchQuery

open Calendar

/-- A date filter with a readable value is accepted with every operator. -/
theorem Criterion.ofFilter_created {value : String} {instant : Instant}
    (read : instantOfValue? value = some instant) (operator : Operator) :
    ofFilter .created operator value = .ok (ofInstant instant operator) := by
  cases operator <;> simp [ofFilter, Field.supports, read]

namespace Sql

/-! ## The leaves of date filters -/

namespace Leaf

variable (schema : Schema) (scope : String)

theorem fragment_created (comparison : Comparison) (instant : Instant) :
    (created comparison instant).fragment schema scope =
      ⟨"(d." ++ schema.name .documentScopeColumn ++ " = ? AND d." ++
          schema.name .createdAtColumn ++ " " ++ comparison.symbol ++ " ?)",
        [.text scope, .integer instant.millis]⟩ := by
  rw [Fragment.mk.injEq]
  constructor
  · rw [← String.toList_inj]
    simp [fragment, inScope]
  · simp [fragment, inScope]

theorem fragment_createdOn (day : Day) :
    (createdOn day).fragment schema scope =
      ⟨"(d." ++ schema.name .documentScopeColumn ++ " = ? AND d." ++
          schema.name .createdAtColumn ++ " >= ? AND d." ++ schema.name .createdAtColumn ++
          " < ?)",
        [.text scope, .integer day.millisRange.1, .integer day.millisRange.2]⟩ := by
  rw [Fragment.mk.injEq]
  constructor
  · rw [← String.toList_inj]
    simp [fragment, inScope]
  · simp [fragment, inScope]

end Leaf

namespace Compiler

variable (compiler : Compiler) (scope : String)

/-! ## Order comparisons -/

/-- SQL compares the milliseconds of a document with the milliseconds that are bound. This
gives the result of evaluation, which compares instants, in exactly these cases:

- neither instant is a leap second that overruns the other,
- and if both fall into one millisecond, they are equal, or the document comes first and
  is compared by `<=` or `>`, or it comes last and is compared by `<` or `>=`. -/
theorem created_agrees_iff {value : String} {instant : Instant}
    (read : instantOfValue? value = some instant) (comparison : Comparison)
    (document : Document) :
    let clause := Expression.filter .created (.ordering comparison) value
    let createdAt := document.createdAt
    (compiler.compile clause scope).fragment =
        ⟨"(d." ++ compiler.schema.name .documentScopeColumn ++ " = ? AND d." ++
            compiler.schema.name .createdAtColumn ++ " " ++ comparison.symbol ++ " ?)",
          [.text scope, .integer instant.millis]⟩ ∧
      (clause.matchesDocument document = comparison.holds createdAt.millis instant.millis ↔
        ¬createdAt.Overruns instant ∧ ¬instant.Overruns createdAt ∧
          (createdAt.millis = instant.millis →
            createdAt = instant ∨
              createdAt.compare instant = .lt ∧
                (comparison = .lessOrEqual ∨ comparison = .greater) ∨
              createdAt.compare instant = .gt ∧
                (comparison = .less ∨ comparison = .greaterOrEqual))) := by
  intro clause createdAt
  have valid := Criterion.ofFilter_created read (.ordering comparison)
  constructor
  · rw [← Leaf.fragment_created]
    exact compiler.fragment_compile_filter scope valid rfl
  · rw [Expression.matchesDocument_filter valid]
    exact Instant.admits_compare_eq_holds_iff comparison createdAt instant

/-- Half a millisecond into a day, SQL and evaluation agree that a document is not before
the start of the day. -/
theorem created_agrees_within_a_millisecond :
    let clause := Expression.filter .created (.ordering .less) "2024-01-01"
    let document : Document := ⟨"doc", "Plan", "flour", [], ⟨1704067200, 500000, by decide⟩⟩
    instantOfValue? "2024-01-01" = some ⟨1704067200, 0, by decide⟩ ∧
      document.createdAt.millis = 1704067200000 ∧
      clause.matchesDocument document =
        Comparison.less.holds document.createdAt.millis 1704067200000 := by
  intro clause document
  have read : instantOfValue? "2024-01-01" = some ⟨1704067200, 0, by decide⟩ := by
    decide +kernel
  have agrees := standard.created_agrees_iff "org_1" read .less document
  refine ⟨read, by decide, agrees.2.mpr ⟨by decide, by decide, fun _ => ?_⟩⟩
  exact .inr (.inr ⟨rfl, .inl rfl⟩)

/-- Half a millisecond into a day, a document is after the start of the day for evaluation,
but not for SQL, which sees one and the same millisecond. -/
theorem created_disagrees_within_a_millisecond :
    let clause := Expression.filter .created (.ordering .greater) "2024-01-01"
    let document : Document := ⟨"doc", "Plan", "flour", [], ⟨1704067200, 500000, by decide⟩⟩
    (standard.compile clause "org_1").fragment.params =
        [.text "org_1", .integer 1704067200000] ∧
      clause.matchesDocument document = true ∧
      Comparison.greater.holds document.createdAt.millis 1704067200000 = false := by
  intro clause document
  have read : instantOfValue? "2024-01-01" = some ⟨1704067200, 0, by decide⟩ := by
    decide +kernel
  have valid := Criterion.ofFilter_created read (.ordering .greater)
  refine ⟨?_, ?_, by decide⟩
  · rw [standard.fragment_compile_filter "org_1" valid rfl, Leaf.fragment_created]
    rfl
  · rw [Expression.matchesDocument_filter valid]
    rfl

/-! ## Calendar days -/

/-- SQL asks whether the milliseconds of a document lie in a range. Outside leap seconds
the document is in the range exactly when its day is that of the filter, but for one
exception: the range of the last supported day leaves out its last millisecond. -/
theorem createdOn_agrees_iff {value : String} {instant : Instant}
    (read : instantOfValue? value = some instant) {document : Document}
    (regular : document.createdAt.nanos < 1000000000) :
    let clause := Expression.filter .created .equal value
    let millis := document.createdAt.millis
    ∃ start stop,
      (compiler.compile clause scope).fragment =
          ⟨"(d." ++ compiler.schema.name .documentScopeColumn ++ " = ? AND d." ++
              compiler.schema.name .createdAtColumn ++ " >= ? AND d." ++
              compiler.schema.name .createdAtColumn ++ " < ?)",
            [.text scope, .integer start, .integer stop]⟩ ∧
        ((clause.matchesDocument document = true ↔ start ≤ millis ∧ millis < stop) ↔
          ¬(instant.day.next? = none ∧ millis = Day.lastMillis)) := by
  intro clause millis
  have valid := Criterion.ofFilter_created read .equal
  refine ⟨instant.day.millisRange.1, instant.day.millisRange.2, ?_, ?_⟩
  · rw [← Leaf.fragment_createdOn]
    exact compiler.fragment_compile_filter scope valid rfl
  · rw [Expression.matchesDocument_filter valid, ← Day.day_eq_iff_mem_millisRange regular]
    simp [Criterion.ofInstant, Criterion.holds, millis]

/-- The last nanosecond of a leap day is in the range of the day. -/
theorem createdOn_agrees_at_end_of_day :
    let value := "2024-02-29T12:30:00"
    let clause := Expression.filter .created .equal value
    let document : Document :=
      ⟨"doc", "Plan", "flour", [], ⟨1709251199, 999999999, by decide⟩⟩
    instantOfValue? value = some ⟨1709209800, 0, by decide⟩ ∧
      document.createdAt.nanos < 1000000000 ∧
      ∃ start stop,
        (standard.compile clause "org_1").fragment.params =
            [.text "org_1", .integer start, .integer stop] ∧
          clause.matchesDocument document = true ∧
          start ≤ document.createdAt.millis ∧ document.createdAt.millis < stop := by
  intro value clause document
  have read : instantOfValue? value = some ⟨1709209800, 0, by decide⟩ := by
    decide +kernel
  have regular : document.createdAt.nanos < 1000000000 := by
    decide
  have matched : clause.matchesDocument document = true := by
    rw [Expression.matchesDocument_filter (Criterion.ofFilter_created read .equal)]
    rfl
  obtain ⟨start, stop, compiled, agrees⟩ :=
    standard.createdOn_agrees_iff "org_1" read regular
  have within := (agrees.mpr (by decide)).mp matched
  refine ⟨read, regular, start, stop, ?_, matched, within.1, within.2⟩
  rw [compiled]

/-- In the last millisecond of the last supported day a document is of that day for
evaluation, but out of the range that SQL asks for. -/
theorem createdOn_disagrees_at_end_of_range :
    let clause := Expression.filter .created .equal "+262142-12-31"
    let document : Document :=
      ⟨"doc", "Plan", "flour", [], ⟨8210266876799, 999000000, by decide⟩⟩
    (standard.compile clause "org_1").fragment.params =
        [.text "org_1", .integer 8210266790400000, .integer 8210266876799999] ∧
      clause.matchesDocument document = true ∧
      ¬document.createdAt.millis < 8210266876799999 := by
  intro clause document
  have read : instantOfValue? "+262142-12-31" = some ⟨8210266790400, 0, by decide⟩ := by
    decide +kernel
  have valid := Criterion.ofFilter_created read .equal
  refine ⟨?_, ?_, by decide⟩
  · rw [standard.fragment_compile_filter "org_1" valid rfl, Leaf.fragment_createdOn]
    rfl
  · rw [Expression.matchesDocument_filter valid]
    rfl

end Compiler

end Sql

end SearchQuery
