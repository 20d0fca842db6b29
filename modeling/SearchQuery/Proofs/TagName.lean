import SearchQuery.Proofs.Sql.TagFilter
import SearchQuery.Proofs.Text.WhiteSpace

/-!
# Normalized names of tags

A normalized name has no white space at its ends and is in lower case. It need not be in
normalization form C, because letters are folded after normalization: there is no composite of
capital J and a caron, but there is one of small j and a caron. So a normalized name may have
another normalized name (`normalizeTagName_is_canonical_iff`), and a tag is not found by the name
that a store keeps of it. The second normalized name is its own.
-/

namespace SearchQuery

open Text

theorem toList_normalizeTagName (name : String) :
    (normalizeTagName name).toList = lowercase (normalize (trim name.toList)) :=
  String.toList_ofList

theorem isTrimmed_normalizeTagName (name : String) : IsTrimmed (normalizeTagName name).toList := by
  rw [toList_normalizeTagName]
  exact isTrimmed_lowercase (isTrimmed_normalize (isTrimmed_trim _))

theorem isLower_normalizeTagName (name : String) :
    ∀ c ∈ (normalizeTagName name).toList, IsLower c := by
  rw [toList_normalizeTagName]
  exact isLower_lowercase _

/-- Of a trimmed name in lower case, only the composition of characters is left to do. -/
theorem normalizeTagName_of_isLower {name : String} (trimmed : IsTrimmed name.toList)
    (lower : ∀ c ∈ name.toList, IsLower c) :
    normalizeTagName name = String.ofList (normalize name.toList) := by
  rw [normalizeTagName, trimmed.trim_eq, lowercase_of_isLower (isLower_normalize lower)]

theorem normalizeTagName_normalizeTagName (name : String) :
    normalizeTagName (normalizeTagName name) =
      String.ofList (normalize (normalizeTagName name).toList) :=
  normalizeTagName_of_isLower (isTrimmed_normalizeTagName name) (isLower_normalizeTagName name)

/-- A name is normalized for good by normalizing it twice. -/
theorem normalizeTagName_thrice (name : String) :
    normalizeTagName (normalizeTagName (normalizeTagName name)) =
      normalizeTagName (normalizeTagName name) := by
  rw [normalizeTagName_normalizeTagName (normalizeTagName name),
    normalizeTagName_normalizeTagName name, String.toList_ofList, normalize_normalize]

theorem normalizeTagName_eq_iff (name : String) :
    normalizeTagName (normalizeTagName name) = normalizeTagName name ↔
      normalize (normalizeTagName name).toList = (normalizeTagName name).toList := by
  rw [normalizeTagName_normalizeTagName, ← String.toList_inj, String.toList_ofList]

section Filter

variable {name value : String}

theorem matchesDocument_tag (document : Document) :
    Expression.matchesDocument (.filter .tag .equal value) document =
      document.tags.any (Criterion.tagMatches (normalizeTagName value) (tagIdentifier? value)) :=
  Expression.matchesDocument_filter (Criterion.ofFilter_tag value) document

theorem tagMatches_of_name {tag : Tag} (same : normalizeTagName tag.name = normalizeTagName value) :
    Criterion.tagMatches (normalizeTagName value) (tagIdentifier? value) tag = true := by
  unfold Criterion.tagMatches
  rw [same, beq_self_eq_true, Bool.or_true]

/-- The identifier `z` is none that a value spells. -/
theorem tagMatches_z :
    Criterion.tagMatches (normalizeTagName value) (tagIdentifier? value) ⟨"z", name⟩ = true ↔
      normalizeTagName name = normalizeTagName value := by
  unfold Criterion.tagMatches
  cases tagIdentifier? value with
  | none => simp
  | some uuid =>
      have folded : lowercase "z".toList = ['z'] := by decide +kernel
      have other : String.ofList (lowercase "z".toList) ≠ uuid.text := by
        intro same
        have mem : 'z' ∈ uuid.text.toList := by
          rw [← same, String.toList_ofList, folded]
          exact List.mem_singleton_self 'z'
        exact absurd (Uuid.isLow_of_mem_text mem) (by decide)
      rw [Bool.or_eq_true, beq_iff_eq, beq_iff_eq, or_iff_right other]

/-- The tags with a name are found by a value if and only if it has the same normalized name. -/
theorem forall_matchesDocument_tag_iff :
    (∀ document : Document, (∃ tag ∈ document.tags, tag.name = name) →
        Expression.matchesDocument (.filter .tag .equal value) document = true) ↔
      normalizeTagName name = normalizeTagName value := by
  constructor
  · intro found
    have alone := found ⟨"", "", "", [⟨"z", name⟩], ⟨0, 0, by decide⟩⟩
      ⟨⟨"z", name⟩, List.mem_singleton_self _, rfl⟩
    rw [matchesDocument_tag, List.any_cons, List.any_nil, Bool.or_false] at alone
    exact tagMatches_z.mp alone
  · rintro same document ⟨tag, mem, rfl⟩
    rw [matchesDocument_tag, List.any_eq_true]
    exact ⟨tag, mem, tagMatches_of_name same⟩

end Filter

/-- A normalized name is trimmed and in lower case. It is its own normalized name, and finds the
tags with the name that it comes from, if and only if it is in normalization form C. The
normalized name of a normalized name always is. -/
theorem normalizeTagName_is_canonical_iff (name : String) :
    let form := (normalizeTagName name).toList
    trim form = form ∧ lowercase form = form ∧
      (normalizeTagName (normalizeTagName name) = normalizeTagName name ↔ normalize form = form) ∧
      ((∀ document : Document, (∃ tag ∈ document.tags, tag.name = name) →
          Expression.matchesDocument (.filter .tag .equal (normalizeTagName name)) document =
            true) ↔
        normalize form = form) ∧
      normalizeTagName (normalizeTagName (normalizeTagName name)) =
        normalizeTagName (normalizeTagName name) := by
  intro form
  have trimmed := (isTrimmed_normalizeTagName name).trim_eq
  have lower := lowercase_of_isLower (isLower_normalizeTagName name)
  have itself := normalizeTagName_eq_iff name
  refine ⟨trimmed, lower, itself, ?_, normalizeTagName_thrice name⟩
  rw [forall_matchesDocument_tag_iff, eq_comm]
  exact itself

/-- The normalized name of capital J with a caron keeps the caron apart, which the normalized
name of it does not, and it does not find the tag. -/
theorem normalizeTagName_is_not_canonical :
    let document : Document := ⟨"doc", "", "", [⟨"z", "J\u030C"⟩], ⟨1704067200, 0, by decide⟩⟩
    normalizeTagName "J\u030C" = "j\u030C" ∧ normalizeTagName "j\u030C" = "\u01F0" ∧
      Expression.matchesDocument (.filter .tag .equal (normalizeTagName "J\u030C")) document =
        false := by
  intro document
  have first : normalizeTagName "J\u030C" = "j\u030C" := by decide +kernel
  have second : normalizeTagName "j\u030C" = "\u01F0" := by decide +kernel
  refine ⟨first, second, ?_⟩
  rw [matchesDocument_tag, List.any_cons, List.any_nil, Bool.or_false, Bool.eq_false_iff]
  intro found
  have same := tagMatches_z.mp found
  rw [first, second] at same
  exact absurd same (by decide)

/-- A name without capital letters is normalized for good at once. -/
theorem normalizeTagName_eq_of_isLower {name : String}
    (lower : ∀ c ∈ normalize (trim name.toList), IsLower c) :
    normalizeTagName (normalizeTagName name) = normalizeTagName name := by
  rw [normalizeTagName_eq_iff, toList_normalizeTagName, lowercase_of_isLower lower,
    normalize_normalize]

end SearchQuery
