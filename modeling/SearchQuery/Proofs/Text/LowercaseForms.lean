import SearchQuery.Proofs.Text.Composition
import SearchQuery.Text.Lowercase

/-!
# Lower-case forms and normalization

What lower case makes of a character is left as it is by lower case, so a text is in lower case
once and for all. Normalization does not change that: decompositions and composites of characters
in lower case are in lower case (`isLower_normalize`).
-/

namespace SearchQuery.Text

/-- A character that lower case leaves as it is. -/
def IsLower (c : Char) : Prop :=
  lowercaseChar c = [c]

instance (c : Char) : Decidable (IsLower c) :=
  inferInstanceAs (Decidable (_ = _))

/-! ## Code points -/

/-- The images of the members of a run. -/
def LowercaseRun.images (run : LowercaseRun) : List Nat :=
  (List.range ((run.last - run.first) / run.step + 1)).map fun place => run.image + run.step * place

/-- A code point that lies between no images of one run. -/
def IsNoImage (code : Nat) : Prop :=
  ∀ run ∈ lowercaseRuns, code < run.image ∨ run.image + (run.last - run.first) < code

instance (code : Nat) : Decidable (IsNoImage code) :=
  inferInstanceAs (Decidable (∀ run ∈ lowercaseRuns, _))

theorem IsNoImage.notMem {code : Nat} (outside : IsNoImage code) :
    code ∉ lowercaseRuns.flatMap LowercaseRun.images := by
  intro mem
  obtain ⟨run, runMem, image⟩ := List.mem_flatMap.mp mem
  obtain ⟨place, placeMem, rfl⟩ := List.mem_map.mp image
  have within : run.step * place ≤ run.last - run.first := by
    rw [List.mem_range, Nat.lt_succ_iff] at placeMem
    exact (Nat.mul_le_mul_left run.step placeMem).trans (Nat.mul_div_le _ _)
  have apart := outside run runMem
  omega

/-- The runs of the mapping as a search tree. -/
def lowercaseTree : BinaryTree LowercaseRun :=
  searchTree lowercaseRuns

/-- The image of a code point under the run that covers it, if one does. -/
def imageUnder (code : Nat) : Option LowercaseRun → Nat
  | none => code
  | some run => if (code - run.first) % run.step = 0 then code - run.first + run.image else code

/-- The image of a code point, looked up in the search tree. -/
def lowercaseCode (code : Nat) : Nat :=
  imageUnder code (seekIn LowercaseRun.first LowercaseRun.last lowercaseTree code)

/-- A code point that lower case leaves as it is. -/
def IsLowerCode (code : Nat) : Prop :=
  lowercaseCode code = code ∧ code ≠ 0x0130

instance (code : Nat) : Decidable (IsLowerCode code) :=
  inferInstanceAs (Decidable (_ ∧ _))

theorem lowercaseIn_eq_seek (runs : List LowercaseRun) (code : Nat) :
    lowercaseIn runs code =
      imageUnder code (seek LowercaseRun.first LowercaseRun.last runs code) := by
  induction runs with
  | nil => rfl
  | cons run later ih =>
      rw [lowercaseIn, seek, ih]
      split
      · rfl
      split <;> rfl

theorem ascends_lowercaseRuns :
    ascends LowercaseRun.first LowercaseRun.last lowercaseRuns = true := by
  decide +kernel

theorem growTree_lowercaseRuns :
    (growTree lowercaseRuns.length.log2.succ lowercaseRuns).2 = [] := by
  decide +kernel

theorem seekIn_lowercaseTree (code : Nat) :
    seekIn LowercaseRun.first LowercaseRun.last lowercaseTree code =
      seek LowercaseRun.first LowercaseRun.last lowercaseRuns code :=
  seekIn_searchTree ascends_lowercaseRuns growTree_lowercaseRuns code

theorem lowercaseIn_eq_lowercaseCode (code : Nat) :
    lowercaseIn lowercaseRuns code = lowercaseCode code := by
  rw [lowercaseIn_eq_seek, lowercaseCode, seekIn_lowercaseTree]

/-- Lower case leaves a code point as it is or takes it to one of the images. -/
theorem lowercaseIn_eq_or_mem_images (runs : List LowercaseRun) (code : Nat) :
    lowercaseIn runs code = code ∨
      lowercaseIn runs code ∈ runs.flatMap LowercaseRun.images := by
  induction runs with
  | nil => exact .inl rfl
  | cons run later ih =>
      rw [List.flatMap_cons, List.mem_append, lowercaseIn]
      split
      · exact .inl rfl
      split
      · split
        · rename_i notBefore notAfter member
          refine .inr (.inl (List.mem_map.mpr ⟨(code - run.first) / run.step, ?_, ?_⟩))
          · rw [List.mem_range]
            exact Nat.lt_succ_of_le (Nat.div_le_div_right (Nat.sub_le_sub_right notAfter _))
          · rw [Nat.mul_div_cancel' (Nat.dvd_of_mod_eq_zero member), Nat.add_comm]
        · exact .inl rfl
      · exact ih.imp_right .inr

theorem images_lowercaseRuns : ∀ image ∈ lowercaseRuns.flatMap LowercaseRun.images,
    image.isValidChar ∧ IsLowerCode image := by
  decide +kernel

theorem isLowerCode_parts : ∀ entry ∈ canonicalDecompositions, IsLowerCode entry.1 →
    ∀ part ∈ entry.2, IsLowerCode part := by
  decide +kernel

theorem isLowerCode_composite : ∀ group ∈ primaryComposites, ∀ pair ∈ group.2,
    IsLowerCode group.1 → IsLowerCode pair.1 → IsLowerCode pair.2 := by
  decide +kernel

/-- Hangul has no letter case. -/
theorem isLowerCode_hangul {code : Nat}
    (hangul : 0x1100 ≤ code ∧ code < 0x1200 ∨ 0xAC00 ≤ code ∧ code < 0xD7A4) :
    IsLowerCode code := by
  have outside : ∀ run ∈ lowercaseRuns, (run.last < 0x1100 ∨ 0x1200 ≤ run.first) ∧
      (run.last < 0xAC00 ∨ 0xD7A4 ≤ run.first) := by
    decide +kernel
  refine ⟨?_, by omega⟩
  rw [lowercaseCode, seekIn_lowercaseTree]
  cases found : seek LowercaseRun.first LowercaseRun.last lowercaseRuns code with
  | none => rfl
  | some run =>
      obtain ⟨mem, notBefore, notAfter⟩ := mem_of_seek found
      have apart := outside run mem
      omega

/-! ## Characters -/

section Characters

variable {c d first second composite : Char}

theorem isValidChar_lowercaseIn (c : Char) : (lowercaseIn lowercaseRuns c.toNat).isValidChar := by
  rcases lowercaseIn_eq_or_mem_images lowercaseRuns c.toNat with same | image
  · rw [same]
    exact c.valid
  · exact (images_lowercaseRuns _ image).1

theorem isLower_iff : IsLower c ↔ IsLowerCode c.toNat := by
  rw [IsLower, IsLowerCode, lowercaseChar, ← lowercaseIn_eq_lowercaseCode]
  split
  · rename_i dotted
    apply iff_of_false
    · intro same
      simpa using congrArg List.length same
    · exact fun lower => lower.2 dotted
  · rename_i notDotted
    rw [List.cons.injEq, and_iff_left rfl, and_iff_left notDotted]
    constructor
    · intro same
      have codes := congrArg Char.toNat same
      rwa [toNat_ofNat (isValidChar_lowercaseIn c)] at codes
    · intro same
      rw [same, Char.ofNat_toNat]

/-- The forms of the dotted capital i and of the capital sigma, which stand in no table. -/
theorem isLower_of_special :
    IsLower 'i' ∧ IsLower '\u0307' ∧ IsLower 'σ' ∧ IsLower 'ς' ∧ ¬ IsLower 'Σ' := by
  decide +kernel

/-- Lower case leaves the lower-case forms of characters as they are. -/
theorem isLower_of_mem_lowercaseChar (mem : d ∈ lowercaseChar c) : IsLower d := by
  unfold lowercaseChar at mem
  split at mem
  · rw [List.mem_cons, List.mem_singleton] at mem
    rcases mem with rfl | rfl
    · exact isLower_of_special.1
    · exact isLower_of_special.2.1
  · rename_i notDotted
    obtain rfl := List.mem_singleton.mp mem
    rw [isLower_iff, toNat_ofNat (isValidChar_lowercaseIn c)]
    rcases lowercaseIn_eq_or_mem_images lowercaseRuns c.toNat with same | image
    · rw [same]
      exact ⟨by rw [← lowercaseIn_eq_lowercaseCode, same], notDotted⟩
    · exact (images_lowercaseRuns _ image).2

/-- A kind of characters without letter case, to which no lower-case form belongs, is kept. -/
theorem kind_of_mem_lowercaseChar {kind : Char → Bool} (caseless : ∀ c, kind c = true → IsLower c)
    (dotted : kind 'i' = false ∧ kind '\u0307' = false)
    (noImage : ∀ c, kind c = true → IsNoImage c.toNat)
    (mem : d ∈ lowercaseChar c) : kind d = kind c := by
  by_cases lower : IsLower c
  · rw [lower, List.mem_singleton] at mem
    rw [mem]
  · have other : kind c = false := Bool.eq_false_iff.mpr fun isKind => lower (caseless c isKind)
    rw [other]
    unfold lowercaseChar at mem
    split at mem
    · rw [List.mem_cons, List.mem_singleton] at mem
      rcases mem with rfl | rfl
      · exact dotted.1
      · exact dotted.2
    · obtain rfl := List.mem_singleton.mp mem
      rcases lowercaseIn_eq_or_mem_images lowercaseRuns c.toNat with same | image
      · rw [same, Char.ofNat_toNat]
        exact other
      · rw [Bool.eq_false_iff]
        intro isKind
        have outside := noImage _ isKind
        rw [toNat_ofNat (isValidChar_lowercaseIn c)] at outside
        exact outside.notMem image

theorem lowercaseChar_ne_nil (c : Char) : lowercaseChar c ≠ [] := by
  unfold lowercaseChar
  split <;> exact List.cons_ne_nil _ _

theorem isLower_of_mem_decomposeChar (lower : IsLower c) (mem : d ∈ decomposeChar c) :
    IsLower d := by
  rw [decomposeChar_eq_map, List.mem_map] at mem
  obtain ⟨part, partMem, rfl⟩ := mem
  have valid := (decomposeCode_parts c.toNat c.valid part partMem).1
  rw [isLower_iff, toNat_ofNat valid]
  have parts : IsLowerCode c.toNat → ∀ part ∈ decomposeCode c.toNat, IsLowerCode part := by
    apply decomposeCode_cases (motive := fun code parts =>
      IsLowerCode code → ∀ part ∈ parts, IsLowerCode part)
    · intro code jamo decomposed _ part mem
      exact isLowerCode_hangul (.inl (Hangul.mem_decompose? decomposed mem))
    · exact isLowerCode_parts
    · intro code _ lower part mem
      exact List.mem_singleton.mp mem ▸ lower
  exact parts (isLower_iff.mp lower) part partMem

theorem isLower_of_composePair? (composed : composePair? first second = some composite)
    (firstLower : IsLower first) (secondLower : IsLower second) : IsLower composite := by
  obtain ⟨code, rfl, origin⟩ := exists_of_composePair? composed
  rcases origin with joined | ⟨group, groupMem, groupCode, mem⟩
  · have valid := (Hangul.decompose_compose? joined).1
    rw [isLower_iff, toNat_ofNat valid]
    exact isLowerCode_hangul (.inr (Hangul.isSyllable_compose? joined))
  · have valid := (decomposeCode_composite group groupMem _ mem).1
    rw [isLower_iff] at firstLower secondLower
    rw [isLower_iff, toNat_ofNat valid]
    exact isLowerCode_composite group groupMem _ mem (groupCode ▸ secondLower) firstLower

end Characters

/-! ## Texts -/

section Texts

variable {text : List Char}

theorem lowercaseOnto_of_isLower (lower : ∀ c ∈ text, IsLower c) (done : List Char)
    (afterCased : Bool) : lowercaseOnto done afterCased text = done.reverse ++ text := by
  induction text generalizing done afterCased with
  | nil => simp [lowercaseOnto]
  | cons c rest ih =>
      rw [List.forall_mem_cons] at lower
      have notSigma : c ≠ 'Σ' := by
        rintro rfl
        exact isLower_of_special.2.2.2.2 lower.1
      rw [lowercaseOnto, if_neg notSigma, lower.1, ih lower.2]
      simp

theorem lowercase_of_isLower (lower : ∀ c ∈ text, IsLower c) : lowercase text = text :=
  lowercaseOnto_of_isLower lower [] false

theorem isLower_lowercase (text : List Char) : ∀ c ∈ lowercase text, IsLower c := by
  suffices onto : ∀ done afterCased, (∀ c ∈ done, IsLower c) →
      ∀ c ∈ lowercaseOnto done afterCased text, IsLower c from
    onto [] false (List.forall_mem_nil _)
  induction text with
  | nil =>
      intro done _ lower c mem
      exact lower c (List.mem_reverse.mp mem)
  | cons c rest ih =>
      intro done afterCased lower
      rw [lowercaseOnto]
      apply ih
      rw [List.forall_mem_append]
      refine ⟨?_, lower⟩
      intro d mem
      rw [List.mem_reverse] at mem
      split at mem
      · rw [List.mem_singleton] at mem
        subst mem
        split
        · exact isLower_of_special.2.2.2.1
        · exact isLower_of_special.2.2.1
      · exact isLower_of_mem_lowercaseChar mem

/-- Lower case leaves a lower-case form as it is. -/
theorem lowercase_lowercase (text : List Char) : lowercase (lowercase text) = lowercase text :=
  lowercase_of_isLower (isLower_lowercase text)

theorem isLower_decompose (lower : ∀ c ∈ text, IsLower c) : ∀ c ∈ decompose text, IsLower c := by
  intro d mem
  rw [decompose_eq_orderMarks, (perm_orderMarks _).mem_iff, List.mem_flatMap] at mem
  obtain ⟨c, cMem, partMem⟩ := mem
  exact isLower_of_mem_decomposeChar (lower c cMem) partMem

/-- Normalization keeps a text in lower case. -/
theorem isLower_normalize (lower : ∀ c ∈ text, IsLower c) : ∀ c ∈ normalize text, IsLower c :=
  forall_mem_compose (fun _ _ _ => isLower_of_composePair?) (isLower_decompose lower)

end Texts

end SearchQuery.Text
