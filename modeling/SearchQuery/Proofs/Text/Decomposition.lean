import SearchQuery.Text.Normalization.Composition
import SearchQuery.Proofs.Text.CanonicalOrder
import SearchQuery.Proofs.Text.SortedTables

/-!
# Full decompositions

The parts of a decomposition have no decomposition themselves, so a decomposed text is left as
it is (`decompose_decompose`). A composite has the decompositions of the two characters that it
is composed of, one after the other (`decomposeChar_of_composePair?`). Both are properties of the
tables and of the arithmetic of Hangul syllables.
-/

namespace SearchQuery.Text

/-! ## Hangul -/

namespace Hangul

/-- The parts of a syllable are jamo. -/
theorem mem_decompose? {code part : Nat} {jamo : List Nat}
    (decomposed : decompose? code = some jamo) (mem : part ∈ jamo) : 0x1100 ≤ part ∧ part < 0x1200 := by
  have base : syllableBase = 0xAC00 := rfl
  have count : syllableCount = 11172 := rfl
  have block : vowelCount * trailingCount = 588 := rfl
  have leading : leadingBase = 0x1100 := rfl
  have vowel : vowelBase = 0x1161 := rfl
  have trailing : trailingBase = 0x11A7 := rfl
  have row : trailingCount = 28 := rfl
  rw [decompose?] at decomposed
  split at decomposed
  · obtain rfl := Option.some.inj decomposed
    rw [block, row] at mem
    split at mem
    · rw [List.mem_cons, List.mem_singleton] at mem
      omega
    · rw [List.mem_cons, List.mem_cons, List.mem_singleton] at mem
      omega
  · contradiction

theorem ne_nil_of_decompose? {code : Nat} {jamo : List Nat}
    (decomposed : decompose? code = some jamo) : jamo ≠ [] := by
  rw [decompose?] at decomposed
  split at decomposed
  · obtain rfl := Option.some.inj decomposed
    split <;> exact List.cons_ne_nil _ _
  · contradiction

end Hangul

/-! ## Code points -/

/-- The decompositions of the table as a search tree. -/
def decompositionTree : BinaryTree (Nat × List Nat) :=
  searchTree canonicalDecompositions

/-- The full canonical decomposition of a code point. -/
def decomposeCode (code : Nat) : List Nat :=
  match Hangul.decompose? code with
  | some jamo => jamo
  | none => ((seekIn Prod.fst Prod.fst decompositionTree code).map Prod.snd).getD [code]

theorem decompositionIn_eq_seek (table : List (Nat × List Nat)) (code : Nat) :
    decompositionIn table code = (seek Prod.fst Prod.fst table code).map Prod.snd := by
  induction table with
  | nil => rfl
  | cons entry later ih =>
      rw [decompositionIn, seek, ih]
      split
      · rfl
      split
      · rw [if_pos (by omega)]
        rfl
      · rw [if_neg (by omega)]

theorem ascends_canonicalDecompositions :
    ascends Prod.fst Prod.fst canonicalDecompositions = true := by
  decide +kernel

theorem growTree_canonicalDecompositions :
    (growTree canonicalDecompositions.length.log2.succ canonicalDecompositions).2 = [] := by
  decide +kernel

theorem seekIn_decompositionTree (code : Nat) :
    seekIn Prod.fst Prod.fst decompositionTree code =
      seek Prod.fst Prod.fst canonicalDecompositions code :=
  seekIn_searchTree ascends_canonicalDecompositions growTree_canonicalDecompositions code

theorem decomposeChar_eq_map (c : Char) :
    decomposeChar c = (decomposeCode c.toNat).map Char.ofNat := by
  rw [decomposeChar, decomposeCode, seekIn_decompositionTree, decompositionIn_eq_seek]
  cases Hangul.decompose? c.toNat with
  | some jamo => rfl
  | none =>
      cases seek Prod.fst Prod.fst canonicalDecompositions c.toNat with
      | some entry => rfl
      | none => simp

/-- A property of all decompositions holds of syllables, of the entries of the table, and of
code points that are their own decomposition. -/
theorem decomposeCode_cases {motive : Nat → List Nat → Prop}
    (syllable : ∀ code jamo, Hangul.decompose? code = some jamo → motive code jamo)
    (listed : ∀ entry ∈ canonicalDecompositions, motive entry.1 entry.2)
    (own : ∀ code, decomposeCode code = [code] → motive code [code]) (code : Nat) :
    motive code (decomposeCode code) := by
  cases decomposed : Hangul.decompose? code with
  | some jamo =>
      rw [decomposeCode, decomposed]
      exact syllable code jamo decomposed
  | none =>
      cases found : seekIn Prod.fst Prod.fst decompositionTree code with
      | none =>
          have itself : decomposeCode code = [code] := by
            rw [decomposeCode, decomposed, found]
            rfl
          rw [itself]
          exact own code itself
      | some entry =>
          rw [decomposeCode, decomposed, found]
          rw [seekIn_decompositionTree] at found
          obtain ⟨mem, notBefore, notAfter⟩ := mem_of_seek found
          obtain rfl : entry.1 = code := Nat.le_antisymm notBefore notAfter
          exact listed entry mem

theorem decomposeCode_jamo {code : Nat} (isJamo : 0x1100 ≤ code ∧ code < 0x1200) :
    decomposeCode code = [code] := by
  have each : ∀ offset < 0x100, decomposeCode (0x1100 + offset) = [0x1100 + offset] := by
    decide +kernel
  have own := each (code - 0x1100) (by omega)
  rwa [Nat.add_sub_cancel' isJamo.1] at own

theorem parts_canonicalDecompositions : ∀ entry ∈ canonicalDecompositions, ∀ part ∈ entry.2,
    part.isValidChar ∧ decomposeCode part = [part] := by
  decide +kernel

theorem decomposeCode_composite : ∀ group ∈ primaryComposites, ∀ pair ∈ group.2,
    pair.2.isValidChar ∧
      decomposeCode pair.2 = decomposeCode pair.1 ++ decomposeCode group.1 := by
  decide +kernel

/-- The parts of a decomposition are code points that are their own decompositions. -/
theorem decomposeCode_parts (code : Nat) : code.isValidChar →
    ∀ part ∈ decomposeCode code, part.isValidChar ∧ decomposeCode part = [part] := by
  apply decomposeCode_cases (motive := fun code parts => code.isValidChar →
    ∀ part ∈ parts, part.isValidChar ∧ decomposeCode part = [part])
  · intro code jamo decomposed _ part mem
    have isJamo := Hangul.mem_decompose? decomposed mem
    exact ⟨.inl (by omega), decomposeCode_jamo isJamo⟩
  · intro entry mem _ part partMem
    exact parts_canonicalDecompositions entry mem part partMem
  · intro code own valid part mem
    obtain rfl := List.mem_singleton.mp mem
    exact ⟨valid, own⟩

/-! ## Composites -/

namespace Hangul

theorem decomposeCode_syllable {index : Nat} (bound : index < syllableCount) :
    decomposeCode (syllableBase + index) =
      if index % 28 = 0 then [leadingBase + index / 588, vowelBase + index % 588 / 28]
      else [leadingBase + index / 588, vowelBase + index % 588 / 28,
        trailingBase + index % 28] := by
  have isSyllable : decompose? (syllableBase + index) =
      some (if index % 28 = 0 then [leadingBase + index / 588, vowelBase + index % 588 / 28]
        else [leadingBase + index / 588, vowelBase + index % 588 / 28,
          trailingBase + index % 28]) := by
    rw [decompose?, if_pos ⟨Nat.le_add_right _ _, Nat.add_lt_add_left bound _⟩,
      Nat.add_sub_cancel_left]
    rfl
  rw [decomposeCode, isSyllable]

/-- Composition of jamo yields syllables. -/
theorem isSyllable_compose? {first second syllable : Nat}
    (composed : compose? first second = some syllable) :
    0xAC00 ≤ syllable ∧ syllable < 0xD7A4 := by
  have base : syllableBase = 0xAC00 := rfl
  have count : syllableCount = 11172 := rfl
  have leading : leadingCount = 19 := rfl
  have vowel : vowelCount = 21 := rfl
  have trailing : trailingCount = 28 := rfl
  rw [compose?, vowel, trailing] at composed
  split at composed
  · obtain rfl := Option.some.inj composed
    omega
  split at composed
  · obtain rfl := Option.some.inj composed
    omega
  · contradiction

theorem decompose_compose? {first second syllable : Nat}
    (composed : compose? first second = some syllable) :
    syllable.isValidChar ∧
      decomposeCode syllable = decomposeCode first ++ decomposeCode second := by
  have base : syllableBase = 0xAC00 := rfl
  have count : syllableCount = 11172 := rfl
  have leading : leadingBase = 0x1100 ∧ leadingCount = 19 := ⟨rfl, rfl⟩
  have vowel : vowelBase = 0x1161 ∧ vowelCount = 21 := ⟨rfl, rfl⟩
  have trailing : trailingBase = 0x11A7 ∧ trailingCount = 28 := ⟨rfl, rfl⟩
  rw [compose?, vowel.2, trailing.2] at composed
  split at composed
  · rename_i jamo
    obtain ⟨row, rfl⟩ := Nat.exists_eq_add_of_le jamo.1
    obtain ⟨column, rfl⟩ := Nat.exists_eq_add_of_le jamo.2.2.1
    obtain rfl := Option.some.inj composed
    have bound : (row * 21 + column) * 28 < syllableCount := by omega
    have rowOf : (row * 21 + column) * 28 / 588 = row := by omega
    have columnOf : (row * 21 + column) * 28 % 588 / 28 = column := by omega
    have firstJamo : decomposeCode (leadingBase + row) = [leadingBase + row] :=
      decomposeCode_jamo (by omega)
    have secondJamo : decomposeCode (vowelBase + column) = [vowelBase + column] :=
      decomposeCode_jamo (by omega)
    rw [Nat.add_sub_cancel_left, Nat.add_sub_cancel_left, decomposeCode_syllable bound,
      if_pos (Nat.mul_mod_left _ _), rowOf, columnOf, firstJamo, secondJamo]
    exact ⟨.inl (by omega), rfl⟩
  split at composed
  · rename_i extended
    obtain ⟨index, rfl⟩ := Nat.exists_eq_add_of_le extended.1
    obtain ⟨final, rfl⟩ := Nat.exists_eq_add_of_le (Nat.le_of_lt extended.2.2.2.1)
    obtain rfl := Option.some.inj composed
    rw [Nat.add_sub_cancel_left] at extended
    have bound : index + final < syllableCount := by omega
    have rowOf : (index + final) / 588 = index / 588 := by omega
    have columnOf : (index + final) % 588 / 28 = index % 588 / 28 := by omega
    have finalOf : (index + final) % 28 = final := by omega
    have finalJamo : decomposeCode (trailingBase + final) = [trailingBase + final] :=
      decomposeCode_jamo (by omega)
    rw [Nat.add_sub_cancel_left, Nat.add_assoc, decomposeCode_syllable bound,
      decomposeCode_syllable (by omega), if_neg (by omega), if_pos extended.2.2.1, rowOf, columnOf,
      finalOf, finalJamo]
    exact ⟨.inl (by omega), rfl⟩
  · contradiction

end Hangul

theorem mem_of_compositeOf {group : List (Nat × Nat)} {code composite : Nat}
    (found : compositeOf group code = some composite) : (code, composite) ∈ group := by
  induction group with
  | nil => contradiction
  | cons pair later ih =>
      rw [compositeOf] at found
      split at found
      · contradiction
      split at found
      · rename_i equal
        obtain rfl := Option.some.inj found
        obtain rfl := equal
        exact List.mem_cons_self
      · exact List.mem_cons_of_mem pair (ih found)

theorem mem_of_mem_compositesWith {table : List (Nat × List (Nat × Nat))} {code : Nat}
    {pair : Nat × Nat} (mem : pair ∈ compositesWith table code) :
    ∃ group ∈ table, group.1 = code ∧ pair ∈ group.2 := by
  induction table with
  | nil => contradiction
  | cons group later ih =>
      rw [compositesWith] at mem
      split at mem
      · contradiction
      split at mem
      · rename_i equal
        exact ⟨group, List.mem_cons_self, equal.symm, mem⟩
      · obtain ⟨other, otherMem, has⟩ := ih mem
        exact ⟨other, List.mem_cons_of_mem group otherMem, has⟩

/-! ## Characters -/

section Characters

variable {c d first second composite : Char}

theorem toNat_ofNat {code : Nat} (valid : code.isValidChar) : (Char.ofNat code).toNat = code := by
  rw [Char.ofNat, dif_pos valid]
  rfl

/-- The parts of a decomposition have no decomposition. -/
theorem decomposeChar_of_mem (mem : d ∈ decomposeChar c) : decomposeChar d = [d] := by
  rw [decomposeChar_eq_map, List.mem_map] at mem
  obtain ⟨part, partMem, rfl⟩ := mem
  obtain ⟨valid, own⟩ := decomposeCode_parts c.toNat c.valid part partMem
  rw [decomposeChar_eq_map, toNat_ofNat valid, own]
  rfl

/-- Composites are syllables and the composites of the table. -/
theorem exists_of_composePair? (composed : composePair? first second = some composite) :
    ∃ code, composite = Char.ofNat code ∧
      (Hangul.compose? first.toNat second.toNat = some code ∨
        ∃ group ∈ primaryComposites, group.1 = second.toNat ∧ (first.toNat, code) ∈ group.2) := by
  rw [composePair?] at composed
  split at composed
  · rename_i syllable joined
    exact ⟨syllable, (Option.some.inj composed).symm, .inl joined⟩
  · rw [Option.map_eq_some_iff] at composed
    obtain ⟨code, found, rfl⟩ := composed
    exact ⟨code, rfl, .inr (mem_of_mem_compositesWith (mem_of_compositeOf found))⟩

/-- A composite has the decompositions of its parts, one after the other. -/
theorem decomposeChar_of_composePair? (composed : composePair? first second = some composite) :
    decomposeChar composite = decomposeChar first ++ decomposeChar second := by
  obtain ⟨code, rfl, origin⟩ := exists_of_composePair? composed
  have parts : code.isValidChar ∧
      decomposeCode code = decomposeCode first.toNat ++ decomposeCode second.toNat := by
    rcases origin with joined | ⟨group, groupMem, groupCode, mem⟩
    · exact Hangul.decompose_compose? joined
    · have listed := decomposeCode_composite group groupMem _ mem
      rwa [groupCode] at listed
  rw [decomposeChar_eq_map, decomposeChar_eq_map, decomposeChar_eq_map, toNat_ofNat parts.1,
    parts.2, List.map_append]

end Characters

/-! ## Texts -/

/-- A text of characters that have no decomposition. -/
def IsDecomposed (text : List Char) : Prop :=
  ∀ c ∈ text, decomposeChar c = [c]

theorem IsDecomposed.flatMap_eq {text : List Char} (decomposed : IsDecomposed text) :
    text.flatMap decomposeChar = text := by
  induction text with
  | nil => rfl
  | cons c rest ih =>
      rw [IsDecomposed, List.forall_mem_cons] at decomposed
      rw [List.flatMap_cons, decomposed.1, ih decomposed.2]
      rfl

theorem decompose_eq_orderMarks (text : List Char) :
    decompose text = orderMarks (text.flatMap decomposeChar) :=
  rfl

theorem isDecomposed_decompose (text : List Char) : IsDecomposed (decompose text) := by
  intro d mem
  rw [decompose_eq_orderMarks, (perm_orderMarks _).mem_iff, List.mem_flatMap] at mem
  obtain ⟨c, -, partMem⟩ := mem
  exact decomposeChar_of_mem partMem

theorem isOrdered_decompose (text : List Char) : IsOrdered (decompose text) :=
  isOrdered_orderMarks _

/-- A text of characters without decompositions and in canonical order is left as it is. -/
theorem IsDecomposed.decompose_eq {text : List Char} (decomposed : IsDecomposed text)
    (ordered : IsOrdered text) : decompose text = text := by
  rw [decompose_eq_orderMarks, decomposed.flatMap_eq, ordered.orderMarks_eq]

theorem decompose_decompose (text : List Char) : decompose (decompose text) = decompose text :=
  (isDecomposed_decompose text).decompose_eq (isOrdered_decompose text)

end SearchQuery.Text
