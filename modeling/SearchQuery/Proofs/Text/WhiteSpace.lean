import SearchQuery.Proofs.Text.FinalSigma
import SearchQuery.Proofs.Text.LowercaseForms
import SearchQuery.Text.WhiteSpace
import Mathlib.Data.List.DropRight
import Mathlib.Data.List.TakeWhile

/-!
# White space under normalization and lower case

Neither normalization nor lower case makes white space of other characters or other characters of
white space. So a text without white space at its ends has none there afterwards
(`isTrimmed_normalize`, `isTrimmed_lowercase`).
-/

namespace SearchQuery.Text

/-! ## Ends of texts -/

/-- A text with no character of a kind at its ends. -/
structure FreeAtEnds (kind : Char → Bool) (text : List Char) : Prop where
  head : ∀ c ∈ text.head?, kind c = false
  last : ∀ c ∈ text.getLast?, kind c = false

/-- A text without the characters of a kind at its ends. -/
def stripEnds (kind : Char → Bool) (text : List Char) : List Char :=
  (text.dropWhile kind).rdropWhile kind

section Ends

variable {kind : Char → Bool} {text middle before after : List Char}

theorem FreeAtEnds.reverse (free : FreeAtEnds kind text) : FreeAtEnds kind text.reverse := by
  constructor
  · rw [List.head?_reverse]
    exact free.last
  · rw [List.getLast?_reverse]
    exact free.head

theorem FreeAtEnds.dropWhile_eq (free : FreeAtEnds kind text) : text.dropWhile kind = text := by
  cases text with
  | nil => rfl
  | cons c rest =>
      have other : ¬ kind c = true := Bool.eq_false_iff.mp (free.head c rfl)
      rw [List.dropWhile_cons_of_neg other]

theorem FreeAtEnds.stripEnds_eq (free : FreeAtEnds kind text) : stripEnds kind text = text := by
  rw [stripEnds, free.dropWhile_eq, List.rdropWhile, free.reverse.dropWhile_eq,
    List.reverse_reverse]

theorem exists_eq_append_stripEnds (kind : Char → Bool) (text : List Char) :
    ∃ before after, text = before ++ (stripEnds kind text ++ after) ∧
      (∀ c ∈ before, kind c = true) ∧ ∀ c ∈ after, kind c = true := by
  refine ⟨text.takeWhile kind, (text.dropWhile kind).rtakeWhile kind, ?_, ?_, ?_⟩
  · rw [stripEnds, List.rdropWhile_append_rtakeWhile, List.takeWhile_append_dropWhile]
  · exact fun _ => List.mem_takeWhile_imp
  · exact fun _ => List.mem_rtakeWhile_imp

theorem freeAtEnds_stripEnds (kind : Char → Bool) (text : List Char) :
    FreeAtEnds kind (stripEnds kind text) := by
  have stopped {c : Char} {rest : List Char} (head : c ∈ (rest.dropWhile kind).head?) :
      kind c = false := by
    have first := List.head?_dropWhile_not kind rest
    rw [Option.mem_def.mp head] at first
    exact first
  constructor
  · intro c head
    obtain ⟨after, split⟩ := List.rdropWhile_prefix kind (text.dropWhile kind)
    apply stopped
    rw [← split]
    exact List.mem_head?_append_of_mem_head? head
  · intro c last
    rw [stripEnds, List.rdropWhile, List.getLast?_reverse] at last
    exact stopped last

/-- Characters of the kind at the ends make no difference. -/
theorem stripEnds_append (beforeKind : ∀ c ∈ before, kind c = true)
    (afterKind : ∀ c ∈ after, kind c = true) :
    stripEnds kind (before ++ (middle ++ after)) = stripEnds kind middle := by
  rw [stripEnds, stripEnds, List.dropWhile_append_of_pos beforeKind, List.dropWhile_append]
  split
  · rename_i empty
    rw [List.isEmpty_iff.mp empty, List.dropWhile_eq_nil_iff.mpr afterKind]
  · have reversed : ∀ c ∈ after.reverse, kind c = true :=
      fun c mem => afterKind c (List.mem_reverse.mp mem)
    rw [List.rdropWhile, List.reverse_append, List.dropWhile_append_of_pos reversed]
    rfl

theorem FreeAtEnds.imp {other : Char → Bool} (free : FreeAtEnds kind text)
    (implies : ∀ c, kind c = false → other c = false) : FreeAtEnds other text :=
  ⟨fun c head => implies c (free.head c head), fun c last => implies c (free.last c last)⟩

theorem FreeAtEnds.filter {keep : Char → Bool} (free : FreeAtEnds kind text)
    (kept : ∀ c, kind c = false → keep c = true) : FreeAtEnds kind (text.filter keep) := by
  have first {rest : List Char} (head : ∀ c ∈ rest.head?, kind c = false) :
      ∀ c ∈ (rest.filter keep).head?, kind c = false := by
    cases rest with
    | nil => exact head
    | cons c rest =>
        rw [List.filter_cons_of_pos (kept c (head c rfl))]
        exact head
  constructor
  · exact first free.head
  · rw [← List.head?_reverse, ← List.filter_reverse]
    exact first free.reverse.head

theorem FreeAtEnds.flatMap {image : Char → List Char} (free : FreeAtEnds kind text)
    (ne_nil : ∀ c, image c ≠ []) (same : ∀ c, ∀ d ∈ image c, kind d = kind c) :
    FreeAtEnds kind (text.flatMap image) := by
  constructor
  · intro d head
    cases text with
    | nil => contradiction
    | cons c rest =>
        rw [List.flatMap_cons, List.head?_append_of_ne_nil _ (ne_nil c)] at head
        rw [same c d (List.mem_of_mem_head? head)]
        exact free.head c rfl
  · intro d last
    rcases List.eq_nil_or_concat text with rfl | ⟨before, c, rfl⟩
    · contradiction
    · rw [List.concat_eq_append] at free last
      rw [List.flatMap_append, List.flatMap_singleton,
        List.getLast?_append_of_ne_nil _ (ne_nil c)] at last
      rw [same c d (List.mem_of_getLast? last)]
      exact free.last c List.getLast?_concat

end Ends

/-- A text without white space at its ends. -/
abbrev IsTrimmed (text : List Char) : Prop :=
  FreeAtEnds isWhiteSpace text

theorem isTrimmed_trim (text : List Char) : IsTrimmed (trim text) :=
  freeAtEnds_stripEnds isWhiteSpace text

theorem FreeAtEnds.trim_eq {text : List Char} (trimmed : IsTrimmed text) : trim text = text :=
  trimmed.stripEnds_eq

/-- White space around a value is trimmed away. -/
theorem trim_toList_append {before value after : String} (blankBefore : isBlank before = true)
    (blankAfter : isBlank after = true) :
    trim (before ++ value ++ after).toList = trim value.toList := by
  rw [String.toList_append, String.toList_append, List.append_assoc]
  exact stripEnds_append (isBlank_iff.mp blankBefore) (isBlank_iff.mp blankAfter)

/-! ## White space in tables -/

/-- What holds of the code points in the table of white space holds of white space. -/
theorem isWhiteSpace_cases {motive : Nat → Prop}
    (listed : ∀ range ∈ whiteSpaceRanges, ∀ offset < range.2 + 1 - range.1,
      motive (range.1 + offset)) {c : Char} (isSpace : isWhiteSpace c = true) :
    motive c.toNat := by
  obtain ⟨range, mem, lower, upper⟩ := CodePointRanges.exists_mem_of_contains isSpace
  have inRange : c.toNat - range.1 < range.2 + 1 - range.1 := by omega
  have holds := listed range mem (c.toNat - range.1) inRange
  rwa [Nat.add_sub_cancel' lower] at holds

/-- White space decomposes into white space. It is in no combining class, has no letter case and is
no lower-case form. -/
theorem code_of_isWhiteSpace {c : Char} (isSpace : isWhiteSpace c = true) :
    (decomposeCode c.toNat).length = 1 ∧
      (∀ part ∈ decomposeCode c.toNat, whiteSpaceRanges.contains part = true) ∧
      classIn combiningClassRanges c.toNat = 0 ∧ IsLowerCode c.toNat ∧ IsNoImage c.toNat := by
  refine isWhiteSpace_cases (motive := fun code => (decomposeCode code).length = 1 ∧
    (∀ part ∈ decomposeCode code, whiteSpaceRanges.contains part = true) ∧
    classIn combiningClassRanges code = 0 ∧ IsLowerCode code ∧ IsNoImage code) ?_ isSpace
  decide +kernel

theorem ne_nil_parts : ∀ entry ∈ canonicalDecompositions, entry.2 ≠ [] := by
  decide +kernel

theorem isWhiteSpace_of_parts : ∀ entry ∈ canonicalDecompositions, ∀ part ∈ entry.2,
    whiteSpaceRanges.contains part = true → whiteSpaceRanges.contains entry.1 = true := by
  decide +kernel

/-! ## Characters -/

section Characters

variable {c d : Char}

theorem combiningClass_of_isWhiteSpace (isSpace : isWhiteSpace c = true) : combiningClass c = 0 :=
  (code_of_isWhiteSpace isSpace).2.2.1

theorem isLower_of_isWhiteSpace (isSpace : isWhiteSpace c = true) : IsLower c :=
  isLower_iff.mpr (code_of_isWhiteSpace isSpace).2.2.2.1

theorem isNoImage_of_isWhiteSpace (isSpace : isWhiteSpace c = true) : IsNoImage c.toNat :=
  (code_of_isWhiteSpace isSpace).2.2.2.2

theorem decomposeChar_ne_nil (c : Char) : decomposeChar c ≠ [] := by
  have code : decomposeCode c.toNat ≠ [] := by
    apply decomposeCode_cases (motive := fun _ parts => parts ≠ [])
    · exact fun code jamo => Hangul.ne_nil_of_decompose?
    · exact ne_nil_parts
    · exact fun code _ => List.cons_ne_nil code []
  rw [decomposeChar_eq_map]
  exact mt List.map_eq_nil_iff.mp code

theorem isWhiteSpace_of_mem_decomposeChar (mem : d ∈ decomposeChar c) :
    isWhiteSpace d = isWhiteSpace c := by
  rw [decomposeChar_eq_map, List.mem_map] at mem
  obtain ⟨part, partMem, rfl⟩ := mem
  have valid := (decomposeCode_parts c.toNat c.valid part partMem).1
  rw [Bool.eq_iff_iff, isWhiteSpace, toNat_ofNat valid]
  constructor
  · intro partSpace
    have parts : ∀ part ∈ decomposeCode c.toNat, whiteSpaceRanges.contains part = true →
        whiteSpaceRanges.contains c.toNat = true := by
      apply decomposeCode_cases (motive := fun code parts => ∀ part ∈ parts,
        whiteSpaceRanges.contains part = true → whiteSpaceRanges.contains code = true)
      · intro code jamo decomposed part mem partSpace
        have isJamo := Hangul.mem_decompose? decomposed mem
        have outside : ∀ range ∈ whiteSpaceRanges, range.2 < 0x1100 ∨ 0x1200 ≤ range.1 := by
          decide
        obtain ⟨range, rangeMem, inside⟩ := CodePointRanges.exists_mem_of_contains partSpace
        have apart := outside range rangeMem
        omega
      · exact isWhiteSpace_of_parts
      · intro code _ part mem partSpace
        exact List.mem_singleton.mp mem ▸ partSpace
    exact parts part partMem partSpace
  · intro isSpace
    exact (code_of_isWhiteSpace isSpace).2.1 part partMem

/-- White space decomposes into white space. -/
theorem exists_decomposeChar_of_isWhiteSpace (isSpace : isWhiteSpace c = true) :
    ∃ d, decomposeChar c = [d] ∧ isWhiteSpace d = true := by
  have single := (code_of_isWhiteSpace isSpace).1
  have length : (decomposeChar c).length = 1 := by
    rw [decomposeChar_eq_map, List.length_map, single]
  obtain ⟨d, only⟩ := List.length_eq_one_iff.mp length
  refine ⟨d, only, ?_⟩
  rw [isWhiteSpace_of_mem_decomposeChar (only ▸ List.mem_singleton_self d), isSpace]

theorem isWhiteSpace_of_mem_lowercaseChar (mem : d ∈ lowercaseChar c) :
    isWhiteSpace d = isWhiteSpace c :=
  kind_of_mem_lowercaseChar (fun _ => isLower_of_isWhiteSpace) (by decide)
    (fun _ => isNoImage_of_isWhiteSpace) mem

theorem isWhiteSpace_of_mem_lowercaseLetter {before after : List Char}
    (mem : d ∈ lowercaseLetter before after c) : isWhiteSpace d = isWhiteSpace c := by
  by_cases sigma : c = 'Σ'
  · rw [sigma, lowercaseLetter_sigma, List.mem_singleton] at mem
    rw [mem, sigma]
    split <;> decide
  · rw [lowercaseLetter_of_ne sigma] at mem
    exact isWhiteSpace_of_mem_lowercaseChar mem

theorem lowercaseLetter_ne_nil (before after : List Char) (c : Char) :
    lowercaseLetter before after c ≠ [] := by
  unfold lowercaseLetter
  split
  · exact List.cons_ne_nil _ _
  · exact lowercaseChar_ne_nil c

end Characters

/-! ## Texts -/

section Texts

variable {text : List Char}

theorem exists_lowercase_cons (c : Char) (rest : List Char) :
    ∃ later, lowercase (c :: rest) = lowercaseLetter [] rest c ++ later := by
  have split := lowercase_append_append [] [c] rest
  simp only [lowercaseBetween, List.nil_append, List.append_nil, List.singleton_append] at split
  exact ⟨_, split⟩

theorem exists_lowercase_concat (before : List Char) (c : Char) :
    ∃ earlier, lowercase (before ++ [c]) = earlier ++ lowercaseLetter before [] c := by
  have split := lowercase_append_append before [c] []
  simp only [lowercaseBetween, List.append_nil] at split
  exact ⟨_, split⟩

/-- Lower case makes no white space at the ends of a text. -/
theorem isTrimmed_lowercase (trimmed : IsTrimmed text) : IsTrimmed (lowercase text) := by
  constructor
  · intro d head
    cases text with
    | nil => contradiction
    | cons c rest =>
        obtain ⟨later, split⟩ := exists_lowercase_cons c rest
        rw [split, List.head?_append_of_ne_nil _ (lowercaseLetter_ne_nil _ _ _)] at head
        rw [isWhiteSpace_of_mem_lowercaseLetter (List.mem_of_mem_head? head)]
        exact trimmed.head c rfl
  · intro d last
    rcases List.eq_nil_or_concat text with rfl | ⟨before, c, rfl⟩
    · contradiction
    · obtain ⟨earlier, split⟩ := exists_lowercase_concat before c
      rw [List.concat_eq_append] at trimmed last
      rw [split, List.getLast?_append_of_ne_nil _ (lowercaseLetter_ne_nil _ _ _)] at last
      rw [isWhiteSpace_of_mem_lowercaseLetter (List.mem_of_getLast? last)]
      exact trimmed.last c List.getLast?_concat

theorem isWhiteSpace_of_class_ne_zero {c : Char} (isMark : combiningClass c ≠ 0) :
    isWhiteSpace c = false :=
  Bool.eq_false_iff.mpr fun isSpace => isMark (combiningClass_of_isWhiteSpace isSpace)

theorem isTrimmed_decompose (trimmed : IsTrimmed text) : IsTrimmed (decompose text) := by
  have parts := trimmed.flatMap decomposeChar_ne_nil fun _ _ => isWhiteSpace_of_mem_decomposeChar
  constructor
  · intro d head
    rcases mem_head?_orderMarks head with isMark | head
    · exact isWhiteSpace_of_class_ne_zero isMark
    · exact parts.head d head
  · intro d last
    rcases mem_getLast?_orderMarks last with isMark | last
    · exact isWhiteSpace_of_class_ne_zero isMark
    · exact parts.last d last

theorem isTrimmed_of_decompose (trimmed : IsTrimmed (decompose text)) : IsTrimmed text := by
  constructor
  · intro c head
    rw [Bool.eq_false_iff]
    intro isSpace
    obtain ⟨d, only, remains⟩ := exists_decomposeChar_of_isWhiteSpace isSpace
    obtain ⟨rest, rfl⟩ := List.head?_eq_some_iff.mp head
    have split : decompose (c :: rest) = d :: orderMarks (rest.flatMap decomposeChar) := by
      have apart := orderMarks_append_base (combiningClass_of_isWhiteSpace remains) []
        (rest.flatMap decomposeChar)
      rw [orderMarks_nil, List.nil_append, List.nil_append] at apart
      rw [decompose_eq_orderMarks, List.flatMap_cons, only, List.singleton_append, apart]
    rw [split] at trimmed
    exact Bool.eq_false_iff.mp (trimmed.head d rfl) remains
  · intro c last
    rw [Bool.eq_false_iff]
    intro isSpace
    obtain ⟨d, only, remains⟩ := exists_decomposeChar_of_isWhiteSpace isSpace
    obtain ⟨before, rfl⟩ := List.getLast?_eq_some_iff.mp last
    have split : decompose (before ++ [c]) = orderMarks (before.flatMap decomposeChar) ++ [d] := by
      have apart := orderMarks_append_base (combiningClass_of_isWhiteSpace remains)
        (before.flatMap decomposeChar) []
      rw [orderMarks_nil] at apart
      rw [decompose_eq_orderMarks, List.flatMap_append, List.flatMap_singleton, only, apart]
    rw [split] at trimmed
    exact Bool.eq_false_iff.mp (trimmed.last d List.getLast?_concat) remains

/-- Normalization makes no white space at the ends of a text. -/
theorem isTrimmed_normalize (trimmed : IsTrimmed text) : IsTrimmed (normalize text) := by
  apply isTrimmed_of_decompose
  rw [decompose_normalize]
  exact isTrimmed_decompose trimmed

end Texts

end SearchQuery.Text
