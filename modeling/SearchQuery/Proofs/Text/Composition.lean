import SearchQuery.Proofs.Text.Decomposition
import Mathlib.Data.List.TakeDrop

/-!
# Canonical composition

Composing characters never changes what a text decomposes into. A mark is composed with a base
character only if all marks in between are of a lower class, so it could as well follow the base
at once, and the decomposition of the composite is that of the pair. What is decomposed and
composed is therefore decomposed into the same text again (`decompose_normalize`), and a text in
normalization form C is its own normalization (`normalize_normalize`).
-/

namespace SearchQuery.Text

variable {done marks front rest text : List Char} {base c composite : Char}

/-- A composite stands for the pair, wherever the second character of it stands among marks of a
lower class. -/
theorem decompose_composite (composed : composePair? base c = some composite)
    (decomposed : decomposeChar c = [c]) (marksDecomposed : IsDecomposed marks)
    (areMarks : ∀ m ∈ marks, combiningClass m ≠ 0)
    (lower : ∀ m ∈ marks, combiningClass m < combiningClass c) :
    decompose (front ++ composite :: (marks ++ rest)) =
      decompose (front ++ base :: (marks ++ c :: rest)) := by
  have joined : (front ++ composite :: (marks ++ rest)).flatMap decomposeChar =
      (front.flatMap decomposeChar ++ decomposeChar base) ++
        c :: (marks ++ rest.flatMap decomposeChar) := by
    simp [decomposeChar_of_composePair? composed, decomposed, marksDecomposed.flatMap_eq]
  have apart : (front ++ base :: (marks ++ c :: rest)).flatMap decomposeChar =
      (front.flatMap decomposeChar ++ decomposeChar base) ++
        (marks ++ c :: rest.flatMap decomposeChar) := by
    simp [decomposed, marksDecomposed.flatMap_eq]
  rw [decompose_eq_orderMarks, decompose_eq_orderMarks, joined, apart]
  apply orderMarksOnto_append_congr
  intro done others
  cases marks with
  | nil => rfl
  | cons nearest marks =>
      have isMark : combiningClass c ≠ 0 := Nat.ne_zero_of_lt (lower nearest List.mem_cons_self)
      exact orderMarksOnto_move isMark areMarks fun m mem => Nat.ne_of_lt (lower m mem)

/-- Whether the marks since a base character, the last first, block a character from it. -/
def isBlocked (marks : List Char) (c : Char) : Bool :=
  match marks with
  | [] => false
  | nearest :: _ => combiningClass c ≤ combiningClass nearest

theorem composeOnto_cons (done : List Char) (base : Char) (marks : List Char) (c : Char)
    (rest : List Char) :
    composeOnto done base marks (c :: rest) =
      match if isBlocked marks c then none else composePair? base c with
      | some composite => composeOnto done composite marks rest
      | none =>
          if combiningClass c = 0 then composeOnto (marks ++ base :: done) c [] rest
          else composeOnto done base (c :: marks) rest :=
  rfl

/-- Marks in canonical order that do not block a character are all of a lower class. -/
theorem IsOrdered.class_lt (ordered : IsOrdered (marks.reverse ++ rest))
    (areMarks : ∀ m ∈ marks, combiningClass m ≠ 0) (free : isBlocked marks c = false) :
    ∀ m ∈ marks, combiningClass m < combiningClass c := by
  cases marks with
  | nil => simp
  | cons nearest marks =>
      have nearestLower : combiningClass nearest < combiningClass c :=
        Nat.not_le.mp (of_decide_eq_false free)
      have before : IsOrdered (nearest :: marks).reverse := (List.isChain_append.mp ordered).1
      have sorted := before.isSorted fun m mem => areMarks m (List.mem_reverse.mp mem)
      have notAbove := List.pairwise_reverse.mp sorted
      rw [List.forall_mem_cons]
      refine ⟨nearestLower, ?_⟩
      intro m mem
      exact Nat.lt_of_le_of_lt (List.rel_of_pairwise_cons notAbove mem) nearestLower

/-- A text that is in canonical order stays so without a character that is composed. -/
theorem IsOrdered.of_composed (ordered : IsOrdered (marks.reverse ++ c :: rest))
    (lower : ∀ m ∈ marks, combiningClass m < combiningClass c) :
    IsOrdered (marks.reverse ++ rest) := by
  obtain ⟨before, after, -⟩ := List.isChain_append.mp ordered
  rw [List.isChain_cons] at after
  apply List.IsChain.append before after.2
  intro m last next head
  have mLower := lower m (List.mem_reverse.mp (List.mem_of_getLast? last))
  exact (after.1 next head).imp_right (Nat.le_trans mLower.le)

theorem decompose_composeOnto (marksDecomposed : IsDecomposed marks)
    (areMarks : ∀ m ∈ marks, combiningClass m ≠ 0) (decomposed : IsDecomposed rest)
    (ordered : IsOrdered (marks.reverse ++ rest)) :
    decompose (composeOnto done base marks rest) =
      decompose (done.reverse ++ base :: (marks.reverse ++ rest)) := by
  induction rest generalizing done base marks with
  | nil => simp [composeOnto]
  | cons c rest ih =>
      rw [IsDecomposed, List.forall_mem_cons] at decomposed
      rw [composeOnto_cons]
      split
      · rename_i composite composed
        obtain ⟨free, composed⟩ := Option.ite_none_left_eq_some.mp composed
        have lower := ordered.class_lt areMarks (Bool.eq_false_iff.mpr free)
        rw [ih marksDecomposed areMarks decomposed.2 (ordered.of_composed lower)]
        apply decompose_composite composed decomposed.1
        · exact fun m mem => marksDecomposed m (List.mem_reverse.mp mem)
        · exact fun m mem => areMarks m (List.mem_reverse.mp mem)
        · exact fun m mem => lower m (List.mem_reverse.mp mem)
      · split
        · have noMarks : IsDecomposed [] := List.forall_mem_nil _
          obtain ⟨-, after, -⟩ := List.isChain_append.mp ordered
          rw [ih noMarks (List.forall_mem_nil _) decomposed.2 after.tail]
          simp
        · rename_i isMark
          have oneMore : IsDecomposed (c :: marks) :=
            List.forall_mem_cons.mpr ⟨decomposed.1, marksDecomposed⟩
          rw [ih oneMore (List.forall_mem_cons.mpr ⟨isMark, areMarks⟩) decomposed.2
            (by simpa using ordered)]
          simp

/-- Composition keeps what a text decomposes into. -/
theorem decompose_compose (decomposed : IsDecomposed text) (ordered : IsOrdered text) :
    decompose (compose text) = text := by
  have whole : text.takeWhile (fun c => combiningClass c ≠ 0) ++
      text.dropWhile (fun c => combiningClass c ≠ 0) = text :=
    List.takeWhile_append_dropWhile
  rw [compose, List.span_eq_takeWhile_dropWhile]
  split
  · rename_i leading split
    obtain ⟨rfl, noBase⟩ := Prod.mk.inj split
    rw [noBase, List.append_nil] at whole
    rw [whole]
    exact decomposed.decompose_eq ordered
  · rename_i leading base rest split
    obtain ⟨rfl, fromBase⟩ := Prod.mk.inj split
    rw [fromBase] at whole
    have noMarks : IsDecomposed [] := List.forall_mem_nil _
    have restDecomposed : IsDecomposed rest := by
      intro c mem
      apply decomposed
      rw [← whole]
      exact List.mem_append_right _ (List.mem_cons_of_mem base mem)
    have restOrdered : IsOrdered rest := by
      rw [← whole] at ordered
      exact (List.isChain_append.mp ordered).2.1.tail
    rw [decompose_composeOnto noMarks (List.forall_mem_nil _) restDecomposed restOrdered,
      List.reverse_reverse, List.reverse_nil, List.nil_append, whole]
    exact decomposed.decompose_eq ordered

section Members

variable {property : Char → Prop}
  (closed : ∀ first second composite, composePair? first second = some composite →
    property first → property second → property composite)
include closed

theorem forall_mem_composeOnto (doneHolds : ∀ d ∈ done, property d) (baseHolds : property base)
    (marksHold : ∀ m ∈ marks, property m) (restHolds : ∀ c ∈ rest, property c) :
    ∀ c ∈ composeOnto done base marks rest, property c := by
  induction rest generalizing done base marks with
  | nil =>
      intro c mem
      rw [composeOnto, List.mem_reverse, List.mem_append, List.mem_cons] at mem
      rcases mem with mem | rfl | mem
      · exact marksHold c mem
      · exact baseHolds
      · exact doneHolds c mem
  | cons c rest ih =>
      rw [List.forall_mem_cons] at restHolds
      rw [composeOnto_cons]
      split
      · rename_i composite composed
        have pair := (Option.ite_none_left_eq_some.mp composed).2
        exact ih doneHolds (closed _ _ _ pair baseHolds restHolds.1) marksHold restHolds.2
      · split
        · have allDone : ∀ d ∈ marks ++ base :: done, property d :=
            List.forall_mem_append.mpr ⟨marksHold, List.forall_mem_cons.mpr ⟨baseHolds, doneHolds⟩⟩
          exact ih allDone restHolds.1 (List.forall_mem_nil _) restHolds.2
        · exact ih doneHolds baseHolds (List.forall_mem_cons.mpr ⟨restHolds.1, marksHold⟩)
            restHolds.2

/-- What holds of the characters of a text and is kept by composition of two characters holds of
the characters of the composed text. -/
theorem forall_mem_compose (holds : ∀ c ∈ text, property c) : ∀ c ∈ compose text, property c := by
  have whole : text.takeWhile (fun c => combiningClass c ≠ 0) ++
      text.dropWhile (fun c => combiningClass c ≠ 0) = text :=
    List.takeWhile_append_dropWhile
  rw [← whole, List.forall_mem_append] at holds
  rw [compose, List.span_eq_takeWhile_dropWhile]
  split
  · rename_i leading split
    obtain ⟨rfl, -⟩ := Prod.mk.inj split
    exact holds.1
  · rename_i leading base rest split
    obtain ⟨rfl, fromBase⟩ := Prod.mk.inj split
    rw [fromBase, List.forall_mem_cons] at holds
    apply forall_mem_composeOnto closed _ holds.2.1 (List.forall_mem_nil _) holds.2.2
    exact fun d mem => holds.1 d (List.mem_reverse.mp mem)

end Members

/-- A normalized text decomposes into the same text as the text itself. -/
theorem decompose_normalize (text : List Char) : decompose (normalize text) = decompose text :=
  decompose_compose (isDecomposed_decompose text) (isOrdered_decompose text)

/-- A normalized text is its own normalization. -/
theorem normalize_normalize (text : List Char) : normalize (normalize text) = normalize text := by
  rw [normalize, decompose_normalize, ← normalize]

end SearchQuery.Text
