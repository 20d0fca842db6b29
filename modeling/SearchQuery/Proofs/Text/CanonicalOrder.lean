import SearchQuery.Text.Normalization.Decomposition
import Mathlib.Data.List.Chain

/-!
# Canonical order

Each run of marks is sorted by combining class, and the sort is stable. What comes out
therefore depends only on the marks of each class (`SameMarks`): marks of different classes may
change places beforehand, and marks that are in order already stay where they are.
-/

namespace SearchQuery.Text

/-! ## Runs of marks -/

/-- Two runs have the same marks of each class, in the same order. -/
def SameMarks (marks others : List Char) : Prop :=
  ∀ value, marks.filter (combiningClass · = value) = others.filter (combiningClass · = value)

/-- A run of marks in which the class never decreases. -/
def IsSorted (marks : List Char) : Prop :=
  marks.Pairwise fun mark later => combiningClass mark ≤ combiningClass later

section Runs

variable {marks others : List Char}

theorem SameMarks.cons (same : SameMarks marks others) (mark : Char) :
    SameMarks (mark :: marks) (mark :: others) := by
  intro value
  rw [List.filter_cons, List.filter_cons, same value]

theorem SameMarks.reverse (same : SameMarks marks others) :
    SameMarks marks.reverse others.reverse := by
  intro value
  rw [List.filter_reverse, List.filter_reverse, same value]

/-- A mark may change places with marks of other classes. -/
theorem sameMarks_move {mark : Char}
    (other : ∀ m ∈ marks, combiningClass m ≠ combiningClass mark) (rest : List Char) :
    SameMarks (mark :: (marks ++ rest)) (marks ++ mark :: rest) := by
  intro value
  rw [List.filter_cons, List.filter_append, List.filter_append, List.filter_cons]
  by_cases own : combiningClass mark = value
  · have none : marks.filter (combiningClass · = value) = [] := by
      rw [List.filter_eq_nil_iff]
      intro m mem equal
      exact other m mem ((of_decide_eq_true equal).trans own.symm)
    rw [none]
    rfl
  · rw [if_neg (by simpa using own), if_neg (by simpa using own)]

theorem IsSorted.class_le {first m : Char} (sorted : IsSorted (first :: marks))
    (mem : m ∈ first :: marks) : combiningClass first ≤ combiningClass m := by
  rcases List.mem_cons.mp mem with rfl | later
  · exact Nat.le_refl _
  · exact List.rel_of_pairwise_cons sorted later

/-- Sorted runs with the same marks of each class are equal. -/
theorem IsSorted.eq_of_sameMarks (sorted : IsSorted marks) (otherSorted : IsSorted others)
    (same : SameMarks marks others) : marks = others := by
  induction marks generalizing others with
  | nil =>
      cases others with
      | nil => rfl
      | cons other others => simpa using same (combiningClass other)
  | cons mark marks ih =>
      cases others with
      | nil => simpa using same (combiningClass mark)
      | cons other others =>
          -- Each head is among the marks of its class in the other run, so no class is less.
          have inOther : mark ∈ other :: others := by
            have own : mark ∈ (mark :: marks).filter
                (combiningClass · = combiningClass mark) := by simp
            rw [same] at own
            exact List.mem_of_mem_filter own
          have inOwn : other ∈ mark :: marks := by
            have own : other ∈ (other :: others).filter
                (combiningClass · = combiningClass other) := by simp
            rw [← same] at own
            exact List.mem_of_mem_filter own
          have equalClass : combiningClass other = combiningClass mark :=
            Nat.le_antisymm (otherSorted.class_le inOther) (sorted.class_le inOwn)
          have heads := same (combiningClass mark)
          rw [List.filter_cons_of_pos (by simp), List.filter_cons_of_pos (by simp [equalClass])]
            at heads
          obtain rfl : mark = other := (List.cons.inj heads).1
          have tails : SameMarks marks others := by
            intro value
            have both := same value
            rw [List.filter_cons, List.filter_cons] at both
            split at both
            · exact (List.cons.inj both).2
            · exact both
          have equal : marks = others := ih sorted.tail otherSorted.tail tails
          rw [equal]

theorem classLe_trans (first second third : Char)
    (lower : decide (combiningClass first ≤ combiningClass second) = true)
    (upper : decide (combiningClass second ≤ combiningClass third) = true) :
    decide (combiningClass first ≤ combiningClass third) = true :=
  decide_eq_true (Nat.le_trans (of_decide_eq_true lower) (of_decide_eq_true upper))

theorem classLe_total (first second : Char) :
    (decide (combiningClass first ≤ combiningClass second) ||
      decide (combiningClass second ≤ combiningClass first)) = true := by
  rw [Bool.or_eq_true, decide_eq_true_iff, decide_eq_true_iff]
  exact Nat.le_total _ _

theorem isSorted_sortMarks (marks : List Char) : IsSorted (sortMarks marks) :=
  (List.pairwise_mergeSort classLe_trans classLe_total marks).imp of_decide_eq_true

theorem sortMarks_nil : sortMarks [] = [] :=
  List.mergeSort_nil

theorem perm_sortMarks (marks : List Char) : (sortMarks marks).Perm marks :=
  List.mergeSort_perm marks _

/-- Sorting keeps the order of the marks of one class. -/
theorem sameMarks_sortMarks (marks : List Char) : SameMarks (sortMarks marks) marks := by
  intro value
  have sorted : (marks.filter (combiningClass · = value)).Pairwise
      fun first second => decide (combiningClass first ≤ combiningClass second) = true := by
    apply List.pairwise_of_forall_mem_list
    intro first firstMem second secondMem
    have firstClass := of_decide_eq_true (List.mem_filter.mp firstMem).2
    have secondClass := of_decide_eq_true (List.mem_filter.mp secondMem).2
    exact decide_eq_true (by rw [firstClass, secondClass])
  have kept := List.sublist_mergeSort classLe_trans classLe_total sorted List.filter_sublist
  have sublist := kept.filter (combiningClass · = value)
  rw [List.filter_filter] at sublist
  simp only [Bool.and_self] at sublist
  have lengths := ((perm_sortMarks marks).filter (combiningClass · = value)).length_eq
  exact (sublist.eq_of_length lengths.symm).symm

/-- Sorting takes runs with the same marks of each class to the same run. -/
theorem sortMarks_congr (same : SameMarks marks others) : sortMarks marks = sortMarks others := by
  apply (isSorted_sortMarks marks).eq_of_sameMarks (isSorted_sortMarks others)
  intro value
  rw [sameMarks_sortMarks, sameMarks_sortMarks, same]

theorem IsSorted.sortMarks_eq (sorted : IsSorted marks) : sortMarks marks = marks :=
  List.mergeSort_of_pairwise (sorted.imp decide_eq_true)

end Runs

/-! ## Texts -/

/-- A text with the marks after each base character in canonical order. -/
def orderMarks (text : List Char) : List Char :=
  orderMarksOnto [] [] text

/-- A text in which the class decreases at base characters only. -/
def IsOrdered (text : List Char) : Prop :=
  text.IsChain fun c next => combiningClass next = 0 ∨ combiningClass c ≤ combiningClass next

section Texts

variable {done marks others text rest : List Char} {c : Char}

theorem orderMarksOnto_eq_append (done marks text : List Char) :
    orderMarksOnto done marks text = done.reverse ++ orderMarksOnto [] marks text := by
  induction text generalizing done marks with
  | nil => simp [orderMarksOnto]
  | cons c rest ih =>
      rw [orderMarksOnto, orderMarksOnto]
      split
      · rw [ih, ih (c :: _)]
        simp
      · exact ih done (c :: marks)

theorem orderMarksOnto_nil (marks : List Char) :
    orderMarksOnto [] marks [] = sortMarks marks.reverse := by
  simp [orderMarksOnto]

theorem orderMarks_nil : orderMarks [] = [] := by
  rw [orderMarks, orderMarksOnto_nil, List.reverse_nil, sortMarks_nil]

theorem orderMarksOnto_base (base : combiningClass c = 0) :
    orderMarksOnto [] marks (c :: rest) = sortMarks marks.reverse ++ c :: orderMarks rest := by
  rw [orderMarksOnto, if_pos base, orderMarksOnto_eq_append, orderMarks]
  simp

theorem orderMarksOnto_mark (isMark : combiningClass c ≠ 0) :
    orderMarksOnto done marks (c :: rest) = orderMarksOnto done (c :: marks) rest :=
  if_neg isMark

theorem orderMarksOnto_marks {run : List Char} (areMarks : ∀ m ∈ run, combiningClass m ≠ 0) :
    orderMarksOnto done marks (run ++ rest) = orderMarksOnto done (run.reverse ++ marks) rest := by
  induction run generalizing marks with
  | nil => rfl
  | cons m run ih =>
      rw [List.forall_mem_cons] at areMarks
      rw [List.cons_append, orderMarksOnto_mark areMarks.1, ih areMarks.2, List.reverse_cons,
        List.append_assoc]
      rfl

theorem orderMarksOnto_congr (same : SameMarks marks others) :
    orderMarksOnto done marks text = orderMarksOnto done others text := by
  induction text generalizing done marks others with
  | nil => rw [orderMarksOnto, orderMarksOnto, sortMarks_congr same.reverse]
  | cons c rest ih =>
      rw [orderMarksOnto, orderMarksOnto, sortMarks_congr same.reverse, ih (same.cons c)]

/-- What follows a text may be replaced if the replacement is ordered alike after any marks. -/
theorem orderMarksOnto_append_congr {first second : List Char}
    (alike : ∀ done marks, orderMarksOnto done marks first = orderMarksOnto done marks second)
    (front : List Char) :
    orderMarksOnto done marks (front ++ first) = orderMarksOnto done marks (front ++ second) := by
  induction front generalizing done marks with
  | nil => exact alike done marks
  | cons c front ih =>
      rw [List.cons_append, List.cons_append, orderMarksOnto, orderMarksOnto, ih, ih]

/-- A mark may change places with marks of other classes before it. -/
theorem orderMarksOnto_move {run : List Char} (isMark : combiningClass c ≠ 0)
    (areMarks : ∀ m ∈ run, combiningClass m ≠ 0)
    (other : ∀ m ∈ run, combiningClass m ≠ combiningClass c) :
    orderMarksOnto done marks (c :: (run ++ rest)) =
      orderMarksOnto done marks (run ++ c :: rest) := by
  rw [orderMarksOnto_mark isMark, orderMarksOnto_marks areMarks, orderMarksOnto_marks areMarks,
    orderMarksOnto_mark isMark]
  apply orderMarksOnto_congr
  intro value
  rw [← sameMarks_move (by simpa using other)]

/-- Before and after a base character, marks are put in order separately. -/
theorem orderMarks_append_base (base : combiningClass c = 0) (text rest : List Char) :
    orderMarks (text ++ c :: rest) = orderMarks text ++ c :: orderMarks rest := by
  suffices onto : ∀ marks, orderMarksOnto [] marks (text ++ c :: rest) =
      orderMarksOnto [] marks text ++ c :: orderMarks rest from
    onto []
  induction text with
  | nil =>
      intro marks
      rw [List.nil_append, orderMarksOnto_base base, orderMarksOnto_nil]
  | cons d text ih =>
      intro marks
      by_cases isBase : combiningClass d = 0
      · rw [List.cons_append, orderMarksOnto_base isBase, orderMarksOnto_base isBase,
          orderMarks, ih, List.append_assoc]
        rfl
      · rw [List.cons_append, orderMarksOnto_mark isBase, orderMarksOnto_mark isBase, ih]

theorem perm_orderMarks (text : List Char) : (orderMarks text).Perm text := by
  suffices onto : ∀ marks, (orderMarksOnto [] marks text).Perm (marks.reverse ++ text) from
    onto []
  induction text with
  | nil =>
      intro marks
      rw [orderMarksOnto_nil, List.append_nil]
      exact perm_sortMarks _
  | cons c rest ih =>
      intro marks
      by_cases base : combiningClass c = 0
      · rw [orderMarksOnto_base base]
        exact (perm_sortMarks _).append ((ih []).cons c)
      · rw [orderMarksOnto_mark base]
        have later := ih (c :: marks)
        rwa [List.reverse_cons, List.append_assoc] at later

theorem isOrdered_orderMarks (text : List Char) : IsOrdered (orderMarks text) := by
  suffices onto : ∀ marks, IsOrdered (orderMarksOnto [] marks text) from onto []
  have sortedRun (marks : List Char) : IsOrdered (sortMarks marks) :=
    (isSorted_sortMarks marks).isChain.imp fun _ _ le => .inr le
  induction text with
  | nil =>
      intro marks
      rw [orderMarksOnto_nil]
      exact sortedRun _
  | cons c rest ih =>
      intro marks
      by_cases base : combiningClass c = 0
      · rw [orderMarksOnto_base base]
        apply List.IsChain.append (sortedRun _)
        · rw [List.isChain_cons]
          refine ⟨fun _ _ => .inr ?_, ih []⟩
          rw [base]
          exact Nat.zero_le _
        · rintro _ - next ⟨⟩
          exact .inl base
      · rw [orderMarksOnto_mark base]
        exact ih (c :: marks)

theorem IsOrdered.isSorted (ordered : IsOrdered marks)
    (areMarks : ∀ m ∈ marks, combiningClass m ≠ 0) : IsSorted marks := by
  have classes : (marks.map combiningClass).IsChain (· ≤ ·) := by
    induction marks with
    | nil => exact .nil
    | cons m marks ih =>
        rw [IsOrdered, List.isChain_cons] at ordered
        rw [List.forall_mem_cons] at areMarks
        rw [List.map_cons, List.isChain_cons]
        refine ⟨?_, ih ordered.2 areMarks.2⟩
        intro value head
        rw [List.head?_map, Option.mem_def, Option.map_eq_some_iff] at head
        obtain ⟨next, head, rfl⟩ := head
        exact (ordered.1 next head).resolve_left (areMarks.2 next (List.mem_of_head? head))
  exact List.pairwise_map.mp classes.pairwise

/-- A text in canonical order is left as it is. -/
theorem IsOrdered.orderMarks_eq (ordered : IsOrdered text) : orderMarks text = text := by
  suffices onto : ∀ marks, (∀ m ∈ marks, combiningClass m ≠ 0) → IsOrdered (marks.reverse ++ text) →
      orderMarksOnto [] marks text = marks.reverse ++ text from
    onto [] (by simp) ordered
  clear ordered
  induction text with
  | nil =>
      intro marks areMarks ordered
      rw [List.append_nil] at ordered ⊢
      rw [orderMarksOnto_nil]
      exact (ordered.isSorted (by simpa using areMarks)).sortMarks_eq
  | cons c rest ih =>
      intro marks areMarks ordered
      by_cases base : combiningClass c = 0
      · obtain ⟨before, after, -⟩ := List.isChain_append.mp ordered
        have later := ih [] (by simp) after.tail
        have sorted := IsOrdered.isSorted before (by simpa using areMarks)
        rw [orderMarksOnto_base base, sorted.sortMarks_eq, orderMarks, later]
        rfl
      · rw [orderMarksOnto_mark base]
        have later := ih (c :: marks) (List.forall_mem_cons.mpr ⟨base, areMarks⟩)
        rw [List.reverse_cons, List.append_assoc] at later
        exact later ordered

/-- What comes after marks in canonical order begins with one of them. -/
theorem class_ne_zero_of_head? {mark first : Char}
    (areMarks : ∀ m ∈ mark :: marks, combiningClass m ≠ 0)
    (head : first ∈ (orderMarksOnto [] (mark :: marks) text).head?) : combiningClass first ≠ 0 := by
  have isSorted {run : List Char} (mem : first ∈ sortMarks run.reverse)
      (runMarks : ∀ m ∈ run, combiningClass m ≠ 0) : combiningClass first ≠ 0 :=
    runMarks first (List.mem_reverse.mp ((perm_sortMarks _).mem_iff.mp mem))
  induction text generalizing mark marks with
  | nil =>
      rw [orderMarksOnto_nil] at head
      exact isSorted (List.mem_of_mem_head? head) areMarks
  | cons c rest ih =>
      by_cases base : combiningClass c = 0
      · have notEmpty : sortMarks (mark :: marks).reverse ≠ [] := by
          intro empty
          have perm := perm_sortMarks (mark :: marks).reverse
          rw [empty] at perm
          exact List.cons_ne_nil mark marks (List.reverse_eq_nil_iff.mp perm.nil_eq.symm)
        rw [orderMarksOnto_base base, List.head?_append_of_ne_nil _ notEmpty] at head
        exact isSorted (List.mem_of_mem_head? head) areMarks
      · rw [orderMarksOnto_mark base] at head
        exact ih (List.forall_mem_cons.mpr ⟨base, areMarks⟩) head

/-- A text in canonical order begins with a mark, or as the text did before. -/
theorem mem_head?_orderMarks {first : Char} (head : first ∈ (orderMarks text).head?) :
    combiningClass first ≠ 0 ∨ first ∈ text.head? := by
  cases text with
  | nil =>
      rw [orderMarks_nil] at head
      exact .inr head
  | cons c rest =>
      by_cases base : combiningClass c = 0
      · rw [orderMarks, orderMarksOnto_base base, List.reverse_nil, sortMarks_nil] at head
        exact .inr head
      · rw [orderMarks, orderMarksOnto_mark base] at head
        exact .inl (class_ne_zero_of_head? (List.forall_mem_singleton.mpr base) head)

/-- A text in canonical order ends with a mark, or as the text did before. -/
theorem mem_getLast?_orderMarks {final : Char} (last : final ∈ (orderMarks text).getLast?) :
    combiningClass final ≠ 0 ∨ final ∈ text.getLast? := by
  suffices onto : ∀ marks, (∀ m ∈ marks, combiningClass m ≠ 0) →
      ∀ final ∈ (orderMarksOnto [] marks text).getLast?,
        combiningClass final ≠ 0 ∨ final ∈ text.getLast? from
    onto [] (List.forall_mem_nil _) final last
  clear last
  induction text with
  | nil =>
      intro marks areMarks final last
      rw [orderMarksOnto_nil] at last
      have mem := (perm_sortMarks _).mem_iff.mp (List.mem_of_getLast? last)
      exact .inl (areMarks final (List.mem_reverse.mp mem))
  | cons c rest ih =>
      intro marks areMarks final last
      by_cases base : combiningClass c = 0
      · rw [orderMarksOnto_base base, List.getLast?_append_of_ne_nil _ (List.cons_ne_nil c _),
          List.getLast?_cons] at last
        obtain rfl := Option.some.inj last
        rw [List.getLast?_cons]
        cases later : (orderMarks rest).getLast? with
        | none =>
            have perm := perm_orderMarks rest
            rw [List.getLast?_eq_none_iff.mp later] at perm
            rw [← perm.nil_eq]
            exact .inr rfl
        | some last =>
            have kept := ih [] (List.forall_mem_nil _) last later
            apply kept.imp_right
            intro inRest
            rw [Option.mem_def.mp inRest]
            rfl
      · rw [orderMarksOnto_mark base] at last
        have kept := ih (c :: marks) (List.forall_mem_cons.mpr ⟨base, areMarks⟩) final last
        apply kept.imp_right
        intro inRest
        rw [List.getLast?_cons, Option.mem_def.mp inRest]
        rfl

end Texts

end SearchQuery.Text
