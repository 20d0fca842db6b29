import Mathlib.Data.List.Chain
import Mathlib.Data.Tree.Basic

/-!
# Sorted tables as search trees

The tables of characters are lists of runs in increasing order, and looking a code point up
goes through them from the front. That is fast for text in the low blocks, but a fact about all
entries of a long table takes a search for each of them. The same entries are found in a search
tree (`seekIn_searchTree`), so such a fact is computed on the tree.
-/

namespace SearchQuery.Text

section SortedTable

variable {α : Type} (first last : α → Nat)

/-- The entry of a table for a code point, if the table is sorted. -/
def seek : List α → Nat → Option α
  | [], _ => none
  | entry :: later, code =>
      if code < first entry then none
      else if code ≤ last entry then some entry
      else seek later code

/-- Whether the first of two entries stands entirely before the second. -/
def Precedes (entry other : α) : Prop :=
  first entry ≤ last entry ∧ last entry < first other

instance : DecidableRel (Precedes first last) :=
  fun _ _ => inferInstanceAs (Decidable (_ ∧ _))

instance : IsTrans α (Precedes first last) where
  trans _ _ _ lower upper :=
    ⟨lower.1, Nat.lt_of_lt_of_le lower.2 (Nat.le_of_lt (Nat.lt_of_le_of_lt upper.1 upper.2))⟩

/-- Whether the entries of a table are in increasing order. -/
def ascends : List α → Bool
  | entry :: other :: later =>
      decide (Precedes first last entry other) && ascends (other :: later)
  | _ => true

/-- The entry in a search tree for a code point. -/
def seekIn : BinaryTree α → Nat → Option α
  | .nil, _ => none
  | .node entry left right, code =>
      if code < first entry then seekIn left code
      else if code ≤ last entry then some entry
      else seekIn right code

/-- The entries of a search tree, from the left to the right. -/
def entries : BinaryTree α → List α
  | .nil => []
  | .node entry left right => entries left ++ entry :: entries right

/-- A search tree of at most the given height over the first entries of a list, and the
entries that are left. -/
def growTree : Nat → List α → BinaryTree α × List α
  | 0, table => (.nil, table)
  | height + 1, table =>
      match growTree height table with
      | (left, []) => (left, [])
      | (left, entry :: later) =>
          match growTree height later with
          | (right, rest) => (.node entry left right, rest)

/-- The search tree over a table. -/
def searchTree (table : List α) : BinaryTree α :=
  (growTree table.length.log2.succ table).1

theorem entries_growTree (height : Nat) (table : List α) :
    entries (growTree height table).1 ++ (growTree height table).2 = table := by
  induction height generalizing table with
  | zero => rfl
  | succ height ih =>
      have leftEntries := ih table
      rw [growTree]
      split
      · rename_i left grown
        rwa [grown] at leftEntries
      · rename_i left entry later grown
        rw [grown] at leftEntries
        have rightEntries := ih later
        calc
          _ = entries left ++ entry ::
              (entries (growTree height later).1 ++ (growTree height later).2) := by
            simp [entries]
          _ = table := by rw [rightEntries, leftEntries]

variable {first last}

theorem isChain_of_ascends {table : List α} (ascending : ascends first last table = true) :
    table.IsChain (Precedes first last) := by
  induction table with
  | nil => exact .nil
  | cons entry later ih =>
      cases later with
      | nil => exact .singleton entry
      | cons other later =>
          rw [ascends, Bool.and_eq_true, decide_eq_true_iff] at ascending
          exact .cons_cons ascending.1 (ih ascending.2)

theorem seek_append_of_lt {front later : List α} {entry : α} {code : Nat}
    (before : code < first entry) :
    seek first last (front ++ entry :: later) code = seek first last front code := by
  induction front with
  | nil => exact if_pos before
  | cons other front ih => rw [List.cons_append, seek, seek, ih]

theorem seek_append_of_forall {front later : List α} {code : Nat}
    (after : ∀ entry ∈ front, first entry ≤ last entry ∧ last entry < code) :
    seek first last (front ++ later) code = seek first last later code := by
  induction front with
  | nil => rfl
  | cons entry front ih =>
      rw [List.forall_mem_cons] at after
      rw [List.cons_append, seek, if_neg (Nat.not_lt.mpr (Nat.le_trans after.1.1 after.1.2.le)),
        if_neg (Nat.not_le.mpr after.1.2), ih after.2]

/-- A tree whose entries are sorted is searched like the list of its entries. -/
theorem seekIn_eq_seek {tree : BinaryTree α}
    (sorted : (entries tree).Pairwise (Precedes first last)) (code : Nat) :
    seekIn first last tree code = seek first last (entries tree) code := by
  induction tree with
  | nil => rfl
  | node entry left right leftIh rightIh =>
      rw [entries, List.pairwise_append, List.pairwise_cons] at sorted
      obtain ⟨leftSorted, ⟨-, rightSorted⟩, across⟩ := sorted
      rw [seekIn, entries]
      split
      · rename_i before
        rw [leftIh leftSorted, seek_append_of_lt before]
      · rename_i notBefore
        have after : ∀ other ∈ entries left, first other ≤ last other ∧ last other < code := by
          intro other mem
          have precedes := across other mem entry List.mem_cons_self
          exact ⟨precedes.1, Nat.lt_of_lt_of_le precedes.2 (Nat.not_lt.mp notBefore)⟩
        rw [seek_append_of_forall after, seek, if_neg notBefore, rightIh rightSorted]

/-- An entry of a sorted table is found in its search tree. -/
theorem seekIn_searchTree {table : List α} (ascending : ascends first last table = true)
    (whole : (growTree table.length.log2.succ table).2 = []) (code : Nat) :
    seekIn first last (searchTree table) code = seek first last table code := by
  have all : entries (searchTree table) = table := by
    have split := entries_growTree table.length.log2.succ table
    rwa [whole, List.append_nil] at split
  have pairwise := (isChain_of_ascends ascending).pairwise
  rw [← all] at pairwise
  rw [seekIn_eq_seek pairwise, all]

theorem mem_of_seek {table : List α} {entry : α} {code : Nat}
    (found : seek first last table code = some entry) :
    entry ∈ table ∧ first entry ≤ code ∧ code ≤ last entry := by
  induction table with
  | nil => contradiction
  | cons other later ih =>
      rw [seek] at found
      split at found
      · contradiction
      split at found
      · rename_i notBefore notAfter
        obtain rfl := Option.some.inj found
        exact ⟨List.mem_cons_self, Nat.not_lt.mp notBefore, notAfter⟩
      · obtain ⟨mem, bounds⟩ := ih found
        exact ⟨List.mem_cons_of_mem other mem, bounds⟩

end SortedTable

end SearchQuery.Text
