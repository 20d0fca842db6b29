import SearchQuery.Sql.Fragment
import Mathlib.Tactic.Ring
import Mathlib.Tactic.SplitIfs

/-!
# Reading SQL

This module reads a fragment as a database does, knowing nothing of how it was
written. The text is cut into words, parentheses and placeholders, the parentheses are
matched, and the placeholders take the parameters one after another. `Fragment.items?` gives the
result, and nothing if parentheses or parameters are left over or missing.

Reading is compositional: `Reads` says what a run of symbols adds wherever it stands.
A fragment that can be read has balanced parentheses (`balanced_of_items?_eq_some`).
-/

namespace SearchQuery.Sql

namespace Grammar

/-! ## Words, parentheses and placeholders -/

/-- A lexical element of SQL text. -/
inductive Symbol where
  | opening
  | closing
  | placeholder
  | word (characters : List Char)
deriving DecidableEq, Repr

/-- What a character stands for that no word contains. A space only separates. -/
def boundary? : Char → Option (List Symbol)
  | ' ' => some []
  | '(' => some [.opening]
  | ')' => some [.closing]
  | '?' => some [.placeholder]
  | _ => none

/-- Symbols after a word, which is left out if it is empty. -/
def withWord (word : List Char) (symbols : List Symbol) : List Symbol :=
  if word.isEmpty then symbols else .word word :: symbols

/-- The word that a text starts with, which may be empty, and the symbols after it. -/
def scan : List Char → List Char × List Symbol
  | [] => ([], [])
  | c :: rest =>
      match boundary? c with
      | some symbols => ([], symbols ++ withWord (scan rest).1 (scan rest).2)
      | none => (c :: (scan rest).1, (scan rest).2)

/-- The symbols of a text. -/
def symbols (text : List Char) : List Symbol :=
  withWord (scan text).1 (scan text).2

@[simp]
theorem withWord_nil (rest : List Symbol) : withWord [] rest = rest :=
  rfl

@[simp]
theorem withWord_cons (c : Char) (word : List Char) (rest : List Symbol) :
    withWord (c :: word) rest = .word (c :: word) :: rest :=
  rfl

@[simp]
theorem symbols_nil : symbols [] = [] :=
  rfl

theorem withWord_append (word : List Char) (first second : List Symbol) :
    withWord word (first ++ second) = withWord word first ++ second := by
  unfold withWord
  split_ifs <;> rfl

/-- A boundary separates the symbols before it from those after it. -/
theorem scan_append_boundary {c : Char} {between : List Symbol}
    (boundary : boundary? c = some between) (left right : List Char) :
    scan (left ++ c :: right) = ((scan left).1, (scan left).2 ++ (between ++ symbols right)) := by
  induction left with
  | nil =>
      simp only [List.nil_append, scan, boundary]
      rfl
  | cons d left ih =>
      simp only [List.cons_append, scan, ih]
      cases boundary? d with
      | none => rfl
      | some at_d => simp only [withWord_append, List.append_assoc]

theorem symbols_append_boundary {c : Char} {between : List Symbol}
    (boundary : boundary? c = some between) (left right : List Char) :
    symbols (left ++ c :: right) = symbols left ++ (between ++ symbols right) := by
  rw [symbols, scan_append_boundary boundary, withWord_append]
  rfl

theorem symbols_cons_boundary {c : Char} {between : List Symbol}
    (boundary : boundary? c = some between) (right : List Char) :
    symbols (c :: right) = between ++ symbols right :=
  symbols_append_boundary boundary [] right

/-- Characters inside a word. -/
def InWord (word : List Char) : Prop :=
  ∀ c ∈ word, boundary? c = none

theorem scan_append_of_inWord {word : List Char} (inWord : InWord word) (right : List Char) :
    scan (word ++ right) = (word ++ (scan right).1, (scan right).2) := by
  induction word with
  | nil => rfl
  | cons c word ih =>
      rw [List.cons_append, scan, inWord c List.mem_cons_self,
        ih fun d mem => inWord d (List.mem_cons_of_mem c mem)]
      rfl

/-! ## Nested items -/

/-- What the symbols say once parentheses are matched and parameters are bound. -/
inductive Item where
  | word (characters : List Char)
  /-- A placeholder with its parameter. -/
  | value (param : Param)
  /-- What stands between two matching parentheses. -/
  | group (items : List Item)
deriving Repr

/-- A state of reading: the items of the innermost open group, those of the groups
around it from the inside out, and the parameters not yet bound. -/
structure State where
  enclosing : List (List Item)
  current : List Item
  params : List Param

/-- Read one symbol; nothing if a parenthesis closes no group, or a placeholder has
no parameter. -/
def State.step (state : State) : Symbol → Option State
  | .opening => some ⟨state.current :: state.enclosing, [], state.params⟩
  | .closing =>
      match state.enclosing with
      | [] => none
      | outer :: enclosing => some ⟨enclosing, outer ++ [.group state.current], state.params⟩
  | .placeholder =>
      match state.params with
      | [] => none
      | param :: params => some ⟨state.enclosing, state.current ++ [.value param], params⟩
  | .word characters =>
      some ⟨state.enclosing, state.current ++ [.word characters], state.params⟩

/-- Read symbols one after another. -/
def State.run (state : State) (symbols : List Symbol) : Option State :=
  symbols.foldlM State.step state

theorem State.run_append (state : State) (first second : List Symbol) :
    state.run (first ++ second) = (state.run first).bind (·.run second) := by
  simp [State.run, List.foldlM_append]

theorem State.run_cons (state : State) (symbol : Symbol) (rest : List Symbol) :
    state.run (symbol :: rest) = (state.step symbol).bind (·.run rest) := by
  simp [State.run]

/-- Wherever the symbols stand, they add the items and bind the parameters. -/
def Reads (symbols : List Symbol) (params : List Param) (items : List Item) : Prop :=
  ∀ enclosing current rest,
    State.run ⟨enclosing, current, params ++ rest⟩ symbols =
      some ⟨enclosing, current ++ items, rest⟩

namespace Reads

theorem nil : Reads [] [] [] := by
  intro enclosing current rest
  simp [State.run]

theorem append {first second : List Symbol} {firstParams secondParams : List Param}
    {firstItems secondItems : List Item} (readsFirst : Reads first firstParams firstItems)
    (readsSecond : Reads second secondParams secondItems) :
    Reads (first ++ second) (firstParams ++ secondParams) (firstItems ++ secondItems) := by
  intro enclosing current rest
  rw [State.run_append, List.append_assoc, readsFirst, Option.bind_some, readsSecond,
    List.append_assoc]

theorem word (characters : List Char) : Reads [.word characters] [] [.word characters] := by
  intro enclosing current rest
  simp [State.run, State.step]

theorem group {symbols : List Symbol} {params : List Param} {items : List Item}
    (reads : Reads symbols params items) :
    Reads (.opening :: symbols ++ [.closing]) params [.group items] := by
  intro enclosing current rest
  rw [List.cons_append, State.run_cons, State.step, Option.bind_some, State.run_append, reads]
  simp [State.run, State.step]

end Reads

end Grammar

open Grammar

/-- The items of a fragment, if it can be read. -/
def Fragment.items? (fragment : Fragment) : Option (List Item) :=
  match State.run ⟨[], [], fragment.params⟩ (symbols fragment.sql.toList) with
  | some ⟨[], items, []⟩ => some items
  | _ => none

/-- Wherever the fragment stands between boundaries, it is read as the items. -/
def Fragment.Reads (fragment : Fragment) (items : List Item) : Prop :=
  Grammar.Reads (symbols fragment.sql.toList) fragment.params items

theorem Fragment.Reads.items?_eq_some {fragment : Fragment} {items : List Item}
    (reads : fragment.Reads items) : fragment.items? = some items := by
  have run := reads [] [] []
  rw [List.append_nil] at run
  rw [Fragment.items?, run]
  rfl

/-! ## Balanced parentheses -/

/-- How many more parentheses open than close in a text. -/
def parenthesisDepth (text : List Char) : Int :=
  text.count '(' - text.count ')'

/-- Every closing parenthesis closes one opened before, and all are closed in the end. -/
def Balanced (text : List Char) : Prop :=
  parenthesisDepth text = 0 ∧ ∀ start, start <+: text → 0 ≤ parenthesisDepth start

theorem parenthesisDepth_cons (c : Char) (rest : List Char) :
    parenthesisDepth (c :: rest) = parenthesisDepth [c] + parenthesisDepth rest := by
  simp only [parenthesisDepth, List.count_cons, List.count_nil]
  push_cast
  ring

namespace Grammar

/-- A boundary opens and closes as many groups as it is parentheses. -/
theorem enclosing_length_of_run_boundary {c : Char} {between : List Symbol} {state next : State}
    (boundary : boundary? c = some between) (run : state.run between = some next) :
    (next.enclosing.length : Int) = state.enclosing.length + parenthesisDepth [c] := by
  unfold boundary? at boundary
  split at boundary
  · cases boundary
    rw [State.run, List.foldlM_nil] at run
    cases run
    simp [parenthesisDepth]
  · cases boundary
    rw [State.run_cons, State.step, Option.bind_some, State.run, List.foldlM_nil] at run
    cases run
    simp [parenthesisDepth]
  · cases boundary
    rw [State.run_cons, State.step] at run
    cases enclosing : state.enclosing with
    | nil => simp [enclosing] at run
    | cons outer others =>
        rw [enclosing, Option.bind_some, State.run, List.foldlM_nil] at run
        cases run
        simp [parenthesisDepth]
  · cases boundary
    rw [State.run_cons, State.step] at run
    cases bound : state.params with
    | nil => simp [bound] at run
    | cons param params =>
        rw [bound, Option.bind_some, State.run, List.foldlM_nil] at run
        cases run
        simp [parenthesisDepth]
  · contradiction

theorem parenthesisDepth_of_boundary?_eq_none {c : Char} (inside : boundary? c = none) :
    parenthesisDepth [c] = 0 := by
  have not_opening : c ≠ '(' := by rintro rfl; contradiction
  have not_closing : c ≠ ')' := by rintro rfl; contradiction
  simp [parenthesisDepth, not_opening, not_closing]

/-- A word opens and closes nothing. -/
theorem exists_run_of_run_withWord {word : List Char} {symbols : List Symbol} {state last : State}
    (run : state.run (withWord word symbols) = some last) :
    ∃ next : State, next.enclosing = state.enclosing ∧ next.run symbols = some last := by
  unfold withWord at run
  split_ifs at run
  · exact ⟨state, rfl, run⟩
  · rw [State.run_cons, State.step, Option.bind_some] at run
    exact ⟨⟨state.enclosing, state.current ++ [.word word], state.params⟩, rfl, run⟩

/-- However a text is divided, reading passes the place of division with as many open
groups as parentheses are open there. -/
theorem exists_run_of_run_scan_append {start rest : List Char} {state last : State}
    (run : state.run (scan (start ++ rest)).2 = some last) :
    ∃ next : State,
      (next.enclosing.length : Int) = state.enclosing.length + parenthesisDepth start ∧
        next.run (scan rest).2 = some last := by
  induction start generalizing state with
  | nil => exact ⟨state, by simp [parenthesisDepth], run⟩
  | cons c start ih =>
      rw [List.cons_append, scan] at run
      rw [parenthesisDepth_cons]
      cases boundary : boundary? c with
      | none =>
          rw [boundary] at run
          obtain ⟨next, depth, tail⟩ := ih run
          refine ⟨next, ?_, tail⟩
          rw [depth, parenthesisDepth_of_boundary?_eq_none boundary, Int.zero_add]
      | some between =>
          rw [boundary] at run
          rw [State.run_append, Option.bind_eq_some_iff] at run
          obtain ⟨afterBoundary, atBoundary, run⟩ := run
          obtain ⟨afterWord, same, run⟩ := exists_run_of_run_withWord run
          obtain ⟨next, depth, tail⟩ := ih run
          refine ⟨next, ?_, tail⟩
          rw [depth, same, enclosing_length_of_run_boundary boundary atBoundary, Int.add_assoc]

end Grammar

/-- A fragment that can be read has balanced parentheses. -/
theorem Fragment.balanced_of_items?_eq_some {fragment : Fragment} {items : List Item}
    (read : fragment.items? = some items) : Balanced fragment.sql.toList := by
  have run : ∃ last : State, last.enclosing = [] ∧
      State.run ⟨[], [], fragment.params⟩ (symbols fragment.sql.toList) = some last := by
    unfold Fragment.items? at read
    split at read
    · next whole => exact ⟨_, rfl, whole⟩
    · contradiction
  obtain ⟨last, closed, run⟩ := run
  obtain ⟨first, outside, run⟩ := exists_run_of_run_withWord run
  constructor
  · rw [← List.append_nil fragment.sql.toList] at run
    obtain ⟨next, depth, rest⟩ := exists_run_of_run_scan_append run
    rw [scan, State.run, List.foldlM_nil] at rest
    cases rest
    rw [closed, outside] at depth
    simpa using depth.symm
  · rintro start ⟨rest, whole⟩
    rw [← whole] at run
    obtain ⟨next, depth, _⟩ := exists_run_of_run_scan_append run
    rw [outside] at depth
    simp only [List.length_nil, Nat.cast_zero, Int.zero_add] at depth
    rw [← depth]
    exact Int.natCast_nonneg _

end SearchQuery.Sql
