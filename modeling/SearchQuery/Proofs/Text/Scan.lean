import SearchQuery.Text.Scan
import SearchQuery.Text.WhiteSpace
import Mathlib.Algebra.Ring.Nat
import Mathlib.Data.List.Induction
import Mathlib.Data.List.TakeWhile

/-!
# Reading a text in front of a rest

`Scan.Reads` says which text a reader takes, whatever comes after it; readers in sequence take
their texts in sequence (`Scan.Reads.bind`). A number of a given width is a `Numeral`: as many
digits as a reader may take, so that a digit after them is left (`Numeral.reads`).
-/

namespace SearchQuery.Text

/-! ## Readers -/

namespace Scan

variable {α β : Type} {scan : Scan α} {next : α → Scan β} {text rest : List Char}

theorem bind_of_eq_some {value : α} (first : scan text = some (value, rest)) :
    (scan >>= next) text = next value rest := by
  change (scan text).bind _ = _
  rw [first]
  rfl

theorem bind_of_eq_none (failed : scan text = none) : (scan >>= next) text = none := by
  change (scan text).bind _ = _
  rw [failed]
  rfl

theorem exists_of_bind_eq_some {result : β}
    (found : (scan >>= next) text = some (result, rest)) :
    ∃ value middle, scan text = some (value, middle) ∧
      next value middle = some (result, rest) := by
  change (scan text).bind _ = _ at found
  obtain ⟨⟨value, middle⟩, first, later⟩ := Option.bind_eq_some_iff.mp found
  exact ⟨value, middle, first, later⟩

/-- What is made of a value is read from the same text as the value. -/
theorem exists_of_map_eq_some {f : α → β} {result : β}
    (found : (do return f (← scan) : Scan β) text = some (result, rest)) :
    ∃ value, scan text = some (value, rest) := by
  obtain ⟨value, middle, first, later⟩ := exists_of_bind_eq_some found
  obtain rfl : middle = rest := congrArg Prod.snd (Option.some.inj later)
  exact ⟨value, first⟩

theorem run_of_head {admits : Char → Bool} (other : ∀ c ∈ text.head?, admits c = false) :
    run admits text = some ([], text) := by
  cases text with
  | nil => rfl
  | cons c later =>
      have refused : ¬admits c = true := Bool.eq_false_iff.mp (other c rfl)
      rw [run, List.takeWhile_cons_of_neg refused, List.dropWhile_cons_of_neg refused]

theorem run_cons {admits : Char → Bool} {c : Char} {taken : List Char}
    (admitted : admits c = true) (later : run admits text = some (taken, rest)) :
    run admits (c :: text) = some (c :: taken, rest) := by
  rw [run, List.takeWhile_cons_of_pos admitted, List.dropWhile_cons_of_pos admitted]
  rw [run, Option.some_inj, Prod.mk.injEq] at later
  rw [later.1, later.2]

theorem skip_of_head {wanted : Char} (other : ∀ c ∈ text.head?, c ≠ wanted) :
    skip wanted text = some (false, text) := by
  cases text with
  | nil => rfl
  | cons c later => exact if_neg (other c rfl)

theorem complete_of_eq_none (failed : scan text = none) : complete scan text = none := by
  unfold complete StateT.run
  rw [failed]

theorem eq_of_complete_eq_some {value : α} (found : complete scan text = some value) :
    scan text = some (value, []) := by
  unfold complete StateT.run at found
  split at found
  · next whole =>
      obtain rfl := Option.some.inj found
      exact whole
  · contradiction

theorem eq_cons_of_char {c : Char} (found : char c text = some ((), rest)) : text = c :: rest := by
  cases text with
  | nil => contradiction
  | cons first later =>
      obtain ⟨rfl, same⟩ := Option.ite_none_right_eq_some.mp found
      obtain rfl : later = rest := congrArg Prod.snd (Option.some.inj same)
      rfl

theorem exists_of_oneOf {admits : Char → Bool} {c : Char}
    (found : oneOf admits text = some (c, rest)) : admits c = true ∧ text = c :: rest := by
  cases text with
  | nil => contradiction
  | cons first later =>
      obtain ⟨admitted, same⟩ := Option.ite_none_right_eq_some.mp found
      obtain ⟨rfl, rfl⟩ := Prod.mk.inj (Option.some.inj same)
      exact ⟨admitted, rfl⟩

/-- The reader takes the text and leaves what comes after it, whatever it is. -/
def Reads (scan : Scan α) (text : List Char) (value : α) : Prop :=
  ∀ rest, scan (text ++ rest) = some (value, rest)

theorem Reads.pure (value : α) : Reads (pure value) [] value :=
  fun _ => rfl

theorem Reads.bind {back : List Char} {value : α} {result : β} (first : Reads scan text value)
    (later : Reads (next value) back result) : Reads (scan >>= next) (text ++ back) result := by
  intro rest
  rw [List.append_assoc, bind_of_eq_some (first (back ++ rest)), later rest]

theorem Reads.map {value : α} (reads : Reads scan text value) (f : α → β) :
    Reads (do return f (← scan)) text (f value) :=
  fun rest => bind_of_eq_some (reads rest)

theorem Reads.complete_eq {value : α} (reads : Reads scan text value) :
    complete scan text = some value := by
  have whole := reads []
  rw [List.append_nil] at whole
  unfold complete StateT.run
  rw [whole]

/-- A reader of whole texts does not take a text with a rest. -/
theorem Reads.complete_append {value : α} (reads : Reads scan text value) (ne_nil : rest ≠ []) :
    complete scan (text ++ rest) = none := by
  obtain ⟨c, later, rfl⟩ := List.exists_cons_of_ne_nil ne_nil
  unfold complete StateT.run
  rw [reads (c :: later)]

theorem char_reads (c : Char) : Reads (char c) [c] () :=
  fun _ => if_pos rfl

end Scan

/-! ## Numerals -/

/-- The ten digits. -/
def asciiDigits : List Char :=
  ['0', '1', '2', '3', '4', '5', '6', '7', '8', '9']

theorem mem_asciiDigits {c : Char} (isDigit : c.isDigit = true) : c ∈ asciiDigits := by
  have ascii : ∀ code < 58, (Char.ofNat code).isDigit = true →
      Char.ofNat code ∈ asciiDigits := by
    decide +kernel
  have atMost : c.val ≤ '9'.val := of_decide_eq_true (Bool.and_eq_true_iff.mp isDigit).2
  have bound : c.toNat < 58 := Nat.lt_succ_of_le (UInt32.le_iff_toNat_le.mp atMost)
  have each := ascii c.toNat bound
  rw [Char.ofNat_toNat] at each
  exact each isDigit

/-- What holds of the ten digits holds of every digit. -/
theorem of_isDigit (law : Char → Bool) (digits : asciiDigits.all law = true) {c : Char}
    (isDigit : c.isDigit = true) : law c = true :=
  List.all_eq_true.mp digits c (mem_asciiDigits isDigit)

theorem isWhiteSpace_of_isDigit {c : Char} (isDigit : c.isDigit = true) :
    isWhiteSpace c = false := by
  have visible := of_isDigit (fun digit => !isWhiteSpace digit) (by decide) isDigit
  rwa [Bool.not_eq_true'] at visible

theorem ne_of_isDigit {c other : Char} (isDigit : c.isDigit = true)
    (notDigit : other.isDigit = false) : c ≠ other := by
  rintro rfl
  rw [isDigit] at notDigit
  contradiction

theorem decimalValue_concat (digits : List Char) (digit : Char) :
    decimalValue (digits ++ [digit]) =
      10 * decimalValue digits + (digit.toNat - '0'.toNat) :=
  List.foldl_append

theorem decimalValue_lt {digits : List Char} (isDigit : ∀ c ∈ digits, c.isDigit = true) :
    decimalValue digits < 10 ^ digits.length := by
  induction digits using List.reverseRecOn with
  | nil => decide
  | append_singleton front last ih =>
      have lastLt := of_decide_eq_true <|
        of_isDigit (fun digit => decide (digit.toNat - '0'.toNat < 10)) (by decide)
          (isDigit last List.mem_concat_self)
      have frontLt := ih fun c mem => isDigit c (List.mem_append_left _ mem)
      rw [decimalValue_concat, List.length_append, List.length_singleton, Nat.pow_succ]
      omega

/-- A number written in base ten with `width` digits. -/
structure Numeral (width : Nat) where
  digits : List Char
  allDigits : digits.all Char.isDigit = true
  length_eq : digits.length = width

namespace Numeral

variable {width : Nat}

/-- The number that is written. -/
def value (numeral : Numeral width) : Nat :=
  decimalValue numeral.digits

theorem isDigit (numeral : Numeral width) : ∀ c ∈ numeral.digits, c.isDigit = true :=
  List.all_eq_true.mp numeral.allDigits

theorem value_lt (numeral : Numeral width) : numeral.value < 10 ^ width := by
  have lt := decimalValue_lt numeral.isDigit
  rwa [numeral.length_eq] at lt

/-- Every number that is small enough can be written. -/
theorem exists_value_eq {number : Nat} (lt : number < 10 ^ width) :
    ∃ numeral : Numeral width, numeral.value = number := by
  induction width generalizing number with
  | zero =>
      rw [Nat.pow_zero, Nat.lt_one_iff] at lt
      exact ⟨⟨[], rfl, rfl⟩, lt.symm⟩
  | succ width ih =>
      have frontLt : number / 10 < 10 ^ width := by
        rw [Nat.pow_succ, Nat.mul_comm] at lt
        exact Nat.div_lt_of_lt_mul lt
      obtain ⟨front, value⟩ := ih frontLt
      have digit : ∀ last < 10, last.digitChar.isDigit = true ∧
          last.digitChar.toNat - '0'.toNat = last := by
        decide
      obtain ⟨isDigit, lastValue⟩ := digit (number % 10) (Nat.mod_lt _ (by decide))
      refine ⟨⟨front.digits ++ [(number % 10).digitChar], ?_, ?_⟩, ?_⟩
      · rw [List.all_append, front.allDigits, List.all_cons, isDigit]
        rfl
      · rw [List.length_append, front.length_eq, List.length_singleton]
      · change decimalValue (front.digits ++ [_]) = number
        rw [decimalValue_concat, lastValue]
        change 10 * front.value + _ = _
        rw [value, Nat.div_add_mod]

/-- A numeral with all the digits that may be read is read as it stands. -/
theorem reads (numeral : Numeral width) {least : Nat} (atLeast : least ≤ width) :
    Scan.Reads (Scan.digits least width) numeral.digits numeral.digits := by
  intro rest
  have taken : (numeral.digits ++ rest).take width = numeral.digits :=
    List.take_left' numeral.length_eq
  have all : numeral.digits.takeWhile Char.isDigit = numeral.digits :=
    List.takeWhile_eq_self_iff.mpr numeral.isDigit
  have enough : ¬numeral.digits.length < least :=
    Nat.not_lt.mpr (numeral.length_eq.symm ▸ atLeast)
  unfold Scan.digits
  rw [taken, all]
  dsimp only
  rw [if_neg enough, List.drop_left]

/-- Only a numeral is read as a number of fixed width. -/
theorem exists_of_digits {digits text rest : List Char}
    (found : Scan.digits width width text = some (digits, rest)) :
    ∃ numeral : Numeral width, text = numeral.digits ++ rest := by
  obtain ⟨enough, same⟩ := Option.ite_none_left_eq_some.mp found
  have taken : (text.take width).takeWhile Char.isDigit <+: text.take width :=
    List.takeWhile_prefix _
  have atMost := taken.length_le.trans (List.length_take_le width text)
  have length : ((text.take width).takeWhile Char.isDigit).length = width := by omega
  refine ⟨⟨(text.take width).takeWhile Char.isDigit, ?_, length⟩, ?_⟩
  · exact List.all_eq_true.mpr fun c => List.mem_takeWhile_imp
  · obtain ⟨-, rfl⟩ := Prod.mk.inj (Option.some.inj same)
    exact (List.prefix_iff_eq_append.mp (taken.trans (List.take_prefix width text))).symm

/-- A numeral that is not empty starts with a digit. -/
theorem isDigit_of_mem_head? (numeral : Numeral (width + 1)) {rest : List Char} {c : Char}
    (head : c ∈ (numeral.digits ++ rest).head?) : c.isDigit = true := by
  obtain ⟨digit, later, eq⟩ := List.exists_cons_of_length_eq_add_one numeral.length_eq
  rw [eq] at head
  obtain rfl : digit = c := Option.some.inj head
  apply numeral.isDigit
  rw [eq]
  exact List.mem_cons_self

end Numeral

/-! ## Alternatives -/

section Alternatives

variable {ι α : Type} {read? : ι → List Char → Option α}

/-- No text is taken by two of the readers. -/
def AreExclusive (read? : ι → List Char → Option α) : Prop :=
  ∀ ⦃text first second value other⦄, read? first text = some value →
    read? second text = some other → first = second

/-- The first of exclusive readers that takes a text is the only one. -/
theorem AreExclusive.findSome?_eq_some_iff (exclusive : AreExclusive read?) {order : List ι}
    {text : List Char} {value : α} :
    order.findSome? (read? · text) = some value ↔
      ∃ index ∈ order, read? index text = some value := by
  constructor
  · exact List.exists_of_findSome?_eq_some
  · rintro ⟨index, mem, found⟩
    have someFound : (order.findSome? (read? · text)).isSome = true :=
      List.findSome?_isSome_iff.mpr ⟨index, mem, Option.isSome_of_eq_some found⟩
    obtain ⟨other, first⟩ := Option.isSome_iff_exists.mp someFound
    obtain ⟨earlier, -, taken⟩ := List.exists_of_findSome?_eq_some first
    obtain rfl := exclusive taken found
    rw [first, ← taken, found]

end Alternatives

end SearchQuery.Text
