import SearchQuery.Proofs.Calendar.Layout

/-!
# Reading timestamps

A timestamp is a date, a time and an offset from UTC that is less than a day
(`Timestamp.read?_moment`). Without an offset a date and a time are none, and neither is a date
alone.
-/

namespace SearchQuery.Calendar

open SearchQuery.Text

/-- What stands between a date and a time. -/
inductive Separator where
  | letter
  | space
deriving DecidableEq, Repr

def Separator.char : Separator → Char
  | letter => 'T'
  | space => ' '

/-- What stands after a time: nothing, `Z`, or how far clocks are ahead of or behind UTC. -/
inductive WrittenZone where
  | unstated
  | utc
  | ahead (hours minutes : Numeral 2)
  | behind (hours minutes : Numeral 2)

namespace WrittenZone

def text : WrittenZone → List Char
  | unstated => []
  | utc => ['Z']
  | ahead hours minutes => '+' :: (hours.digits ++ ':' :: minutes.digits)
  | behind hours minutes => '-' :: (hours.digits ++ ':' :: minutes.digits)

/-- The seconds that clocks are ahead of UTC. -/
def offset : WrittenZone → Int
  | ahead hours minutes => (3600 * hours.value + 60 * minutes.value : Nat)
  | behind hours minutes => -(3600 * hours.value + 60 * minutes.value : Nat)
  | _ => 0

def isInRange : WrittenZone → Bool
  | ahead hours minutes | behind hours minutes => hours.value < 24 && minutes.value < 60
  | _ => true

/-- Every offset of whole minutes that is less than a day can be written. -/
theorem exists_offset_eq {seconds : Int} (lessThanDay : seconds.natAbs < 86400)
    (wholeMinutes : seconds % 60 = 0) :
    ∃ zone : WrittenZone, zone.isInRange = true ∧ zone.offset = seconds := by
  obtain ⟨hours, hoursValue⟩ :=
    Numeral.exists_value_eq (by omega : seconds.natAbs / 3600 < 10 ^ 2)
  obtain ⟨minutes, minutesValue⟩ :=
    Numeral.exists_value_eq (by omega : seconds.natAbs / 60 % 60 < 10 ^ 2)
  have inRange : (decide (hours.value < 24) && decide (minutes.value < 60)) = true := by
    rw [Bool.and_eq_true, decide_eq_true_eq, decide_eq_true_eq]
    omega
  rcases Int.le_total 0 seconds with isAhead | isBehind
  · refine ⟨.ahead hours minutes, inRange, ?_⟩
    dsimp only [offset]
    omega
  · refine ⟨.behind hours minutes, inRange, ?_⟩
    dsimp only [offset]
    omega

theorem natAbs_offset_lt {zone : WrittenZone} (inRange : zone.isInRange = true) :
    zone.offset.natAbs < 86400 := by
  cases zone with
  | unstated | utc => decide
  | ahead hours minutes | behind hours minutes =>
      simp only [isInRange, Bool.and_eq_true, decide_eq_true_eq] at inRange
      dsimp only [offset]
      omega

end WrittenZone

/-! ## Timestamps -/

namespace Timestamp

theorem read_exactLayout (date : WrittenDate) (separator : Separator) (clock : WrittenClock)
    {rest : List Char} (noPoint : ∀ c ∈ rest.head?, c ≠ '.') :
    exactLayout.read .none (date.text ++ separator.char :: (clock.text ++ rest)) =
      some (⟨date.date, clock.clock⟩, rest) := by
  have afterDate := Layout.read_append_of_reads
    (Layout.dateParts_reads readsNumerals_fixed date)
    (.separator :: (Layout.timeParts .fixed ++ [.fraction]))
    (separator.char :: (clock.text ++ rest))
  have afterTime := Layout.read_append_of_reads
    (Layout.timeParts_reads readsNumerals_fixed date.date clock) [.fraction] rest
  have separatorRead : LayoutPart.separator.read ⟨date.date, .midnight⟩
      (separator.char :: (clock.text ++ rest)) =
        some (⟨date.date, .midnight⟩, clock.text ++ rest) := by
    cases separator <;> rfl
  have fractionRead : Layout.read ⟨date.date, clock.clock⟩ [.fraction] rest =
      some (⟨date.date, clock.clock⟩, rest) := by
    exact (Scan.bind_of_eq_some (Scan.bind_of_eq_some (Scan.skip_of_head noPoint)))
  exact afterDate.trans <| (Scan.bind_of_eq_some separatorRead).trans <|
    afterTime.trans fractionRead

/-- An offset is read when its minutes are less than an hour. -/
theorem readOffset_signed {sign : Char} (isSign : sign = '+' ∨ sign = '-')
    (hours minutes : Numeral 2) :
    readOffset (Scan.char ':') (sign :: (hours.digits ++ ':' :: minutes.digits)) =
      if minutes.value < 60 then
        let seconds : Int := (3600 * hours.value + 60 * minutes.value : Nat)
        some (if sign = '-' then -seconds else seconds, [])
      else none := by
  have notUtc {mark : Char} (ne : sign ≠ mark) (later : List Char) :
      Scan.skip mark (sign :: later) = some (false, sign :: later) := if_neg ne
  have signRead (later : List Char) :
      readSign (sign :: later) = some (sign == '-', later) := by
    rcases isSign with rfl | rfl <;> rfl
  have minutesRead := minutes.reads (Nat.le_refl 2) []
  rw [List.append_nil] at minutesRead
  have notLarge : sign ≠ 'Z' := by rcases isSign with rfl | rfl <;> decide
  have notSmall : sign ≠ 'z' := by rcases isSign with rfl | rfl <;> decide
  refine (Scan.bind_of_eq_some (notUtc notLarge _)).trans <|
    (Scan.bind_of_eq_some (notUtc notSmall _)).trans <|
    (Scan.bind_of_eq_some (signRead _)).trans <|
    (Scan.bind_of_eq_some (hours.reads (Nat.le_refl 2) _)).trans <|
    (Scan.bind_of_eq_some (Scan.char_reads ':' _)).trans <|
    (Scan.bind_of_eq_some minutesRead).trans ?_
  change (if 60 ≤ minutes.value then failure else _ : Scan Int) [] = _
  by_cases inHour : minutes.value < 60
  · rw [if_neg (Nat.not_le.mpr inHour), if_pos inHour]
    rcases isSign with rfl | rfl <;> rfl
  · rw [if_pos (Nat.le_of_not_lt inHour), if_neg inHour]
    rfl

/-- Behind a date and a time the whole rest has to be an offset. -/
theorem read?_of_exactLayout {text rest : List Char} {fields : DateFields}
    (found : exactLayout.read .none text = some (fields, rest)) :
    read? text =
      match readOffset (Scan.char ':') rest with
      | some (offset, []) => instantAt? fields offset
      | _ => none := by
  have timestamp : (do
      let fields ← exactLayout.read .none
      return (fields, ← readOffset (Scan.char ':')) : Scan (DateFields × Int)) text =
        (do return (fields, ← readOffset (Scan.char ':')) : Scan (DateFields × Int)) rest :=
    Scan.bind_of_eq_some found
  unfold read? Scan.complete StateT.run
  dsimp only
  rw [timestamp]
  cases offset : readOffset (Scan.char ':') rest with
  | none => rw [Scan.bind_of_eq_none offset]
  | some read =>
      obtain ⟨offset, later⟩ := read
      rw [Scan.bind_of_eq_some offset]
      cases later <;> rfl

theorem read?_signed (date : WrittenDate) (separator : Separator) (clock : WrittenClock)
    {sign : Char} (isSign : sign = '+' ∨ sign = '-') (hours minutes : Numeral 2) :
    read? (date.text ++ separator.char ::
        (clock.text ++ sign :: (hours.digits ++ ':' :: minutes.digits))) =
      if hours.value < 24 && minutes.value < 60 then
        let seconds : Int := (3600 * hours.value + 60 * minutes.value : Nat)
        Instant.ofLocal? date.date clock.clock (if sign = '-' then -seconds else seconds)
      else none := by
  have noPoint : ∀ c ∈ (sign :: (hours.digits ++ ':' :: minutes.digits)).head?, c ≠ '.' := by
    rintro c ⟨⟩
    rcases isSign with rfl | rfl <;> decide
  rw [read?_of_exactLayout (read_exactLayout date separator clock noPoint),
    readOffset_signed isSign]
  by_cases inHour : minutes.value < 60
  · rw [if_pos inHour]
    dsimp only
    generalize seconds : ((3600 * hours.value + 60 * minutes.value : Nat) : Int) = ahead
    have lessThanDay : (if sign = '-' then -ahead else ahead).natAbs < 86400 ↔
        hours.value < 24 := by
      split <;> omega
    simp only [instantAt?, lessThanDay, inHour, decide_true, Bool.and_true, decide_eq_true_eq]
  · simp only [inHour, if_false, decide_false, Bool.and_false, Bool.false_eq_true]

/-- A date and a time with an offset, and only these, are read as a timestamp. -/
theorem read?_moment (date : WrittenDate) (separator : Separator) (clock : WrittenClock)
    (zone : WrittenZone) :
    read? (date.text ++ separator.char :: (clock.text ++ zone.text)) =
      match zone with
      | .unstated => none
      | zone =>
          if zone.isInRange then Instant.ofLocal? date.date clock.clock zone.offset else none := by
  cases zone with
  | unstated =>
      have noPoint : ∀ c ∈ ([] : List Char).head?, c ≠ '.' := fun _ => nofun
      exact read?_of_exactLayout (read_exactLayout date separator clock noPoint)
  | utc =>
      have noPoint : ∀ c ∈ ['Z'].head?, c ≠ '.' := by
        rintro c ⟨⟩
        decide
      exact read?_of_exactLayout (read_exactLayout date separator clock noPoint)
  | ahead hours minutes => exact read?_signed date separator clock (.inl rfl) hours minutes
  | behind hours minutes => exact read?_signed date separator clock (.inr rfl) hours minutes

theorem read?_of_eq_none {text : List Char} (failed : exactLayout.read .none text = none) :
    read? text = none := by
  unfold read?
  dsimp only
  rw [Scan.complete_of_eq_none (Scan.bind_of_eq_none failed)]

theorem exactLayout_eq :
    exactLayout =
      Layout.dateParts .fixed ++ .separator :: (Layout.timeParts .fixed ++ [.fraction]) :=
  rfl

/-- A timestamp is a date, a separator and a time, and more behind them. -/
theorem exists_of_read? {text : List Char} {instant : Instant}
    (found : read? text = some instant) :
    ∃ (date : WrittenDate) (mark : Char) (clock : WrittenClock) (back : List Char),
      mark ∈ ['T', 't', ' '] ∧ back ≠ [] ∧ text = date.text ++ mark :: (clock.text ++ back) := by
  cases exact : exactLayout.read .none text with
  | none =>
      rw [read?_of_eq_none exact] at found
      contradiction
  | some read =>
      obtain ⟨fields, rest⟩ := read
      rw [read?_of_exactLayout exact] at found
      rw [exactLayout_eq] at exact
      obtain ⟨_, _, dateRead, later⟩ := Layout.exists_of_read_append exact
      obtain ⟨_, _, separatorRead, later⟩ := Scan.exists_of_bind_eq_some later
      obtain ⟨_, back, timeRead, fractionRead⟩ := Layout.exists_of_read_append later
      obtain ⟨mark, markRead⟩ := Scan.exists_of_map_eq_some separatorRead
      obtain ⟨year, month, day, rfl⟩ := Layout.exists_of_fixed dateRead
      obtain ⟨isMark, rfl⟩ := Scan.exists_of_oneOf markRead
      obtain ⟨hour, minute, second, rfl⟩ := Layout.exists_of_fixed timeRead
      refine ⟨⟨year, month, day⟩, mark, ⟨hour, minute, second⟩, back, ?_, ?_, rfl⟩
      · simpa [or_assoc] using isMark
      · -- the offset is read behind the fraction, and nothing is no offset
        rintro rfl
        obtain ⟨-, rfl⟩ := Prod.mk.inj (Option.some.inj fractionRead)
        contradiction

theorem read?_date (date : WrittenDate) : read? date.text = none := by
  have failed : exactLayout.read .none date.text = none := by
    have afterDate := Layout.read_append_of_reads
      (Layout.dateParts_reads readsNumerals_fixed date)
      (.separator :: (Layout.timeParts .fixed ++ [.fraction])) []
    rw [List.append_nil] at afterDate
    exact afterDate
  exact read?_of_eq_none failed

end Timestamp

end SearchQuery.Calendar
