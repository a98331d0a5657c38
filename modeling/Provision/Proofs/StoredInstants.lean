import Provision.Proofs.Calendar
import Provision.Proofs.Columns

/-!
Stored instants read back. An instant is stored with whole milliseconds, each part of it with as
many digits as the reader takes for that part, so reading gives the instant back without what is
beyond its milliseconds, and storing that again gives the same text.
-/

namespace Provision

namespace Decimal

section Padded

variable {width number : Nat}

theorem toList_padded (width number : Nat) :
    (padded width number).toList =
      List.replicate (width - (Nat.toDigits 10 number).length) '0' ++ Nat.toDigits 10 number := by
  simp [padded]

theorem length_padded (wide : 0 < width) (below : number < 10 ^ width) :
    (padded width number).toList.length = width := by
  have short := (Nat.length_toDigits_le_iff (by decide) wide).mpr below
  rw [toList_padded, List.length_append, List.length_replicate]
  omega

theorem isDigit_of_mem_padded {char : Char} (member : char ∈ (padded width number).toList) :
    char.isDigit := by
  rw [toList_padded, List.mem_append] at member
  rcases member with zero | digit
  · rw [List.eq_of_mem_replicate zero]
    rfl
  · exact Nat.isDigit_of_mem_toDigits (by decide) (by decide) digit

theorem ofDigitChars_padded (width number : Nat) :
    Nat.ofDigitChars 10 (padded width number).toList 0 = number := by
  rw [toList_padded, Nat.ofDigitChars_append, Nat.ofDigitChars_replicate_zero, Nat.mul_zero,
    Nat.ofDigitChars_toDigits (by decide) (by decide)]

theorem padded_ne_nil (width number : Nat) : (padded width number).toList ≠ [] := by
  rw [toList_padded]
  exact List.append_ne_nil_of_right_ne_nil _ Nat.toDigits_ne_nil

end Padded

end Decimal

namespace Instant

open Decimal

namespace Reading

section Parts

variable {width number : Nat} (wide : 0 < width) (below : number < 10 ^ width)
include wide below

theorem digits_padded (rest : List Char) :
    digits width ((padded width number).toList ++ rest) = .ok (number, rest) := by
  have length := length_padded wide below
  have digital : (padded width number).toList.all Char.isDigit :=
    List.all_eq_true.mpr fun char => isDigit_of_mem_padded
  rw [digits, List.take_left' length, List.drop_left' length]
  simp [length, digital, ofDigitChars_padded]

theorem fraction_padded (exact : width ≤ 9) {rest : List Char}
    (clear : ∀ char ∈ rest.head?, char.isDigit = false) :
    fraction ('.' :: ((padded width number).toList ++ rest)) =
      .ok (number * tenTo (9 - width), rest) := by
  have length := length_padded wide below
  have given := padded_ne_nil width number
  have digital : ∀ char ∈ (padded width number).toList, char.isDigit :=
    fun char => isDigit_of_mem_padded
  obtain ⟨taken, left⟩ := Text.span_append digital clear
  rw [fraction, taken, left, List.take_of_length_le (by omega), if_neg given, length,
    ofDigitChars_padded]
  simp [given]

end Parts

theorem mark_head (char : Char) (others rest : List Char) :
    mark (char :: others) (char :: rest) = .ok rest := by
  simp [mark]

def dateText (date : Date) : List Char :=
  (padded 4 date.year.toNat).toList ++
    '-' :: ((padded 2 date.month).toList ++ '-' :: (padded 2 date.day).toList)

theorem month_day_le_of_isValid {date : Date} (valid : date.isValid) :
    date.month ≤ 12 ∧ date.day ≤ 31 := by
  simp only [Date.isValid, Bool.and_eq_true, decide_eq_true_eq] at valid
  have longest : Date.daysInMonth date.year date.month ≤ 31 := by
    simp only [Date.daysInMonth]
    split
    · split <;> omega
    · split <;> omega
  omega

theorem length_dateText {date : Date} (natural : 0 ≤ date.year) (small : date.year ≤ 9999)
    (valid : date.isValid) : (dateText date).length = 10 := by
  obtain ⟨month, day⟩ := month_day_le_of_isValid valid
  have yearDigits : (padded 4 date.year.toNat).toList.length = 4 :=
    length_padded (by decide) (by omega)
  have monthDigits : (padded 2 date.month).toList.length = 2 :=
    length_padded (by decide) (by omega)
  have dayDigits : (padded 2 date.day).toList.length = 2 := length_padded (by decide) (by omega)
  simp [dateText, yearDigits, monthDigits, dayDigits]

theorem date_dateText {date : Date} (natural : 0 ≤ date.year) (small : date.year ≤ 9999)
    (valid : date.isValid) (rest : List Char) :
    Reading.date (dateText date ++ rest) = .ok (date, rest) := by
  obtain ⟨month, day⟩ := month_day_le_of_isValid valid
  have same : (⟨date.year.toNat, date.month, date.day⟩ : Date) = date := by
    rw [Int.toNat_of_nonneg natural]
  simp only [dateText, List.append_assoc, List.cons_append]
  refine bind_eq_ok_iff.mpr ⟨_, digits_padded (by decide) (by omega) _, ?_⟩
  refine bind_eq_ok_iff.mpr ⟨_, mark_head _ _ _, ?_⟩
  refine bind_eq_ok_iff.mpr ⟨_, digits_padded (by decide) (by omega) _, ?_⟩
  refine bind_eq_ok_iff.mpr ⟨_, mark_head _ _ _, ?_⟩
  refine bind_eq_ok_iff.mpr ⟨_, digits_padded (by decide) (by omega) _, ?_⟩
  dsimp only
  rw [same, if_pos valid]

def timeText (time : Time) : List Char :=
  (padded 2 time.hour).toList ++
    ':' :: ((padded 2 time.minute).toList ++
      ':' :: ((padded 2 time.second).toList ++ '.' :: (padded 3 (time.nanos / 1000000)).toList))

/-- A time of day that is given by whole milliseconds; it may be a leap second. -/
structure Time.Stored (time : Time) : Prop where
  hour : time.hour ≤ 23
  minute : time.minute ≤ 59
  second : time.second ≤ 60
  nanos : time.nanos < 1000000000
  whole : time.nanos % 1000000 = 0

theorem Time.Stored.length_timeText {time : Time} (stored : time.Stored) :
    (timeText time).length = 12 := by
  obtain ⟨hour, minute, second, nanos, -⟩ := stored
  have hourDigits : (padded 2 time.hour).toList.length = 2 :=
    length_padded (by decide) (by omega)
  have minuteDigits : (padded 2 time.minute).toList.length = 2 :=
    length_padded (by decide) (by omega)
  have secondDigits : (padded 2 time.second).toList.length = 2 :=
    length_padded (by decide) (by omega)
  have millisDigits : (padded 3 (time.nanos / 1000000)).toList.length = 3 :=
    length_padded (by decide) (by omega)
  simp [timeText, hourDigits, minuteDigits, secondDigits, millisDigits]

theorem Time.Stored.time_timeText {time : Time} (stored : time.Stored) {rest : List Char}
    (clear : ∀ char ∈ rest.head?, char.isDigit = false) :
    Reading.time (timeText time ++ rest) = .ok (time, rest) := by
  obtain ⟨hour, minute, second, nanos, whole⟩ := stored
  have exact : time.nanos / 1000000 * tenTo (9 - 3) = time.nanos := by
    rw [show tenTo (9 - 3) = 1000000 from rfl]
    omega
  simp only [timeText, List.append_assoc, List.cons_append]
  refine bind_eq_ok_iff.mpr ⟨_, digits_padded (by decide) (by omega) _, ?_⟩
  refine bind_eq_ok_iff.mpr ⟨_, mark_head _ _ _, ?_⟩
  refine bind_eq_ok_iff.mpr ⟨_, digits_padded (by decide) (by omega) _, ?_⟩
  refine bind_eq_ok_iff.mpr ⟨_, mark_head _ _ _, ?_⟩
  refine bind_eq_ok_iff.mpr ⟨_, digits_padded (by decide) (by omega) _, ?_⟩
  refine bind_eq_ok_iff.mpr ⟨_, fraction_padded (by decide) (by omega) (by decide) clear, ?_⟩
  dsimp only
  rw [exact, if_neg]
  simp only [Bool.or_eq_true, decide_eq_true_eq]
  omega

theorem length_le_byteLength (text : List Char) : text.length ≤ byteLength text := by
  induction text with
  | nil => exact Nat.zero_le _
  | cons char rest ih =>
      have size := char.utf8Size_pos
      simp only [byteLength, List.length_cons]
      omega

end Reading

open Reading

/-- Without what is beyond whole milliseconds. A leap second stays one. -/
def truncated (instant : Instant) : Instant where
  seconds := instant.seconds
  nanos := instant.nanos / 1000000 * 1000000
  bounded := by
    have bounded := instant.bounded
    omega
  leap := by
    intro beyond
    apply instant.leap
    omega

def time (instant : Instant) : Time where
  hour := instant.secondOfDay / 3600
  minute := instant.secondOfDay / 60 % 60
  second := instant.secondOfDay % 60 + instant.nanos / 1000000000
  nanos := instant.subsecond / 1000000 * 1000000

def HasFourDigitYear (instant : Instant) : Prop :=
  0 ≤ instant.date.year ∧ instant.date.year ≤ 9999

instance (instant : Instant) : Decidable instant.HasFourDigitYear :=
  inferInstanceAs (Decidable (_ ∧ _))

variable {instant : Instant}

theorem toList_text (year : instant.HasFourDigitYear) :
    instant.text.toList = dateText instant.date ++ 'T' :: (timeText instant.time ++ ['Z']) := by
  obtain ⟨natural, small⟩ := year
  have digits : yearText instant.date.year = padded 4 instant.date.year.toNat := by
    simp [yearText, natural, small]
  have hour : instant.time.hour = instant.secondOfDay / 3600 := rfl
  have minute : instant.time.minute = instant.secondOfDay / 60 % 60 := rfl
  have second :
      instant.time.second = instant.secondOfDay % 60 + instant.nanos / 1000000000 := rfl
  have millis : instant.time.nanos / 1000000 = instant.subsecond / 1000000 :=
    Nat.mul_div_cancel _ (by decide)
  simp [text, clock, dateText, timeText, digits, hour, minute, second, millis]

theorem secondOfDay_eq (instant : Instant) :
    (instant.secondOfDay : Int) = instant.seconds % 86400 := by
  rw [secondOfDay, Int.toNat_of_nonneg]
  omega

theorem second_time (instant : Instant) :
    instant.time.second = if 1000000000 ≤ instant.nanos then 60 else instant.secondOfDay % 60 := by
  have bounded := instant.bounded
  have leap := instant.leap
  have day := instant.secondOfDay_eq
  simp only [time]
  split <;> omega

theorem of?_eq (instant : Instant) : of? instant.seconds instant.nanos = some instant := by
  simp only [of?, dif_pos instant.bounded, dif_pos instant.leap]

theorem assemble_eq (instant : Instant) :
    assemble instant.date instant.time 0 = some instant.truncated := by
  have leap := instant.leap
  have bounded := instant.bounded
  have days : instant.date.toDays = instant.seconds / 86400 := Date.toDays_ofDays _
  have day := instant.secondOfDay_eq
  have hour : instant.time.hour = instant.secondOfDay / 3600 := rfl
  have minute : instant.time.minute = instant.secondOfDay / 60 % 60 := rfl
  have nanos : instant.time.nanos = instant.nanos % 1000000000 / 1000000 * 1000000 := rfl
  have second := instant.second_time
  have given : instant.truncated.seconds = instant.seconds ∧
      instant.truncated.nanos = instant.nanos / 1000000 * 1000000 := ⟨rfl, rfl⟩
  rw [← of?_eq instant.truncated, assemble]
  by_cases beyond : 1000000000 ≤ instant.nanos
  · rw [if_pos beyond] at second
    congr 1
    · simp only [second, if_true]
      omega
    · simp only [second, if_true]
      omega
  · rw [if_neg beyond] at second
    have common : instant.time.second ≠ 60 := by omega
    congr 1
    · simp only [common, if_false]
      omega
    · simp only [common, if_false]
      omega

theorem time_stored (instant : Instant) : instant.time.Stored := by
  have bounded := instant.bounded
  have day := instant.secondOfDay_eq
  have second := instant.second_time
  refine ⟨?_, ?_, ?_, ?_, ?_⟩
  · simp only [time]
    omega
  · simp only [time]
    omega
  · split at second <;> omega
  · simp only [time, subsecond]
    omega
  · simp only [time]
    omega

theorem nineteen_le_byteLength (year : instant.HasFourDigitYear) :
    19 ≤ byteLength instant.text.toList := by
  have date := length_dateText year.1 year.2 (Date.isValid_ofDays _)
  have time := instant.time_stored.length_timeText
  have length : instant.text.toList.length = 24 := by
    simp [toList_text year, date, time]
  have bytes := length_le_byteLength instant.text.toList
  omega

theorem read_text (year : instant.HasFourDigitYear) :
    read instant.text = .ok instant.truncated := by
  have date := date_dateText year.1 year.2 (Date.isValid_ofDays _)
    ('T' :: (timeText instant.time ++ ['Z']))
  have time := instant.time_stored.time_timeText
    (show ∀ char ∈ ['Z'].head?, char.isDigit = false by simp)
  have long := nineteen_le_byteLength year
  rw [read]
  dsimp only
  rw [if_neg (by omega), toList_text year]
  refine bind_eq_ok_iff.mpr ⟨_, date, ?_⟩
  refine bind_eq_ok_iff.mpr ⟨_, mark_head _ _ _, ?_⟩
  refine bind_eq_ok_iff.mpr ⟨_, time, ?_⟩
  refine bind_eq_ok_iff.mpr ⟨(0, []), rfl, ?_⟩
  rw [if_neg (by simp), if_neg (by decide), assemble_eq]
  rfl

theorem text_truncated (instant : Instant) : instant.truncated.text = instant.text := by
  have second : instant.nanos / 1000000 * 1000000 / 1000000000 = instant.nanos / 1000000000 := by
    omega
  have millis : instant.nanos / 1000000 * 1000000 % 1000000000 / 1000000 =
      instant.nanos % 1000000000 / 1000000 := by omega
  simp only [text, clock, date, secondOfDay, subsecond, truncated, second, millis]

theorem instant?_of_text {row : Row} {column : String} (year : instant.HasFourDigitYear)
    (held : row.get? column = some (.text instant.text)) :
    row.instant? column = .ok (some instant.truncated) := by
  have given : row.given? column = some (.text instant.text) :=
    Row.given?_eq_some_iff.mpr ⟨held, by simp⟩
  rw [Row.instant?, Row.read?, given]
  dsimp only
  rw [Row.instantOfCell, read_text year]

/-- An instant of a year of four digits is read from a row that holds its stored form, to the
millisecond and as the leap second that it may be; what has been read is stored in the same form,
and loses nothing more. -/
theorem stored_instant_reads_back (instant : Instant) (year : instant.HasFourDigitYear) (row : Row)
    (column : String) (held : row.get? column = some (.text instant.text)) :
    ∃ read, row.instant? column = .ok (some read) ∧ read.seconds = instant.seconds ∧
      read.nanos = instant.nanos / 1000000 * 1000000 ∧ read.text = instant.text ∧
      ∀ (later : Row) name, later.get? name = some (.text read.text) →
        later.instant? name = .ok (some read) := by
  refine ⟨instant.truncated, instant?_of_text year held, rfl, rfl, text_truncated instant, ?_⟩
  intro later name held
  rw [text_truncated] at held
  exact instant?_of_text year held

def leapSecond : Instant := ⟨1483228799, 1999999999, by omega, by omega⟩

def resumed : Row := .ofCells [("Resumed_On", .text "2016-12-31T23:59:60.999Z")]

theorem leap_second_reads_back :
    leapSecond.HasFourDigitYear ∧
      resumed.get? "resumed_on" = some (.text leapSecond.text) ∧
      ∃ read, resumed.instant? "resumed_on" = .ok (some read) ∧ read.seconds = 1483228799 ∧
        read.nanos = 1999000000 ∧ read.text = "2016-12-31T23:59:60.999Z" := by
  have year : leapSecond.HasFourDigitYear := by decide
  have held : resumed.get? "resumed_on" = some (.text leapSecond.text) := by decide
  obtain ⟨read, found, seconds, nanos, text, -⟩ :=
    stored_instant_reads_back leapSecond year resumed "resumed_on" held
  exact ⟨year, held, read, found, seconds, nanos, text⟩

end Instant

end Provision
