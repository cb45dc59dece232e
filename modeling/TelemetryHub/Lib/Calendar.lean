import Mathlib.Algebra.Group.Nat.Defs
import Mathlib.Data.List.Induction

/-!
# Civil time

Days and seconds counted from the first of January 1970, the dates of the Gregorian calendar
they fall on, and the text of an instant in UTC: `2024-02-29T12:00:00.250Z`.
-/

namespace TelemetryHub.Lib.Calendar

/-! ## Dates -/

/-- A date of the proleptic Gregorian calendar. -/
structure Civil where
  year : Int
  month : Int
  day : Int
  deriving DecidableEq

/-- The year of the era a day of it falls in, the years counted from March. -/
def yearOfEra (dayOfEra : Int) : Int := (dayOfEra - dayOfEra / 1460 + dayOfEra / 36524 - dayOfEra / 146096) / 365

/-- The day of that year. -/
def dayOfYear (dayOfEra : Int) : Int :=
  dayOfEra - (365 * yearOfEra dayOfEra + yearOfEra dayOfEra / 4 - yearOfEra dayOfEra / 100)

/-- The month of that year, March being 0. -/
def monthOfYear (dayOfEra : Int) : Int := (5 * dayOfYear dayOfEra + 2) / 153

/-- The month of the calendar, January being 1. -/
def fromMarch (month : Int) : Int := if month < 10 then month + 3 else month - 9

/-- The month counted from March. -/
def toMarch (month : Int) : Int := if 2 < month then month - 3 else month + 9

/-- What the calendar counts to the year of January and February. -/
def newYear (month : Int) : Int := if month ≤ 2 then 1 else 0

/-- The date of a day. An era is 400 years, and begins with a first of March. -/
def civilOf (days : Int) : Civil :=
  let era := (days + 719468) / 146097
  let dayOfEra := (days + 719468) % 146097
  let month := fromMarch (monthOfYear dayOfEra)
  { year := yearOfEra dayOfEra + era * 400 + newYear month
    month
    day := dayOfYear dayOfEra - (153 * monthOfYear dayOfEra + 2) / 5 + 1 }

/-- The day of a date. -/
def daysOf (date : Civil) : Int :=
  let year := date.year - newYear date.month
  let dayOfYear := (153 * toMarch date.month + 2) / 5 + date.day - 1
  year / 400 * 146097 + (year % 400 * 365 + year % 400 / 4 - year % 400 / 100 + dayOfYear) - 719468

theorem toMarch_fromMarch {month : Int} (low : 0 ≤ month) (high : month ≤ 11) : toMarch (fromMarch month) = month := by
  unfold toMarch fromMarch
  split <;> split at * <;> omega

section Ranges

variable {dayOfEra : Int} (low : 0 ≤ dayOfEra) (high : dayOfEra ≤ 146096)

include low high

theorem yearOfEra_range : 0 ≤ yearOfEra dayOfEra ∧ yearOfEra dayOfEra ≤ 399 := by
  unfold yearOfEra
  omega

theorem dayOfYear_range : 0 ≤ dayOfYear dayOfEra ∧ dayOfYear dayOfEra ≤ 365 := by
  have years := yearOfEra_range low high
  unfold dayOfYear
  generalize year : yearOfEra dayOfEra = yoe at years
  unfold yearOfEra at year
  have last : dayOfEra / 146096 = 0 ∨ dayOfEra / 146096 = 1 := by omega
  obtain last | last := last
  · -- the leap days are counted by the century of the day and the one of the year
    have century : dayOfEra / 36524 = 0 ∨ dayOfEra / 36524 = 1 ∨ dayOfEra / 36524 = 2 ∨ dayOfEra / 36524 = 3 ∨
        dayOfEra / 36524 = 4 := by omega
    have hundred : yoe / 100 = 0 ∨ yoe / 100 = 1 ∨ yoe / 100 = 2 ∨ yoe / 100 = 3 := by omega
    obtain century | century | century | century | century := century <;>
      obtain hundred | hundred | hundred | hundred := hundred <;>
      rw [hundred] <;> rw [century, last] at year <;> constructor <;> omega
  · obtain rfl : dayOfEra = 146096 := by omega
    rw [← year]
    decide

theorem monthOfYear_range : 0 ≤ monthOfYear dayOfEra ∧ monthOfYear dayOfEra ≤ 11 := by
  have days := dayOfYear_range low high
  unfold monthOfYear
  omega

theorem dayOfMonth_range : 1 ≤ dayOfYear dayOfEra - (153 * monthOfYear dayOfEra + 2) / 5 + 1 ∧
    dayOfYear dayOfEra - (153 * monthOfYear dayOfEra + 2) / 5 + 1 ≤ 31 := by
  have days := dayOfYear_range low high
  unfold monthOfYear
  omega

end Ranges

theorem dayOfEra_range (days : Int) : 0 ≤ (days + 719468) % 146097 ∧ (days + 719468) % 146097 ≤ 146096 := by
  omega

theorem civilOf_month (days : Int) : 1 ≤ (civilOf days).month ∧ (civilOf days).month ≤ 12 := by
  have range := dayOfEra_range days
  have months := monthOfYear_range range.1 range.2
  show 1 ≤ fromMarch _ ∧ fromMarch _ ≤ 12
  unfold fromMarch
  split <;> omega

theorem civilOf_day (days : Int) : 1 ≤ (civilOf days).day ∧ (civilOf days).day ≤ 31 := by
  have range := dayOfEra_range days
  exact dayOfMonth_range range.1 range.2

/-- A day before the first of January 1970 is in an earlier year. -/
theorem civilOf_year_lt {days : Int} (before : days < 0) : (civilOf days).year < 1970 := by
  have range := dayOfEra_range days
  have years := yearOfEra_range range.1 range.2
  have year : (civilOf days).year = yearOfEra ((days + 719468) % 146097) + (days + 719468) / 146097 * 400 +
      newYear (fromMarch (monthOfYear ((days + 719468) % 146097))) := rfl
  have january : newYear (fromMarch (monthOfYear ((days + 719468) % 146097))) ≤ 1 := by
    unfold newYear
    split <;> omega
  by_cases early : (days + 719468) / 146097 < 4
  · omega
  · -- in the era of 1970 the days before it are those up to the end of December of year 369
    have era : (days + 719468) / 146097 = 4 := by omega
    have within : (days + 719468) % 146097 ≤ 135079 := by omega
    generalize (days + 719468) % 146097 = dayOfEra at *
    have most : yearOfEra dayOfEra ≤ 369 := by
      unfold yearOfEra
      omega
    by_cases last : yearOfEra dayOfEra = 369
    · have december : newYear (fromMarch (monthOfYear dayOfEra)) = 0 := by
        have month : monthOfYear dayOfEra ≤ 9 := by
          unfold monthOfYear dayOfYear
          rw [last]
          omega
        have low := (monthOfYear_range range.1 range.2).1
        have counted : fromMarch (monthOfYear dayOfEra) = monthOfYear dayOfEra + 3 := if_pos (by omega)
        rw [counted, newYear, if_neg (by omega)]
      omega
    · omega

/-- A day of a year up to 9999 is before the year 10000 of March is over. -/
theorem days_lt_of_year {days : Int} (year : (civilOf days).year ≤ 9999) : days < 2932957 := by
  have range := dayOfEra_range days
  have years := yearOfEra_range range.1 range.2
  have sum : (civilOf days).year = yearOfEra ((days + 719468) % 146097) + (days + 719468) / 146097 * 400 +
      newYear (fromMarch (monthOfYear ((days + 719468) % 146097))) := rfl
  have january : 0 ≤ newYear (fromMarch (monthOfYear ((days + 719468) % 146097))) := by
    unfold newYear
    split <;> omega
  omega

/-- The day of the date of a day is the day. -/
@[simp] theorem daysOf_civilOf (days : Int) : daysOf (civilOf days) = days := by
  have range := dayOfEra_range days
  have years := yearOfEra_range range.1 range.2
  have months := monthOfYear_range range.1 range.2
  have day : dayOfYear ((days + 719468) % 146097) = (days + 719468) % 146097 -
      (365 * yearOfEra ((days + 719468) % 146097) + yearOfEra ((days + 719468) % 146097) / 4 -
        yearOfEra ((days + 719468) % 146097) / 100) := rfl
  unfold daysOf civilOf
  dsimp only
  rw [toMarch_fromMarch months.1 months.2, day]
  generalize yearOfEra ((days + 719468) % 146097) = yoe at years
  generalize newYear (fromMarch (monthOfYear ((days + 719468) % 146097))) = january
  have march : yoe + (days + 719468) / 146097 * 400 + january - january = yoe + (days + 719468) / 146097 * 400 := by omega
  have era : (yoe + (days + 719468) / 146097 * 400) / 400 = (days + 719468) / 146097 := by omega
  have within : (yoe + (days + 719468) / 146097 * 400) % 400 = yoe := by omega
  rw [march, era, within]
  omega

/-! ## Numbers of a fixed width -/

/-- A number in decimal digits, zeros before it up to the width. -/
def padded (width n : Nat) : List Char :=
  List.replicate (width - (Nat.toDigits 10 n).length) '0' ++ Nat.toDigits 10 n

theorem padded_digits {width n : Nat} : ∀ c ∈ padded width n, c.isDigit = true := by
  intro c mem
  obtain zero | digit := List.mem_append.1 mem
  · rw [List.eq_of_mem_replicate zero]
    rfl
  · exact Nat.isDigit_of_mem_toDigits (by decide) (by decide) digit

theorem length_padded {width n : Nat} (fits : n < 10 ^ width) (some' : 0 < width) : (padded width n).length = width := by
  have short : (Nat.toDigits 10 n).length ≤ width := (Nat.length_toDigits_le_iff (by decide) some').2 fits
  rw [padded, List.length_append, List.length_replicate]
  omega

theorem ofDigitChars_padded (width n : Nat) : Nat.ofDigitChars 10 (padded width n) 0 = n := by
  rw [padded, Nat.ofDigitChars_append, Nat.ofDigitChars_replicate_zero, Nat.mul_zero, Nat.ofDigitChars_ten_toDigits]

/-- Read so many digits, and what is left behind them. -/
def readDigits (count : Nat) (text : List Char) : Option (Nat × List Char) :=
  if (text.take count).length = count && (text.take count).all Char.isDigit then
    some (Nat.ofDigitChars 10 (text.take count) 0, text.drop count)
  else none

theorem readDigits_padded {width n : Nat} {rest : List Char} (fits : n < 10 ^ width) (some' : 0 < width) :
    readDigits width (padded width n ++ rest) = some (n, rest) := by
  have length := length_padded fits some'
  have front : (padded width n ++ rest).take width = padded width n := List.take_left' length
  have behind : (padded width n ++ rest).drop width = rest := List.drop_left' length
  have digits : (padded width n).all Char.isDigit = true := List.all_eq_true.2 padded_digits
  rw [readDigits, front, behind, length, digits, ofDigitChars_padded]
  simp

/-- Read one character, and leave what is behind it. -/
def readChar (c : Char) : List Char → Option (List Char)
  | [] => none
  | first :: rest => if first = c then some rest else none

@[simp] theorem readChar_cons (c : Char) (rest : List Char) : readChar c (c :: rest) = some rest := if_pos rfl

/-! ## Instants as texts -/

/-- The date and the time of day of a second, without the zone. -/
def secondsText (seconds : Int) : List Char :=
  let date := civilOf (seconds / 86400)
  let ofDay := (seconds % 86400).toNat
  padded 4 date.year.toNat ++ '-' :: (padded 2 date.month.toNat ++ '-' :: (padded 2 date.day.toNat ++ 'T' ::
    (padded 2 (ofDay / 3600) ++ ':' :: (padded 2 (ofDay / 60 % 60) ++ ':' :: padded 2 (ofDay % 60)))))

/-- The fraction of a second, none for no digits. -/
def fractionText : List Char → List Char
  | [] => []
  | digit :: digits => '.' :: digit :: digits

/-- The milliseconds the digits of a fraction say. -/
def fractionMillis (digits : List Char) : Nat := Nat.ofDigitChars 10 ((digits ++ ['0', '0', '0']).take 3) 0

/-- Read the digits of a fraction, and what is left behind them. -/
def readFractionDigits (text : List Char) : Option (Nat × List Char) :=
  let digits := text.takeWhile Char.isDigit
  if digits.isEmpty then none else some (fractionMillis digits, text.drop digits.length)

theorem ofDigitChars_lt {digits : List Char} (all : ∀ c ∈ digits, c.isDigit = true) :
    Nat.ofDigitChars 10 digits 0 < 10 ^ digits.length := by
  induction digits using List.reverseRecOn with
  | nil => exact Nat.one_pos
  | append_singleton digits digit ih =>
    have before := ih fun c mem => all c (List.mem_append_left _ mem)
    have last := all digit (List.mem_append_right _ List.mem_cons_self)
    rw [Char.isDigit, Bool.and_eq_true, decide_eq_true_eq, decide_eq_true_eq] at last
    have high : digit.toNat ≤ 57 := last.2
    have step : Nat.ofDigitChars 10 (digits ++ [digit]) 0 = 10 * Nat.ofDigitChars 10 digits 0 + (digit.toNat - '0'.toNat) := by
      rw [Nat.ofDigitChars_append, Nat.ofDigitChars_cons, Nat.ofDigitChars_nil]
    have zero : '0'.toNat = 48 := rfl
    rw [step, List.length_append, List.length_singleton, Nat.pow_succ]
    omega

theorem fractionMillis_lt {digits : List Char} (all : ∀ c ∈ digits, c.isDigit = true) : fractionMillis digits < 1000 := by
  have three : ((digits ++ ['0', '0', '0']).take 3).length = 3 := by
    rw [List.length_take, List.length_append]
    simp
  have value : ∀ c ∈ (digits ++ ['0', '0', '0']).take 3, c.isDigit = true := by
    intro c mem
    obtain digit | zero := List.mem_append.1 (List.mem_of_mem_take mem)
    · exact all c digit
    · have same : c = '0' := by simpa using zero
      rw [same]
      rfl
  have bound := ofDigitChars_lt value
  rw [three] at bound
  exact bound

/-- Read a fraction if there is one, and what is left behind it. -/
def readFraction (text : List Char) : Option (Nat × List Char) :=
  match text with
  | '.' :: rest => readFractionDigits rest
  | text => some (0, text)

theorem readFraction_fractionText {digits : List Char} (rest : List Char) (all : ∀ c ∈ digits, c.isDigit = true)
    (ends : ∀ c ∈ rest.head?, c.isDigit = false ∧ c ≠ '.') :
    readFraction (fractionText digits ++ rest) = some (fractionMillis digits, rest) := by
  cases digits with
  | nil =>
    cases rest with
    | nil => rfl
    | cons first rest =>
      have other := (ends first rfl).2
      rw [fractionText, List.nil_append]
      unfold readFraction
      split
      · rename_i rest' same
        exact absurd (List.cons.inj same).1 other
      · rfl
  | cons digit digits =>
    have taken : (digit :: digits ++ rest).takeWhile Char.isDigit = digit :: digits := by
      rw [List.takeWhile_append_of_pos all]
      cases rest with
      | nil => rw [List.takeWhile_nil, List.append_nil]
      | cons first rest =>
        have stop := (ends first rfl).1
        rw [List.takeWhile_cons, stop, if_neg Bool.false_ne_true, List.append_nil]
    show readFractionDigits (digit :: digits ++ rest) = _
    unfold readFractionDigits
    dsimp only
    rw [taken, List.drop_left' rfl]
    rfl

/-- Read an instant in UTC, to the millisecond. -/
def parseUtcMillis (text : List Char) : Option Int := do
  let (year, text) ← readDigits 4 text
  let text ← readChar '-' text
  let (month, text) ← readDigits 2 text
  let text ← readChar '-' text
  let (day, text) ← readDigits 2 text
  let text ← readChar 'T' text
  let (hour, text) ← readDigits 2 text
  let text ← readChar ':' text
  let (minute, text) ← readDigits 2 text
  let text ← readChar ':' text
  let (second, text) ← readDigits 2 text
  let (millis, text) ← readFraction text
  let text ← readChar 'Z' text
  let date : Civil := { year, month, day }
  if text.isEmpty && civilOf (daysOf date) = date && hour < 24 && minute < 60 && second < 60 then
    some ((daysOf date * 86400 + hour * 3600 + minute * 60 + second) * 1000 + millis)
  else none

/-- The text of an instant is read back. -/
theorem parseUtcMillis_text {seconds : Int} {digits : List Char}
    (year : 0 ≤ (civilOf (seconds / 86400)).year ∧ (civilOf (seconds / 86400)).year ≤ 9999)
    (all : ∀ c ∈ digits, c.isDigit = true) :
    parseUtcMillis (secondsText seconds ++ (fractionText digits ++ ['Z'])) =
      some (seconds * 1000 + fractionMillis digits) := by
  have month := civilOf_month (seconds / 86400)
  have day := civilOf_day (seconds / 86400)
  have date : Civil.mk (civilOf (seconds / 86400)).year.toNat (civilOf (seconds / 86400)).month.toNat
      (civilOf (seconds / 86400)).day.toNat = civilOf (seconds / 86400) := by
    rw [Int.toNat_of_nonneg year.1, Int.toNat_of_nonneg (by omega), Int.toNat_of_nonneg (by omega)]
  have fraction := readFraction_fractionText ['Z'] all fun c first => by cases first; decide
  unfold parseUtcMillis secondsText
  simp only [List.append_assoc, List.cons_append, bind]
  rw [readDigits_padded (by omega) (by decide)]
  simp only [Option.bind_some, readChar_cons]
  rw [readDigits_padded (by omega) (by decide)]
  simp only [Option.bind_some, readChar_cons]
  rw [readDigits_padded (by omega) (by decide)]
  simp only [Option.bind_some, readChar_cons]
  rw [readDigits_padded (by omega) (by decide)]
  simp only [Option.bind_some, readChar_cons]
  rw [readDigits_padded (by omega) (by decide)]
  simp only [Option.bind_some, readChar_cons]
  rw [readDigits_padded (by omega) (by decide)]
  simp only [Option.bind_some, readChar_cons, fraction]
  rw [date, daysOf_civilOf]
  simp only [List.isEmpty_nil]
  rw [if_pos (by simp; omega)]
  congr 1
  omega

end TelemetryHub.Lib.Calendar
