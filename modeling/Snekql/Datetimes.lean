import Snekql.Numerals

/-!
# Civil datetimes

The datetimes of the Gregorian calendar from year 1 to year 9999, to the microsecond, as Python
has them. They are ordered field by field. Counting microseconds from the first one gives the same
order, and moving by a duration is addition of counts, which fails outside of the range.
-/

namespace Snekql.Temporal

open Snekql.Numerals

/-! ## Fields -/

def isLeap (year : Nat) : Bool := year % 4 == 0 && (year % 100 != 0 || year % 400 == 0)

def daysInMonth (year month : Nat) : Nat :=
  if month = 2 then if isLeap year then 29 else 28
  else if month = 4 ∨ month = 6 ∨ month = 9 ∨ month = 11 then 30
  else 31

/-- A naive `datetime`. -/
structure Datetime where
  year : Nat
  month : Nat
  day : Nat
  hour : Nat
  minute : Nat
  second : Nat
  microsecond : Nat
  year_valid : 1 ≤ year ∧ year ≤ 9999
  month_valid : 1 ≤ month ∧ month ≤ 12
  day_valid : 1 ≤ day ∧ day ≤ daysInMonth year month
  hour_valid : hour < 24
  minute_valid : minute < 60
  second_valid : second < 60
  microsecond_valid : microsecond < 1000000
deriving DecidableEq, Repr

namespace Datetime

/-- Datetimes are compared field by field. -/
def Less (first second : Datetime) : Prop :=
  first.year < second.year ∨ first.year = second.year ∧
  (first.month < second.month ∨ first.month = second.month ∧
  (first.day < second.day ∨ first.day = second.day ∧
  (first.hour < second.hour ∨ first.hour = second.hour ∧
  (first.minute < second.minute ∨ first.minute = second.minute ∧
  (first.second < second.second ∨ first.second = second.second ∧
    first.microsecond < second.microsecond)))))

/-- `isoformat(timespec="microseconds")`. -/
def isoformat (datetime : Datetime) : Text :=
  padded 4 datetime.year ++ '-' :: (padded 2 datetime.month ++ '-' :: (padded 2 datetime.day ++
    'T' :: (padded 2 datetime.hour ++ ':' :: (padded 2 datetime.minute ++
      ':' :: (padded 2 datetime.second ++ '.' :: padded 6 datetime.microsecond)))))

theorem day_lt (datetime : Datetime) : datetime.day < 100 := by
  have valid := datetime.day_valid.2
  have month : daysInMonth datetime.year datetime.month ≤ 31 := by
    unfold daysInMonth
    split
    · split <;> omega
    · split <;> omega
  omega

theorem length_isoformat (datetime : Datetime) : datetime.isoformat.length = 26 := by
  obtain ⟨-, year⟩ := datetime.year_valid
  obtain ⟨-, month⟩ := datetime.month_valid
  have day := datetime.day_lt
  have hour := datetime.hour_valid
  have minute := datetime.minute_valid
  have second := datetime.second_valid
  have microsecond := datetime.microsecond_valid
  have two : ∀ number, number < 100 → (padded 2 number).length = 2 :=
    fun number small => length_padded (by omega) small
  have four : (padded 4 datetime.year).length = 4 := length_padded (by omega) (by omega)
  have six : (padded 6 datetime.microsecond).length = 6 := length_padded (by omega) (by omega)
  simp only [isoformat, List.length_append, List.length_cons, four, six, two _ day,
    two datetime.month (by omega), two datetime.hour (by omega), two datetime.minute (by omega),
    two datetime.second (by omega)]

/-- A field in front decides, or else what follows it. -/
theorem before_field {width first second : Nat} (positive : 0 < width)
    (firstSmall : first < 10 ^ width) (secondSmall : second < 10 ^ width) (char : Char)
    (rest others : Text) :
    Before (padded width first ++ char :: rest) (padded width second ++ char :: others) ↔
      first < second ∨ first = second ∧ Before rest others := by
  have lengths := (length_padded positive firstSmall).trans
    (length_padded positive secondSmall).symm
  have same : padded width first = padded width second ↔ first = second := by
    constructor
    · intro equal
      rw [← numeral_padded width first, equal, numeral_padded]
    · intro equal
      rw [equal]
  have next : Before (char :: rest) (char :: others) ↔ Before rest others := by
    rw [before_cons]
    exact or_iff_right (fun smaller => Nat.lt_irrefl _ (char_lt_iff.mp smaller)) |>.trans
      (and_iff_right rfl)
  rw [before_append lengths, padded_before_iff positive firstSmall secondSmall, same, next]

/-- The text of datetimes is ordered as the datetimes are. -/
theorem isoformat_before_iff (first second : Datetime) (ending : Text) :
    Before (first.isoformat ++ ending) (second.isoformat ++ ending) ↔ Less first second := by
  have years := first.year_valid
  have otherYears := second.year_valid
  have months := first.month_valid
  have otherMonths := second.month_valid
  have days := first.day_lt
  have otherDays := second.day_lt
  have hours := first.hour_valid
  have otherHours := second.hour_valid
  have minutes := first.minute_valid
  have otherMinutes := second.minute_valid
  have seconds := first.second_valid
  have otherSeconds := second.second_valid
  have lengths : (padded 6 first.microsecond).length = (padded 6 second.microsecond).length :=
    (length_padded (by decide) first.microsecond_valid).trans
      (length_padded (by decide) second.microsecond_valid).symm
  have micros : Before (padded 6 first.microsecond ++ ending)
      (padded 6 second.microsecond ++ ending) ↔ first.microsecond < second.microsecond := by
    rw [before_append lengths, padded_before_iff (by decide) first.microsecond_valid
      second.microsecond_valid]
    exact or_iff_left (fun both => not_before_self _ both.2)
  unfold isoformat Less
  simp only [List.append_assoc, List.cons_append]
  rw [before_field (by decide) (by omega) (by omega), before_field (by decide) (by omega) (by omega),
    before_field (by decide) (by omega) (by omega), before_field (by decide) (by omega) (by omega),
    before_field (by decide) (by omega) (by omega), before_field (by decide) (by omega) (by omega),
    micros]

/-- Two datetimes are equal, or one comes first. -/
theorem less_or_eq (first second : Datetime) :
    Less first second ∨ first = second ∨ Less second first := by
  by_cases equal : first = second
  · exact .inr (.inl equal)
  · have differ : ¬(first.year = second.year ∧ first.month = second.month ∧
        first.day = second.day ∧ first.hour = second.hour ∧ first.minute = second.minute ∧
        first.second = second.second ∧ first.microsecond = second.microsecond) := by
      rintro ⟨years, months, days, hours, minutes, seconds, microseconds⟩
      apply equal
      cases first
      cases second
      simp only at years months days hours minutes seconds microseconds
      subst years months days hours minutes seconds microseconds
      rfl
    unfold Less
    omega

/-- Different datetimes have different texts. -/
theorem isoformat_injective {first second : Datetime}
    (same : first.isoformat = second.isoformat) : first = second := by
  have never {first second : Datetime} (same : first.isoformat = second.isoformat) :
      ¬Less first second := by
    rw [← isoformat_before_iff first second [], same]
    exact not_before_self _
  obtain less | equal | greater := less_or_eq first second
  · exact absurd less (never same)
  · exact equal
  · exact absurd greater (never same.symm)

/-! ## Counting -/

def daysBeforeYear (year : Nat) : Nat :=
  (year - 1) * 365 + (year - 1) / 4 - (year - 1) / 100 + (year - 1) / 400

def daysBeforeMonth (year : Nat) : Nat → Nat
  | 0 => 0
  | 1 => 0
  | month + 2 => daysBeforeMonth year (month + 1) + daysInMonth year (month + 1)

/-- The days before the date, from the first date on. -/
def days (datetime : Datetime) : Nat :=
  daysBeforeYear datetime.year + daysBeforeMonth datetime.year datetime.month + datetime.day - 1

/-- The microseconds from the first datetime. -/
def microseconds (datetime : Datetime) : Nat :=
  ((datetime.days * 24 + datetime.hour) * 60 + datetime.minute) * 60000000 +
    datetime.second * 1000000 + datetime.microsecond

theorem daysBeforeMonth_succ (year : Nat) {month : Nat} (positive : 1 ≤ month) :
    daysBeforeMonth year (month + 1) = daysBeforeMonth year month + daysInMonth year month := by
  obtain ⟨earlier, rfl⟩ := Nat.exists_eq_add_of_le' positive
  rfl

theorem daysBeforeMonth_mono (year : Nat) {first second : Nat} (positive : 1 ≤ first)
    (ordered : first ≤ second) : daysBeforeMonth year first ≤ daysBeforeMonth year second := by
  induction second, ordered using Nat.le_induction with
  | base => exact Nat.le_refl _
  | succ month large ih =>
    rw [daysBeforeMonth_succ year (by omega)]
    omega

theorem daysBeforeMonth_thirteen (year : Nat) :
    daysBeforeMonth year 13 = if isLeap year then 366 else 365 := by
  cases leap : isLeap year <;> simp [daysBeforeMonth, daysInMonth, leap]

theorem isLeap_iff (year : Nat) :
    isLeap year = true ↔ 4 ∣ year ∧ (¬100 ∣ year ∨ 400 ∣ year) := by
  simp only [isLeap, Bool.and_eq_true, Bool.or_eq_true, beq_iff_eq, bne_iff_ne, ne_eq,
    Nat.dvd_iff_mod_eq_zero]

/-- A year has as many days as its months. -/
theorem daysBeforeYear_succ {year : Nat} (positive : 1 ≤ year) :
    daysBeforeYear (year + 1) = daysBeforeYear year + daysBeforeMonth year 13 := by
  obtain ⟨earlier, rfl⟩ := Nat.exists_eq_add_of_le' positive
  have centuries : earlier / 100 ≤ earlier / 4 := Nat.div_le_div_left (by decide) (by decide)
  have four : 400 ∣ earlier + 1 → 100 ∣ earlier + 1 := Nat.dvd_trans (by decide)
  have century : 100 ∣ earlier + 1 → 4 ∣ earlier + 1 := Nat.dvd_trans (by decide)
  simp only [daysBeforeMonth_thirteen, isLeap_iff, daysBeforeYear, Nat.add_sub_cancel,
    Nat.succ_div]
  by_cases fourth : 4 ∣ earlier + 1
  · by_cases hundredth : 100 ∣ earlier + 1
    · by_cases last : 400 ∣ earlier + 1
      · simp only [fourth, hundredth, last, if_true, not_true_eq_false, or_true, and_self]
        omega
      · simp only [fourth, hundredth, last, if_true, if_false, not_true_eq_false, or_self,
          and_false]
        omega
    · have last : ¬400 ∣ earlier + 1 := fun divides => hundredth (four divides)
      simp only [fourth, hundredth, last, if_true, if_false, not_false_eq_true, true_or, and_self]
      omega
  · have hundredth : ¬100 ∣ earlier + 1 := fun divides => fourth (century divides)
    have last : ¬400 ∣ earlier + 1 := fun divides => hundredth (four divides)
    simp only [fourth, hundredth, last, if_false, false_and]
    omega

theorem daysBeforeYear_mono {first second : Nat} (positive : 1 ≤ first)
    (ordered : first ≤ second) : daysBeforeYear first ≤ daysBeforeYear second := by
  induction second, ordered using Nat.le_induction with
  | base => exact Nat.le_refl _
  | succ year large ih =>
    rw [daysBeforeYear_succ (by omega)]
    omega

/-- The date lies in its month, and the month in its year. -/
theorem days_bounds (datetime : Datetime) :
    daysBeforeYear datetime.year + daysBeforeMonth datetime.year datetime.month ≤ datetime.days ∧
      datetime.days < daysBeforeYear datetime.year +
        daysBeforeMonth datetime.year (datetime.month + 1) ∧
      datetime.days < daysBeforeYear (datetime.year + 1) := by
  have day := datetime.day_valid
  have month := daysBeforeMonth_succ datetime.year datetime.month_valid.1
  have year := daysBeforeYear_succ datetime.year_valid.1
  have last : datetime.month + 1 ≤ 13 := by
    have valid := datetime.month_valid
    omega
  have inside := daysBeforeMonth_mono datetime.year (Nat.le_add_left 1 datetime.month) last
  unfold days
  omega

/-- Counting keeps the order. -/
theorem microseconds_lt_of_less {first second : Datetime} (less : Less first second) :
    first.microseconds < second.microseconds := by
  obtain ⟨low, high, last⟩ := days_bounds first
  obtain ⟨otherLow, otherHigh, otherLast⟩ := days_bounds second
  have hours := first.hour_valid
  have otherHours := second.hour_valid
  have minutes := first.minute_valid
  have otherMinutes := second.minute_valid
  have seconds := first.second_valid
  have otherSeconds := second.second_valid
  have micros := first.microsecond_valid
  have otherMicros := second.microsecond_valid
  have earlier (dates : first.days < second.days) : first.microseconds < second.microseconds := by
    unfold microseconds
    omega
  obtain years | ⟨years, less⟩ := less
  · refine earlier ?_
    have between := daysBeforeYear_mono (Nat.le_add_left 1 first.year) years
    omega
  obtain months | ⟨months, less⟩ := less
  · refine earlier ?_
    have between := daysBeforeMonth_mono first.year (Nat.le_add_left 1 first.month) months
    rw [← years] at otherLow
    omega
  have same : first.days + second.day = second.days + first.day := by
    have day := first.day_valid.1
    have otherDay := second.day_valid.1
    unfold days
    rw [years, months]
    omega
  unfold microseconds
  omega

theorem microseconds_injective {first second : Datetime}
    (same : first.microseconds = second.microseconds) : first = second := by
  obtain less | equal | greater := less_or_eq first second
  · exact absurd same (Nat.ne_of_lt (microseconds_lt_of_less less))
  · exact equal
  · exact absurd same.symm (Nat.ne_of_lt (microseconds_lt_of_less greater))

/-- The number of days in the calendar. -/
def dayLimit : Nat := daysBeforeYear 10000

/-- The year of a day. -/
def yearOfDay (day : Nat) : Nat := Nat.findGreatest (fun year => daysBeforeYear year ≤ day) 9999

/-- The month of a day of a year. -/
def monthOfDay (year day : Nat) : Nat :=
  Nat.findGreatest (fun month => daysBeforeMonth year month ≤ day) 12

/-- The last start that is not later than the target. -/
theorem findGreatest_start {start : Nat → Nat} {limit target : Nat} (positive : 1 ≤ limit)
    (first : start 1 ≤ target) (inside : target < start (limit + 1)) {found : Nat}
    (search : Nat.findGreatest (fun index => start index ≤ target) limit = found) :
    1 ≤ found ∧ found ≤ limit ∧ start found ≤ target ∧ target < start (found + 1) := by
  have bound : found ≤ limit := search ▸ Nat.findGreatest_le limit
  have reached : 1 ≤ found := by
    rw [← search]
    exact Nat.le_findGreatest positive first
  have starts : start found ≤ target := by
    rw [← search]
    exact Nat.findGreatest_spec (P := fun index => start index ≤ target) positive first
  refine ⟨reached, bound, starts, ?_⟩
  by_contra later
  by_cases last : found = limit
  · rw [last] at later
    exact later inside
  · have further : found + 1 ≤ Nat.findGreatest (fun index => start index ≤ target) limit :=
      Nat.le_findGreatest (by omega) (Nat.le_of_not_lt later)
    omega

theorem yearOfDay_spec {day : Nat} (inside : day < dayLimit) :
    1 ≤ yearOfDay day ∧ yearOfDay day ≤ 9999 ∧ daysBeforeYear (yearOfDay day) ≤ day ∧
      day < daysBeforeYear (yearOfDay day + 1) :=
  findGreatest_start (by decide) (Nat.zero_le _) inside rfl

theorem monthOfDay_spec {year day : Nat} (inside : day < daysBeforeMonth year 13) :
    1 ≤ monthOfDay year day ∧ monthOfDay year day ≤ 12 ∧
      daysBeforeMonth year (monthOfDay year day) ≤ day ∧
      day < daysBeforeMonth year (monthOfDay year day + 1) :=
  findGreatest_start (by decide) (Nat.zero_le _) inside rfl

/-- The day of the month of a day. -/
def dayOfDay (count : Nat) : Nat :=
  count - daysBeforeYear (yearOfDay count) - daysBeforeMonth (yearOfDay count)
    (monthOfDay (yearOfDay count) (count - daysBeforeYear (yearOfDay count))) + 1

/-- Every day has a date. -/
theorem dateOfDay_spec {count year month : Nat} (inside : count < dayLimit)
    (isYear : yearOfDay count = year)
    (isMonth : monthOfDay year (count - daysBeforeYear year) = month) :
    (1 ≤ year ∧ year ≤ 9999) ∧ (1 ≤ month ∧ month ≤ 12) ∧
      (1 ≤ dayOfDay count ∧ dayOfDay count ≤ daysInMonth year month) ∧
      daysBeforeYear year + daysBeforeMonth year month + dayOfDay count - 1 = count := by
  obtain ⟨yearLow, yearHigh, yearStart, yearEnd⟩ := yearOfDay_spec inside
  rw [isYear] at yearLow yearHigh yearStart yearEnd
  have inYear : count - daysBeforeYear year < daysBeforeMonth year 13 := by
    rw [daysBeforeYear_succ yearLow] at yearEnd
    omega
  obtain ⟨monthLow, monthHigh, monthStart, monthEnd⟩ := monthOfDay_spec inYear
  rw [isMonth] at monthLow monthHigh monthStart monthEnd
  rw [daysBeforeMonth_succ _ monthLow] at monthEnd
  rw [dayOfDay, isYear, isMonth]
  refine ⟨⟨yearLow, yearHigh⟩, ⟨monthLow, monthHigh⟩, ?_, ?_⟩ <;> omega

/-- The number of microseconds in the calendar. -/
def limit : Nat := dayLimit * 86400000000

theorem microseconds_lt (datetime : Datetime) : datetime.microseconds < limit := by
  have year := datetime.year_valid.2
  have days : datetime.days < dayLimit :=
    Nat.lt_of_lt_of_le (days_bounds datetime).2.2
      (daysBeforeYear_mono (Nat.le_add_left 1 _) (Nat.succ_le_succ year))
  have hours := datetime.hour_valid
  have minutes := datetime.minute_valid
  have seconds := datetime.second_valid
  have micros := datetime.microsecond_valid
  unfold limit microseconds
  generalize dayLimit = limit at *
  omega

theorem day_lt_dayLimit {count : Nat} (inside : count < limit) :
    count / 86400000000 < dayLimit := (Nat.div_lt_iff_lt_mul (by decide)).mpr inside

/-- The datetime with a count. -/
def ofMicroseconds (count : Nat) (inside : count < limit) : Datetime where
  year := yearOfDay (count / 86400000000)
  month := monthOfDay (yearOfDay (count / 86400000000))
    (count / 86400000000 - daysBeforeYear (yearOfDay (count / 86400000000)))
  day := dayOfDay (count / 86400000000)
  hour := count / 3600000000 % 24
  minute := count / 60000000 % 60
  second := count / 1000000 % 60
  microsecond := count % 1000000
  year_valid := (dateOfDay_spec (day_lt_dayLimit inside) rfl rfl).1
  month_valid := (dateOfDay_spec (day_lt_dayLimit inside) rfl rfl).2.1
  day_valid := (dateOfDay_spec (day_lt_dayLimit inside) rfl rfl).2.2.1
  hour_valid := Nat.mod_lt _ (by decide)
  minute_valid := Nat.mod_lt _ (by decide)
  second_valid := Nat.mod_lt _ (by decide)
  microsecond_valid := Nat.mod_lt _ (by decide)

/-- The datetimes are counted without a gap. -/
theorem microseconds_ofMicroseconds {count : Nat} (inside : count < limit) :
    (ofMicroseconds count inside).microseconds = count := by
  have counted := (dateOfDay_spec (day_lt_dayLimit inside) rfl rfl).2.2.2
  have days : (ofMicroseconds count inside).days = count / 86400000000 := counted
  rw [microseconds, days, ofMicroseconds]
  simp only
  omega

/-- `datetime + timedelta`; nothing if the range is left. -/
def shift (datetime : Datetime) (duration : Int) : Option Datetime :=
  if inside : 0 ≤ datetime.microseconds + duration ∧
      (datetime.microseconds + duration).toNat < limit then
    some (ofMicroseconds (datetime.microseconds + duration).toNat inside.2)
  else none

theorem shift_eq_some_iff {datetime moved : Datetime} {duration : Int} :
    datetime.shift duration = some moved ↔
      (moved.microseconds : Int) = datetime.microseconds + duration := by
  unfold shift
  constructor
  · intro shifted
    split at shifted
    · rename_i inside
      cases shifted
      rw [microseconds_ofMicroseconds]
      omega
    · cases shifted
  · intro counted
    have bound := microseconds_lt moved
    have inside : 0 ≤ (datetime.microseconds : Int) + duration ∧
        ((datetime.microseconds : Int) + duration).toNat < limit := by
      rw [← counted]
      exact ⟨Int.natCast_nonneg _, by rw [Int.toNat_natCast]; exact bound⟩
    rw [dif_pos inside]
    refine congrArg some (microseconds_injective ?_)
    rw [microseconds_ofMicroseconds, ← counted, Int.toNat_natCast]

theorem shift_zero (datetime : Datetime) : datetime.shift 0 = some datetime :=
  shift_eq_some_iff.mpr (Int.add_zero _).symm

/-- What was moved can be moved back. -/
theorem shift_back {datetime moved : Datetime} {duration : Int}
    (shifted : datetime.shift duration = some moved) : moved.shift (-duration) = some datetime := by
  rw [shift_eq_some_iff] at shifted ⊢
  omega

end Datetime

end Snekql.Temporal
