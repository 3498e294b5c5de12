import Mathlib.Algebra.Group.Nat.Defs
import SstpServer.Calendar.Gregorian

/-!
# The date of a response

The answer to a request carries the time at which it is sent, as a text with the day of the week,
the date and the time of day.  `format_imf_fixdate` computes them in closed form from the seconds
since the start of 1970, by years that begin in March in periods of four hundred.

The arithmetic is that of 64 bits.  A result that its type does not hold is a fault, as it is in a
build with overflow checks, and so is an index outside a table of names.
-/

namespace SstpServer.Sstp

open SstpServer.Calendar

/-! ## Numbers of 64 bits -/

def u64 (value : Int) : Option Int :=
  if 0 ≤ value ∧ value < 2 ^ 64 then some value else none

def i64 (value : Int) : Option Int :=
  if -2 ^ 63 ≤ value ∧ value < 2 ^ 63 then some value else none

theorem u64_of_lt {value : Int} (nonneg : 0 ≤ value) (bound : value < 2 ^ 64) :
    u64 value = some value :=
  if_pos ⟨nonneg, bound⟩

theorem i64_of_lt {value : Int} (nonneg : 0 ≤ value) (bound : value < 2 ^ 63) :
    i64 value = some value :=
  if_pos ⟨by omega, bound⟩

/-! ## The date of a day -/

structure Civil where
  y : Int
  m : Int
  d : Int
  deriving DecidableEq, Repr

/-- The period of four hundred years that a day is in, counted from the first of March of the year
zero. -/
def eraOfDay (z : Int) : Option Int := do
  let numerator ← if 0 ≤ z then some z else i64 (z - 146096)
  some (numerator.tdiv 146097)

def dayOfEra (z era : Int) : Option Int := do
  let start ← i64 (era * 146097)
  let doe ← i64 (z - start)
  some ((u64 doe).getD 0)

def yearOfEra (doe : Int) : Option Int := do
  let days ← u64 (doe - doe / 1460)
  let days ← u64 (days + doe / 36524)
  let days ← u64 (days - doe / 146096)
  some (days / 365)

def civilYear (era yoe : Int) : Option Int := do
  let start ← i64 (era * 400)
  i64 ((i64 yoe).getD 0 + start)

def dayOfYear (doe yoe : Int) : Option Int := do
  let days ← u64 (365 * yoe)
  let days ← u64 (days + yoe / 4)
  let days ← u64 (days - yoe / 100)
  u64 (doe - days)

def monthOfYear (doy : Int) : Option Int := do
  let days ← u64 (5 * doy)
  let days ← u64 (days + 2)
  some (days / 153)

def dayOfMonth (doy mp : Int) : Option Int := do
  let days ← u64 (153 * mp)
  let days ← u64 (days + 2)
  let days ← u64 (doy - days / 5)
  u64 (days + 1)

def civilMonth (mp : Int) : Option Int :=
  if mp < 10 then u64 (mp + 3) else u64 (mp - 9)

/-- January and February are the last months of a year that begins in March. -/
def yearOfMonth (yCivil m : Int) : Option Int :=
  if m ≤ 2 then i64 (yCivil + 1) else some yCivil

/-- The date of a day, counted from the start of 1970. -/
def civilFromDays (days : Int) : Option Civil := do
  let z ← i64 (days + 719468)
  let era ← eraOfDay z
  let doe ← dayOfEra z era
  let yoe ← yearOfEra doe
  let yCivil ← civilYear era yoe
  let doy ← dayOfYear doe yoe
  let mp ← monthOfYear doy
  let d ← dayOfMonth doy mp
  let m ← civilMonth mp
  let y ← yearOfMonth yCivil m
  some ⟨y, m, d⟩

/-! ## The text -/

def dayNames : List String :=
  ["Sun", "Mon", "Tue", "Wed", "Thu", "Fri", "Sat"]

def monthNames : List String :=
  ["Jan", "Feb", "Mar", "Apr", "May", "Jun", "Jul", "Aug", "Sep", "Oct", "Nov", "Dec"]

/-- The decimal digits of a number, filled up with zeros to a width. -/
def zeroPadded (width value : Nat) : String :=
  "".pushn '0' (width - (toString value).length) ++ toString value

/-- A sign counts for the width. -/
def zeroPaddedInt (width : Nat) (value : Int) : String :=
  if value < 0 then "-" ++ zeroPadded (width - 1) value.natAbs else zeroPadded width value.natAbs

def fixdate (dayName : String) (d : Nat) (monName : String) (y : Int) (hh mm ss : Nat) : String :=
  dayName ++ ", " ++ zeroPadded 2 d ++ " " ++ monName ++ " " ++ zeroPaddedInt 4 y ++ " " ++
    zeroPadded 2 hh ++ ":" ++ zeroPadded 2 mm ++ ":" ++ zeroPadded 2 ss ++ " GMT"

def dayName (days : Int) : Option String := do
  let dow ← i64 (days % 7 + 4)
  dayNames[((u64 (dow.tmod 7)).getD 0).toNat]?

def monName (m : Int) : Option String := do
  let index ← u64 (m - 1)
  monthNames[index.toNat]?

def formatImfFixdate (unixSecs : UInt64) : Option String := do
  let days := (i64 (unixSecs.toNat / 86400 : Nat)).getD 0
  let secsOfDay := unixSecs.toNat % 86400
  let civil ← civilFromDays days
  let day ← dayName days
  let mon ← monName civil.m
  some (fixdate day civil.d.toNat mon civil.y (secsOfDay / 3600) (secsOfDay / 60 % 60)
    (secsOfDay % 60))

/-! ## What the text says -/

def weekdayName : Weekday → String
  | .sunday => "Sun"
  | .monday => "Mon"
  | .tuesday => "Tue"
  | .wednesday => "Wed"
  | .thursday => "Thu"
  | .friday => "Fri"
  | .saturday => "Sat"

def monthName : Month → String
  | .january => "Jan"
  | .february => "Feb"
  | .march => "Mar"
  | .april => "Apr"
  | .may => "May"
  | .june => "Jun"
  | .july => "Jul"
  | .august => "Aug"
  | .september => "Sep"
  | .october => "Oct"
  | .november => "Nov"
  | .december => "Dec"

/-- The text of a time of a day of the calendar. -/
def imfFixdate (day : Day) (time : TimeOfDay) : String :=
  fixdate (weekdayName day.weekday) day.date.day (monthName day.date.month) day.date.year
    time.hour time.minute time.second

theorem dayNames_index (weekday : Weekday) :
    dayNames[weekday.index]? = some (weekdayName weekday) := by
  cases weekday <;> rfl

/-! ## The closed form -/

section Era

variable {year day : Int} (nonneg : 0 ≤ year) (bound : year < 400) (first : 0 ≤ day)
  (last : day < if IsLeap (year + 1) then 366 else 365)

include nonneg bound first last

/-- The days of an era that are left without leap days fall into years of 365. -/
theorem yearOfEra_formula (doe : Int) (isDay : doe = yearStart year + day) :
    (doe - doe / 1460 + doe / 36524 - doe / 146096) / 365 = year := by
  rcases yearStart_of_lt nonneg bound with
    ⟨century, cycle, single, centuries, cycles, singles, parts, starts, leap⟩
  have leapDay : day < 365 ∨ day = 365 ∧ single = 3 ∧ (cycle < 24 ∨ century = 3) := by
    split_ifs at last with isLeap
    · have parts := leap isLeap
      omega
    · exact .inl last
  rw [starts] at isDay
  clear leap last
  by_cases final : doe = 146096
  · -- Only the last day of an era is the first of a fifth century.
    have isLast : year = 399 := by omega
    rw [final, isLast]
    rfl
  · have noEra : doe / 146096 = 0 := by omega
    have centuryOf : doe / 36524 = century := by omega
    have cyclesOf : doe / 1460 =
        25 * century + cycle + (24 * century + cycle + 365 * single + day) / 1460 := by
      omega
    rw [noEra, centuryOf, cyclesOf]
    omega

theorem yearOfEra_eq : yearOfEra (yearStart year + day) = some year := by
  have formula := yearOfEra_formula nonneg bound first last _ rfl
  have start := yearStart_nonneg nonneg
  have small := yearStart_add_lt nonneg bound last
  have nonnegDay : 0 ≤ yearStart year + day := by omega
  generalize yearStart year + day = doe at formula small nonnegDay
  simp (disch := omega) only [yearOfEra, u64_of_lt, Option.bind_eq_bind, Option.bind_some]
  rw [formula]

omit last in
theorem dayOfYear_eq (small : day < 366) :
    dayOfYear (yearStart year + day) year = some day := by
  have start : yearStart year = 365 * year + year / 4 - year / 100 := by
    unfold yearStart
    omega
  have rest : yearStart year + day - (365 * year + year / 4 - year / 100) = day := by omega
  simp (disch := omega) only [dayOfYear, u64_of_lt, Option.bind_eq_bind, Option.bind_some]
  rw [rest]

end Era

theorem marchDay_lt (date : Date) : date.marchDay < 366 := by
  have last := date.marchDay_bounds.2
  split_ifs at last <;> omega

theorem monthOfYear_eq (date : Date) : monthOfYear date.marchDay = some date.month.fromMarch := by
  have first := date.marchDay_bounds.1
  have last := marchDay_lt date
  have formula : (5 * date.marchDay + 2) / 153 = date.month.fromMarch := by
    have span := date.month.days_le_span date.year
    have one_le := date.one_le
    have le_days := date.le_days
    unfold Date.marchDay
    unfold Month.start at span ⊢
    omega
  simp (disch := omega) only [monthOfYear, u64_of_lt, Option.bind_eq_bind, Option.bind_some]
  rw [formula]

theorem dayOfMonth_eq (date : Date) :
    dayOfMonth date.marchDay date.month.fromMarch = some (date.day : Int) := by
  have first := date.one_le
  have last := marchDay_lt date
  have month := date.month.fromMarch_bounds
  have isDay : date.marchDay = (153 * date.month.fromMarch + 2) / 5 + date.day - 1 := rfl
  have rest : date.marchDay - (153 * date.month.fromMarch + 2) / 5 + 1 = date.day := by omega
  simp (disch := omega) only [dayOfMonth, u64_of_lt, Option.bind_eq_bind, Option.bind_some]
  rw [rest]

theorem civilMonth_eq (month : Month) : civilMonth month.fromMarch = some month.number := by
  cases month <;> rfl

theorem eraOfDay_eq {date : Date} (nonneg : 0 ≤ date.number) :
    eraOfDay date.number = some (date.marchYear / 400) := by
  rcases date.number_period with ⟨yoe, -, -, -, -, isEra, -⟩
  rw [eraOfDay, if_pos nonneg, Option.bind_eq_bind, Option.bind_some]
  dsimp only
  rw [Int.tdiv_eq_ediv_of_nonneg nonneg, isEra]

theorem yearOfMonth_eq {date : Date} (nonneg : 0 ≤ date.marchYear)
    (bound : date.marchYear < 2 ^ 48) :
    yearOfMonth date.marchYear date.month.number = some date.year := by
  have month := date.month.fromMarch_bounds
  by_cases early : date.month.fromMarch < 10
  · have number : date.month.number = date.month.fromMarch + 3 := if_pos early
    have year : date.marchYear = date.year := if_pos early
    rw [yearOfMonth, if_neg (by omega), year]
  · have number : date.month.number = date.month.fromMarch - 9 := if_neg early
    have year : date.marchYear = date.year - 1 := if_neg early
    rw [yearOfMonth, if_pos (by omega), i64_of_lt (by omega) (by omega), year, sub_add_cancel]

/-- The closed form recovers a date from its number. -/
theorem civilFromDays_number (date : Date) (nonneg : 0 ≤ date.number)
    (bound : date.number < 2 ^ 48) :
    civilFromDays (date.number - 719468) = some ⟨date.year, date.month.number, date.day⟩ := by
  rcases date.number_period with ⟨yoe, yoeNonneg, yoeBound, isYear, last, isEra, isDoe⟩
  have first := date.marchDay_bounds.1
  have doeNonneg : 0 ≤ yearStart yoe + date.marchDay := by
    have start := yearStart_nonneg yoeNonneg
    omega
  have doeBound := yearStart_add_lt yoeNonneg yoeBound last
  have doe : dayOfEra date.number (date.marchYear / 400) =
      some (yearStart yoe + date.marchDay) := by
    rw [isEra] at isDoe
    rw [dayOfEra, i64_of_lt (by omega) (by omega), Option.bind_eq_bind, Option.bind_some, isDoe,
      i64_of_lt doeNonneg (by omega), Option.bind_some, u64_of_lt doeNonneg (by omega),
      Option.getD_some]
  have year : civilYear (date.marchYear / 400) yoe = some date.marchYear := by
    rw [civilYear, i64_of_lt (by omega) (by omega), Option.bind_eq_bind, Option.bind_some,
      i64_of_lt yoeNonneg (by omega), Option.getD_some, Int.add_comm yoe, ← isYear,
      i64_of_lt (by omega) (by omega)]
  rw [civilFromDays, sub_add_cancel, i64_of_lt nonneg (by omega), Option.bind_eq_bind,
    Option.bind_some, eraOfDay_eq nonneg, Option.bind_some, doe, Option.bind_some,
    yearOfEra_eq yoeNonneg yoeBound first last, Option.bind_some, year, Option.bind_some,
    dayOfYear_eq yoeNonneg yoeBound first (marchDay_lt date), Option.bind_some, monthOfYear_eq,
    Option.bind_some, dayOfMonth_eq, Option.bind_some, civilMonth_eq, Option.bind_some,
    yearOfMonth_eq (by omega) (by omega), Option.bind_some]

theorem number_unixEpoch : unixEpoch.date.number = 719468 := by
  rfl

theorem civilFromDays_after {days : Nat} (bound : days < 2 ^ 48 - 719468) :
    civilFromDays days =
      some ⟨(unixEpoch.after days).date.year, (unixEpoch.after days).date.month.number,
        (unixEpoch.after days).date.day⟩ := by
  have number := Day.number_after days unixEpoch
  rw [number_unixEpoch] at number
  have recovered := civilFromDays_number (unixEpoch.after days).date (by omega) (by omega)
  rwa [number, add_sub_cancel_left] at recovered

theorem dayName_after (days : Nat) :
    dayName days = some (weekdayName (unixEpoch.after days).weekday) := by
  have epoch : unixEpoch.weekday.index = 4 := rfl
  have index : ((days : Int) % 7 + 4).tmod 7 = (unixEpoch.after days).weekday.index := by
    rw [Day.index_after, epoch, Int.tmod_eq_emod_of_nonneg (by omega)]
    omega
  have inWeek := Day.index_after days unixEpoch
  rw [dayName, i64_of_lt (by omega) (by omega), Option.bind_eq_bind, Option.bind_some, index,
    u64_of_lt (by omega) (by omega), Option.getD_some, Int.toNat_natCast, dayNames_index]

theorem monName_number (month : Month) : monName month.number = some (monthName month) := by
  cases month <;> rfl

/-- For every number of seconds, the text is that of the day of the calendar that is reached from
the start of 1970 and of the time of that day, and nothing overflows. -/
theorem formatImfFixdate_eq (unixSecs : UInt64) :
    ∃ time : TimeOfDay, time.seconds = unixSecs.toNat % 86400 ∧
      formatImfFixdate unixSecs =
        some (imfFixdate (unixEpoch.after (unixSecs.toNat / 86400)) time) := by
  have size : unixSecs.toNat < 2 ^ 64 := unixSecs.toNat_lt
  have secs : unixSecs.toNat % 86400 < 86400 := Nat.mod_lt _ (by decide)
  rw [formatImfFixdate]
  generalize unixSecs.toNat % 86400 = secsOfDay at secs ⊢
  generalize isDays : unixSecs.toNat / 86400 = days
  have bound : days < 2 ^ 48 - 719468 := by omega
  refine ⟨⟨secsOfDay / 3600, secsOfDay / 60 % 60, secsOfDay % 60, by omega, by omega, by omega⟩,
    ?_, ?_⟩
  · dsimp only [TimeOfDay.seconds]
    omega
  · rw [i64_of_lt (by omega) (by omega), Option.getD_some, civilFromDays_after bound,
      Option.bind_eq_bind, Option.bind_some, dayName_after, Option.bind_eq_bind, Option.bind_some,
      monName_number, Option.bind_some, Int.toNat_natCast, imfFixdate]

example : formatImfFixdate 1163033469 = some "Thu, 09 Nov 2006 00:51:09 GMT" := by
  decide

end SstpServer.Sstp
