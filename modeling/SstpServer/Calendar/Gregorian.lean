import Mathlib.Algebra.Ring.Int.Defs
import Mathlib.Logic.Function.Iterate
import Mathlib.Tactic.SplitIfs

/-!
# The proleptic Gregorian calendar

A date names a day of a month that has that many days.  The calendar is given by what day comes
after a date; a date at some distance from another is reached day by day.

Dates are numbered from the first of March of the year zero.  With years that begin in March, the
day that a leap year has more is the last of its year, and the months before it always start on
the same days.
-/

namespace SstpServer.Calendar

/-! ## Dates -/

inductive Weekday where
  | sunday | monday | tuesday | wednesday | thursday | friday | saturday
  deriving DecidableEq, Repr

def Weekday.next : Weekday → Weekday
  | .sunday => .monday
  | .monday => .tuesday
  | .tuesday => .wednesday
  | .wednesday => .thursday
  | .thursday => .friday
  | .friday => .saturday
  | .saturday => .sunday

inductive Month where
  | january | february | march | april | may | june
  | july | august | september | october | november | december
  deriving DecidableEq, Repr

def Month.next : Month → Month
  | .january => .february
  | .february => .march
  | .march => .april
  | .april => .may
  | .may => .june
  | .june => .july
  | .july => .august
  | .august => .september
  | .september => .october
  | .october => .november
  | .november => .december
  | .december => .january

/-- A year that four divides, unless it is a full century that 400 does not divide. -/
def IsLeap (year : Int) : Prop :=
  year % 4 = 0 ∧ (year % 100 ≠ 0 ∨ year % 400 = 0)

instance (year : Int) : Decidable (IsLeap year) :=
  inferInstanceAs (Decidable (_ ∧ _))

/-- The number of days of a month. -/
def Month.days (year : Int) : Month → Nat
  | .february => if IsLeap year then 29 else 28
  | .april | .june | .september | .november => 30
  | _ => 31

theorem Month.one_le_days (year : Int) (month : Month) : 1 ≤ month.days year := by
  cases month with
  | february =>
      rw [days]
      split_ifs <;> decide
  | _ => simp [days]

structure Date where
  year : Int
  month : Month
  day : Nat
  one_le : 1 ≤ day
  le_days : day ≤ month.days year
  deriving DecidableEq

namespace Date

/-- The first day of a month. -/
def first (year : Int) (month : Month) : Date :=
  ⟨year, month, 1, le_rfl, month.one_le_days year⟩

/-- The day after a date. -/
def next (date : Date) : Date :=
  if within : date.day < date.month.days date.year then
    ⟨date.year, date.month, date.day + 1, Nat.le_add_left 1 _, within⟩
  else if date.month = .december then first (date.year + 1) .january
  else first date.year date.month.next

end Date

/-- A day of the calendar, with its place in the week. -/
structure Day where
  weekday : Weekday
  date : Date
  deriving DecidableEq

def Day.next (day : Day) : Day :=
  ⟨day.weekday.next, day.date.next⟩

/-- The day that is `count` days after another. -/
def Day.after (count : Nat) (day : Day) : Day :=
  Day.next^[count] day

/-- Thursday, 1 January 1970. -/
def unixEpoch : Day :=
  ⟨.thursday, .first 1970 .january⟩

/-! ## Days of the week -/

/-- The days of the week counted from Sunday. -/
def Weekday.index : Weekday → Nat
  | .sunday => 0
  | .monday => 1
  | .tuesday => 2
  | .wednesday => 3
  | .thursday => 4
  | .friday => 5
  | .saturday => 6

theorem Weekday.index_next (weekday : Weekday) :
    weekday.next.index = (weekday.index + 1) % 7 := by
  cases weekday <;> rfl

theorem Day.index_after (count : Nat) (day : Day) :
    (day.after count).weekday.index = (day.weekday.index + count) % 7 := by
  induction count with
  | zero => cases day with | mk weekday date => cases weekday <;> rfl
  | succ count ih =>
      rw [after, Function.iterate_succ_apply']
      change (day.after count).weekday.next.index = _
      rw [Weekday.index_next, ih]
      omega

/-! ## The number of a date -/

/-- The months counted from March. -/
def Month.fromMarch : Month → Int
  | .march => 0
  | .april => 1
  | .may => 2
  | .june => 3
  | .july => 4
  | .august => 5
  | .september => 6
  | .october => 7
  | .november => 8
  | .december => 9
  | .january => 10
  | .february => 11

theorem Month.fromMarch_bounds (month : Month) : 0 ≤ month.fromMarch ∧ month.fromMarch < 12 := by
  cases month <;> decide

/-- The months counted from January, which is the first. -/
def Month.number (month : Month) : Int :=
  if month.fromMarch < 10 then month.fromMarch + 3 else month.fromMarch - 9

/-- The days from the first of March to the start of a month. -/
def Month.start (month : Month) : Int :=
  (153 * month.fromMarch + 2) / 5

/-- The days from the first of March of the year zero to that of a year. -/
def yearStart (year : Int) : Int :=
  365 * year + year / 4 - year / 100 + year / 400

/-- The year of a date, if years begin in March. -/
def Date.marchYear (date : Date) : Int :=
  if date.month.fromMarch < 10 then date.year else date.year - 1

/-- The day of a year that begins in March, from zero. -/
def Date.marchDay (date : Date) : Int :=
  date.month.start + date.day - 1

/-- The days from the first of March of the year zero. -/
def Date.number (date : Date) : Int :=
  yearStart date.marchYear + date.marchDay

theorem yearStart_succ (year : Int) :
    yearStart (year + 1) = yearStart year + if IsLeap (year + 1) then 366 else 365 := by
  unfold yearStart IsLeap
  split_ifs with leap <;> omega

/-- A month other than February has the days up to the start of the next. -/
theorem Month.start_next {month : Month} (other : month ≠ .february) (year : Int) :
    month.next.start = month.start + month.days year := by
  cases month <;> first | rfl | exact absurd rfl other

/-- The days of a month end before the place where the next starts or would start. -/
theorem Month.days_le_span (year : Int) (month : Month) :
    month.start + month.days year ≤ (153 * (month.fromMarch + 1) + 2) / 5 := by
  cases month with
  | february =>
      rw [days]
      split_ifs <;> decide
  | _ => simp [days, start, fromMarch]

/-- Years that begin in March change with February only. -/
theorem Date.marchYear_first_next (date : Date) (other : date.month ≠ .february)
    (last : date.month ≠ .december) :
    (first date.year date.month.next).marchYear = date.marchYear := by
  rcases date with ⟨year, month, day, one_le, le_days⟩
  cases month <;> first | rfl | exact absurd rfl other | exact absurd rfl last

/-- The day after a date has the next number. -/
theorem Date.number_next (date : Date) : date.next.number = date.number + 1 := by
  rcases date with ⟨year, month, day, one_le, le_days⟩
  unfold next
  split_ifs with within december
  · dsimp only [number, marchYear, marchDay]
    omega
  · -- The year changes, but not the year that begins in March.
    dsimp only at within december
    subst december
    have last : day = 31 := by
      dsimp only [Month.days] at within le_days
      omega
    subst last
    change yearStart (year + 1 - 1) + 306 = yearStart year + 305 + 1
    rw [add_sub_cancel_right]
    omega
  · dsimp only at within december ⊢
    have last : day = month.days year := by omega
    by_cases february : month = .february
    · -- The leap day ends a year that begins in March.
      subst february
      have starts := yearStart_succ (year - 1)
      rw [sub_add_cancel] at starts
      change yearStart year + 0 = yearStart (year - 1) + (337 + day - 1) + 1
      rw [starts, last, Month.days]
      split_ifs <;> omega
    · have same := marchYear_first_next ⟨year, month, day, one_le, le_days⟩ february december
      have starts := Month.start_next february year
      dsimp only at same
      rw [number, number, same, marchDay, marchDay]
      dsimp only [first]
      omega

theorem Day.number_after (count : Nat) (day : Day) :
    (day.after count).date.number = day.date.number + count := by
  induction count with
  | zero => exact (add_zero _).symm
  | succ count ih =>
      rw [after, Function.iterate_succ_apply']
      change (day.after count).date.next.number = _
      rw [Date.number_next, ih]
      omega

theorem Date.marchDay_bounds (date : Date) :
    0 ≤ date.marchDay ∧ date.marchDay < if IsLeap (date.marchYear + 1) then 366 else 365 := by
  rcases date with ⟨year, month, day, one_le, le_days⟩
  cases month with
  | february =>
      change 0 ≤ 337 + (day : Int) - 1 ∧
        337 + (day : Int) - 1 < if IsLeap (year - 1 + 1) then 366 else 365
      rw [Month.days] at le_days
      rw [sub_add_cancel]
      split_ifs at le_days ⊢ with leap
      · omega
      · omega
  | _ =>
      simp only [marchDay, Month.start, Month.fromMarch, Month.days] at le_days ⊢
      split_ifs <;> omega

/-! ## Periods of four hundred years -/

theorem isLeap_mod (year : Int) : IsLeap (year % 400 + 1) ↔ IsLeap (year + 1) := by
  unfold IsLeap
  omega

/-- The calendar repeats after 146097 days. -/
theorem yearStart_period (year : Int) :
    yearStart year = year / 400 * 146097 + yearStart (year % 400) := by
  unfold yearStart
  omega

/-- The years of a period in centuries, leap cycles and single years. -/
theorem yearStart_of_lt {year : Int} (nonneg : 0 ≤ year) (bound : year < 400) :
    ∃ century cycle single : Int, (0 ≤ century ∧ century < 4) ∧ (0 ≤ cycle ∧ cycle < 25) ∧
      (0 ≤ single ∧ single < 4) ∧ year = 100 * century + 4 * cycle + single ∧
        yearStart year = 36524 * century + 1461 * cycle + 365 * single ∧
          (IsLeap (year + 1) → single = 3 ∧ (cycle < 24 ∨ century = 3)) := by
  refine ⟨year / 100, year % 100 / 4, year % 4, by omega, by omega, by omega, by omega, ?_, ?_⟩
  · unfold yearStart
    omega
  · rintro ⟨four, century⟩
    omega

theorem yearStart_add_lt {year day : Int} (nonneg : 0 ≤ year) (bound : year < 400)
    (within : day < if IsLeap (year + 1) then 366 else 365) : yearStart year + day < 146097 := by
  have next := yearStart_succ year
  have whole : yearStart (year + 1) ≤ 146097 := by
    unfold yearStart
    omega
  omega

theorem yearStart_nonneg {year : Int} (nonneg : 0 ≤ year) : 0 ≤ yearStart year := by
  unfold yearStart
  omega

/-- The period that a date is in, and its year and day there. -/
theorem Date.number_period (date : Date) :
    ∃ year, 0 ≤ year ∧ year < 400 ∧ date.marchYear = date.marchYear / 400 * 400 + year ∧
      date.marchDay < (if IsLeap (year + 1) then 366 else 365) ∧
        date.number / 146097 = date.marchYear / 400 ∧
          date.number - date.number / 146097 * 146097 = yearStart year + date.marchDay := by
  rcases date.marchDay_bounds with ⟨first, last⟩
  have period := yearStart_period date.marchYear
  have nonneg : 0 ≤ date.marchYear % 400 := by omega
  have bound : date.marchYear % 400 < 400 := by omega
  have within : date.marchDay < if IsLeap (date.marchYear % 400 + 1) then 366 else 365 := by
    simpa only [isLeap_mod] using last
  have small := yearStart_add_lt nonneg bound within
  have start := yearStart_nonneg nonneg
  refine ⟨date.marchYear % 400, nonneg, bound, by omega, within, ?_, ?_⟩
  · unfold number
    omega
  · unfold number
    omega

/-! ## The time of day -/

/-- A time of a day without leap seconds. -/
structure TimeOfDay where
  hour : Nat
  minute : Nat
  second : Nat
  hour_lt : hour < 24
  minute_lt : minute < 60
  second_lt : second < 60

/-- The seconds since midnight. -/
def TimeOfDay.seconds (time : TimeOfDay) : Nat :=
  3600 * time.hour + 60 * time.minute + time.second

end SstpServer.Calendar
