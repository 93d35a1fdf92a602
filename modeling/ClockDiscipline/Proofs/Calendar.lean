import ClockDiscipline.Calendar
import Mathlib.Order.Monotone.Basic

/-!
The calendar, counted day by day from the start of 1970. The number of a date is the
number of days that were counted up to it, and later dates have larger numbers, so
counting meets every date once.
-/

namespace ClockDiscipline

namespace Date

/-! ## The day after -/

def next (date : Date) : Date :=
  if date.day < daysInMonth date.year date.month then
    ⟨date.year, date.month, date.day + 1⟩
  else if date.month < 12 then ⟨date.year, date.month + 1, 1⟩
  else ⟨date.year + 1, 1, 1⟩

/-- The date so many days after the first day of 1970. -/
def after : (days : Nat) → Date
  | 0 => ⟨1970, 1, 1⟩
  | days + 1 => (after days).next

private theorem daysInMonth_pos (year month : Nat) : 1 ≤ daysInMonth year month := by
  unfold daysInMonth
  split
  · split <;> decide
  all_goals decide

private theorem exists_next {date : Date} (valid : date.Exists) : date.next.Exists := by
  rcases valid with ⟨first, last, one, day⟩
  unfold next
  split
  case isTrue goesOn => exact ⟨first, last, Nat.le_add_left 1 _, goesOn⟩
  case isFalse =>
    split
    case isTrue goesOn =>
      exact ⟨Nat.le_add_left 1 _, goesOn, Nat.le_refl 1, daysInMonth_pos _ _⟩
    case isFalse =>
      exact ⟨Nat.le_refl 1, Nat.le_add_left 1 11, Nat.le_refl 1, daysInMonth_pos _ _⟩

private theorem year_le_next (date : Date) : date.year ≤ date.next.year := by
  unfold next
  split
  · exact Nat.le_refl _
  · split
    · exact Nat.le_refl _
    · exact Nat.le_succ _

theorem exists_after (days : Nat) : (after days).Exists ∧ 1970 ≤ (after days).year := by
  induction days with
  | zero => decide
  | succ days induction =>
      exact ⟨exists_next induction.1, Nat.le_trans induction.2 (year_le_next _)⟩

/-! ## Months and years -/

private theorem daysBeforeMonth_succ (year : Nat) {month : Nat} (positive : 1 ≤ month) :
    daysBeforeMonth year (month + 1) =
      daysBeforeMonth year month + daysInMonth year month := by
  cases month with
  | zero => contradiction
  | succ month => rfl

private theorem monotone_daysBeforeMonth (year : Nat) :
    Monotone (daysBeforeMonth year) := by
  apply monotone_nat_of_le_succ
  intro month
  cases month with
  | zero => exact Nat.le_refl 0
  | succ month => exact Nat.le_add_right _ _

private theorem daysBeforeMonth_end (year : Nat) :
    daysBeforeMonth year 13 = if isLeapYear year then 366 else 365 := by
  simp only [daysBeforeMonth, daysInMonth]
  split <;> rfl

/-- The months of a year together are the year. -/
private theorem daysBeforeYear_succ {year : Nat} (positive : 1 ≤ year) :
    daysBeforeYear (year + 1) = daysBeforeYear year + daysBeforeMonth year 13 := by
  rw [daysBeforeMonth_end, daysBeforeYear, daysBeforeYear, isLeapYear, Nat.add_sub_cancel]
  -- Every fourth year is a leap year, but of the years that end a century only every
  -- fourth one.
  by_cases byFour : year % 4 = 0
  · by_cases byHundred : year % 100 = 0
    · by_cases byCycle : year % 400 = 0
      · simp [byFour, byHundred, byCycle]
        omega
      · simp [byFour, byHundred, byCycle]
        omega
    · have noCycle : year % 400 ≠ 0 := by omega
      simp [byFour, byHundred]
      omega
  · have four : year / 4 = (year - 1) / 4 := by omega
    have hundred : year / 100 = (year - 1) / 100 := by omega
    have cycle : year / 400 = (year - 1) / 400 := by omega
    simp [byFour, four, hundred, cycle]
    omega

private theorem daysBeforeYear_le {early late : Nat} (order : early ≤ late) :
    daysBeforeYear early ≤ daysBeforeYear late := by
  have monotone : Monotone daysBeforeYear := by
    apply monotone_nat_of_le_succ
    intro year
    cases year with
    | zero => decide
    | succ year =>
        rw [daysBeforeYear_succ (Nat.le_add_left 1 year)]
        exact Nat.le_add_right _ _
  exact monotone order

/-! ## The number of a date -/

private theorem dayNumber_next {date : Date} (valid : date.Exists)
    (positive : 1 ≤ date.year) : date.next.dayNumber = date.dayNumber + 1 := by
  rcases valid with ⟨first, last, one, day⟩
  unfold next
  split
  case isTrue =>
    simp only [dayNumber]
    omega
  case isFalse ends =>
    split
    case isTrue =>
      have month := daysBeforeMonth_succ date.year first
      simp only [dayNumber]
      omega
    case isFalse =>
      have december : date.month = 12 := by omega
      have year := daysBeforeYear_succ positive
      have month : daysBeforeMonth date.year 13 =
          daysBeforeMonth date.year 12 + daysInMonth date.year 12 := rfl
      have none : daysBeforeMonth (date.year + 1) 1 = 0 := rfl
      rw [december] at ends day
      simp only [dayNumber, december]
      omega

theorem dayNumber_after (days : Nat) : (after days).dayNumber = days := by
  induction days with
  | zero => decide
  | succ days induction =>
      have ⟨valid, late⟩ := exists_after days
      have next := dayNumber_next valid (Nat.le_trans (by decide) late)
      rw [after, next, induction]
      rfl

def Before (early late : Date) : Prop :=
  early.year < late.year ∨ early.year = late.year ∧
    (early.month < late.month ∨ early.month = late.month ∧ early.day < late.day)

theorem dayNumber_lt_of_before {early late : Date} (earlyExists : early.Exists)
    (lateExists : late.Exists) (positive : 1 ≤ early.year) (before : early.Before late) :
    early.dayNumber < late.dayNumber := by
  rcases earlyExists with ⟨first, last, one, day⟩
  rcases lateExists with ⟨-, -, some, -⟩
  have month := daysBeforeMonth_succ early.year first
  rcases before with years | ⟨sameYear, months | ⟨sameMonth, days⟩⟩
  · have year := daysBeforeYear_succ positive
    have whole := monotone_daysBeforeMonth early.year (show early.month + 1 ≤ 13 by omega)
    have between := daysBeforeYear_le (show early.year + 1 ≤ late.year by omega)
    simp only [dayNumber]
    omega
  · have between :=
      monotone_daysBeforeMonth early.year (show early.month + 1 ≤ late.month by omega)
    simp only [dayNumber, ← sameYear]
    omega
  · simp only [dayNumber, ← sameYear, ← sameMonth]
    omega

private theorem eq_or_before (left right : Date) :
    left = right ∨ left.Before right ∨ right.Before left := by
  rcases left with ⟨year, month, day⟩
  rcases right with ⟨otherYear, otherMonth, otherDay⟩
  simp only [Date.mk.injEq, Before]
  omega

private theorem dayNumber_inj {left right : Date} (leftExists : left.Exists)
    (rightExists : right.Exists)
    (leftPositive : 1 ≤ left.year) (rightPositive : 1 ≤ right.year)
    (same : left.dayNumber = right.dayNumber) : left = right := by
  rcases eq_or_before left right with equal | before | before
  · exact equal
  · have less := dayNumber_lt_of_before leftExists rightExists leftPositive before
    omega
  · have less := dayNumber_lt_of_before rightExists leftExists rightPositive before
    omega

private theorem dayNumber_nonneg {date : Date} (valid : date.Exists)
    (late : 1970 ≤ date.year) : 0 ≤ date.dayNumber := by
  have between := daysBeforeYear_le late
  have start : daysBeforeYear 1970 = 719162 := by decide
  rcases valid with ⟨-, -, one, -⟩
  simp only [dayNumber]
  omega

/-- Counting days meets each date from 1970 on, when as many days have passed as its
number says. -/
theorem after_eq_iff {date : Date} (late : 1970 ≤ date.year) (days : Nat) :
    after days = date ↔ date.Exists ∧ date.dayNumber = days := by
  constructor
  · rintro rfl
    exact ⟨(exists_after days).1, dayNumber_after days⟩
  · rintro ⟨valid, number⟩
    have ⟨counted, since⟩ := exists_after days
    refine dayNumber_inj counted valid (by omega) (by omega) ?_
    rw [dayNumber_after, number]

end Date

/-! ## Seconds -/

private theorem TimeOfDay.seconds_lt {time : TimeOfDay} (valid : time.Exists) :
    time.seconds < 86400 := by
  simp only [TimeOfDay.Exists, TimeOfDay.seconds] at valid ⊢
  omega

def TimeOfDay.after (seconds : Nat) : TimeOfDay :=
  ⟨seconds / 3600, seconds / 60 % 60, seconds % 60⟩

private theorem TimeOfDay.after_eq_iff (time : TimeOfDay) {seconds : Nat}
    (within : seconds < 86400) :
    after seconds = time ↔ time.Exists ∧ time.seconds = seconds := by
  rcases time with ⟨hour, minute, second⟩
  simp only [after, TimeOfDay.mk.injEq, Exists, TimeOfDay.seconds]
  omega

/-- What a calendar and a clock of UTC show so many seconds after the start of 1970. -/
def shownAt (seconds : Nat) : Date × TimeOfDay :=
  (Date.after (seconds / 86400), TimeOfDay.after (seconds % 86400))

theorem instantOf_eq_some_iff {date : Date} {time : TimeOfDay} {utc : Int} :
    instantOf date time = some utc ↔
      date.Exists ∧ time.Exists ∧ utc = date.dayNumber * 86400 + time.seconds := by
  by_cases valid : date.Exists ∧ time.Exists
  · simp [instantOf, valid, eq_comm]
  · simp only [instantOf, valid, if_false, ← and_assoc, false_and, reduceCtorEq]

/-- The instant of a date and a time is the one at which calendar and clock show them. -/
theorem instantOf_iff_shownAt {date : Date} {time : TimeOfDay} (late : 1970 ≤ date.year)
    (utc : Int) : instantOf date time = some utc ↔
      ∃ seconds : Nat, utc = seconds ∧ shownAt seconds = (date, time) := by
  have shown (seconds : Nat) : shownAt seconds = (date, time) ↔
      (date.Exists ∧ date.dayNumber = (seconds / 86400 : Nat)) ∧
        time.Exists ∧ time.seconds = seconds % 86400 := by
    rw [shownAt, Prod.mk.injEq, Date.after_eq_iff late,
      TimeOfDay.after_eq_iff time (Nat.mod_lt _ (by decide))]
  rw [instantOf_eq_some_iff]
  constructor
  · rintro ⟨dateExists, timeExists, told⟩
    have day := Date.dayNumber_nonneg dateExists late
    have within := TimeOfDay.seconds_lt timeExists
    have seconds : utc = utc.toNat := by omega
    refine ⟨utc.toNat, seconds, (shown _).mpr ⟨⟨dateExists, ?_⟩, timeExists, ?_⟩⟩
    · omega
    · omega
  · rintro ⟨seconds, rfl, shows⟩
    rcases (shown seconds).mp shows with ⟨⟨dateExists, day⟩, timeExists, second⟩
    refine ⟨dateExists, timeExists, ?_⟩
    omega

/-- Instants are in the order of dates, and on one date in the order of times. -/
theorem instantOf_lt_iff {early late : Date} {time lateTime : TimeOfDay}
    {utc lateUtc : Int} (positive : 1 ≤ early.year) (latePositive : 1 ≤ late.year)
    (known : instantOf early time = some utc)
    (lateKnown : instantOf late lateTime = some lateUtc) :
    utc < lateUtc ↔
      early.Before late ∨ early = late ∧ time.seconds < lateTime.seconds := by
  rcases instantOf_eq_some_iff.mp known with ⟨dateExists, timeExists, told⟩
  rcases instantOf_eq_some_iff.mp lateKnown with
    ⟨lateDateExists, lateTimeExists, lateTold⟩
  have within := TimeOfDay.seconds_lt timeExists
  have lateWithin := TimeOfDay.seconds_lt lateTimeExists
  rcases Date.eq_or_before early late with rfl | before | after
  · simp only [Date.Before, lt_self_iff_false, and_false, or_self, false_or, true_and]
    omega
  · have number := Date.dayNumber_lt_of_before dateExists lateDateExists positive before
    simp only [before, true_or, iff_true]
    omega
  · have number :=
      Date.dayNumber_lt_of_before lateDateExists dateExists latePositive after
    have never : ¬early.Before late := by
      simp only [Date.Before] at after ⊢
      omega
    have different : early ≠ late := by
      rintro rfl
      exact never after
    simp only [never, different, false_and, or_self, iff_false]
    omega

end ClockDiscipline
