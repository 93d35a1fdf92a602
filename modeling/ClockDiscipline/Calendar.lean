/-!
The Gregorian calendar: which dates exist and how many days and seconds separate an
instant of UTC from the start of 1970. Leap seconds are not counted.
-/

namespace ClockDiscipline

/-! ## Dates -/

structure Date where
  year : Nat
  month : Nat
  day : Nat
  deriving DecidableEq, Repr

namespace Date

def isLeapYear (year : Nat) : Bool :=
  year % 4 == 0 && (year % 100 != 0 || year % 400 == 0)

def daysInMonth (year month : Nat) : Nat :=
  match month with
  | 2 => if isLeapYear year then 29 else 28
  | 4 | 6 | 9 | 11 => 30
  | _ => 31

def Exists (date : Date) : Prop :=
  1 ≤ date.month ∧ date.month ≤ 12 ∧ 1 ≤ date.day ∧
    date.day ≤ daysInMonth date.year date.month

instance (date : Date) : Decidable date.Exists :=
  inferInstanceAs (Decidable (_ ∧ _ ∧ _ ∧ _))

def daysBeforeYear (year : Nat) : Nat :=
  (year - 1) * 365 + (year - 1) / 4 - (year - 1) / 100 + (year - 1) / 400

def daysBeforeMonth (year : Nat) : (month : Nat) → Nat
  | 0 | 1 => 0
  | month + 1 => daysBeforeMonth year month + daysInMonth year month

/-- Days from the first day of 1970 to the date. -/
def dayNumber (date : Date) : Int :=
  (daysBeforeYear date.year + daysBeforeMonth date.year date.month + date.day : Nat) -
    719163

example : dayNumber ⟨1970, 1, 1⟩ = 0 ∧ dayNumber ⟨2000, 3, 1⟩ = 11017 := by decide

end Date

/-! ## Times of day -/

structure TimeOfDay where
  hour : Nat
  minute : Nat
  second : Nat
  deriving DecidableEq, Repr

namespace TimeOfDay

def Exists (time : TimeOfDay) : Prop :=
  time.hour < 24 ∧ time.minute < 60 ∧ time.second < 60

instance (time : TimeOfDay) : Decidable time.Exists :=
  inferInstanceAs (Decidable (_ ∧ _ ∧ _))

def seconds (time : TimeOfDay) : Nat :=
  time.hour * 3600 + time.minute * 60 + time.second

end TimeOfDay

/-- Seconds from the start of 1970 to a time of a day, if both exist. -/
def instantOf (date : Date) (time : TimeOfDay) : Option Int :=
  if date.Exists ∧ time.Exists then some (date.dayNumber * 86400 + time.seconds) else none

example : instantOf ⟨2010, 5, 18⟩ ⟨13, 47, 24⟩ = some 1274190444 := by decide
example : instantOf ⟨2100, 2, 29⟩ ⟨0, 0, 0⟩ = none := by decide

end ClockDiscipline
