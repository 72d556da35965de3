/-! Dates of the Gregorian calendar, years 1 to 9999, and times of day.

A date is also a day number, counted from the first of January of year 1, which
is day zero.
-/

set_option autoImplicit false

namespace ClaimOperator.Time

def isLeapYear (year : Nat) : Bool := year % 4 = 0 && (year % 100 ≠ 0 || year % 400 = 0)

def daysInMonth (year month : Nat) : Nat :=
  match month with
  | 2 => if isLeapYear year then 29 else 28
  | 4 | 6 | 9 | 11 => 30
  | _ => 31

/-- Whether a year has the month and the month has the day; the year may be any. -/
def IsMonthDay (year month day : Nat) : Prop :=
  1 ≤ month ∧ month ≤ 12 ∧ 1 ≤ day ∧ day ≤ daysInMonth year month

instance (year month day : Nat) : Decidable (IsMonthDay year month day) :=
  inferInstanceAs (Decidable (_ ∧ _))

structure Date where
  year : Nat
  month : Nat
  day : Nat
  year_pos : 1 ≤ year := by decide
  year_le : year ≤ 9999 := by decide
  monthDay : IsMonthDay year month day := by decide
  deriving DecidableEq, Repr

def Date.of? (year month day : Nat) : Option Date :=
  if valid : 1 ≤ year ∧ year ≤ 9999 ∧ IsMonthDay year month day then
    some ⟨year, month, day, valid.1, valid.2.1, valid.2.2⟩
  else none

theorem Date.of?_self (date : Date) : Date.of? date.year date.month date.day = some date := by
  simp [of?, date.year_pos, date.year_le, date.monthDay]

def daysBeforeYear (year : Nat) : Nat :=
  let past := year - 1
  past * 365 + past / 4 - past / 100 + past / 400

def daysBeforeMonth (year : Nat) : Nat → Nat
  | 0 | 1 => 0
  | month + 1 => daysBeforeMonth year month + daysInMonth year month

def Date.dayNumber (date : Date) : Nat :=
  daysBeforeYear date.year + daysBeforeMonth date.year date.month + (date.day - 1)

def monthOfDay (year month day : Nat) : Nat → Nat × Nat
  | 0 => (month, day + 1)
  | later + 1 =>
    let length := daysInMonth year month
    if day < length then (month, day + 1) else monthOfDay year (month + 1) (day - length) later

/-- The year that holds a day number, and the day within it. A quadricentury has 146097 days, a
century 36524 and a quadrennium 1461; the last of each kind is one day longer. -/
def yearOfDayNumber (number : Nat) : Nat × Nat :=
  let inQuadricentury := number % 146097
  let century := min (inQuadricentury / 36524) 3
  let inCentury := inQuadricentury - century * 36524
  let inQuadrennium := inCentury % 1461
  let year := min (inQuadrennium / 365) 3
  (number / 146097 * 400 + century * 100 + inCentury / 1461 * 4 + year + 1, inQuadrennium - year * 365)

def Date.ofDayNumber? (number : Nat) : Option Date :=
  let (year, day) := yearOfDayNumber number
  let (month, day) := monthOfDay year 1 day 11
  Date.of? year month day

structure TimeOfDay where
  hour : Nat
  minute : Nat
  second : Nat
  micros : Nat
  hour_lt : hour < 24 := by decide
  minute_lt : minute < 60 := by decide
  second_lt : second < 60 := by decide
  micros_lt : micros < 1000000 := by decide
  deriving DecidableEq, Repr

def TimeOfDay.midnight : TimeOfDay := { hour := 0, minute := 0, second := 0, micros := 0 }

def TimeOfDay.of? (hour minute second micros : Nat) : Option TimeOfDay :=
  if valid : hour < 24 ∧ minute < 60 ∧ second < 60 ∧ micros < 1000000 then
    some ⟨hour, minute, second, micros, valid.1, valid.2.1, valid.2.2.1, valid.2.2.2⟩
  else none

theorem TimeOfDay.of?_self (time : TimeOfDay) :
    TimeOfDay.of? time.hour time.minute time.second time.micros = some time := by
  simp [of?, time.hour_lt, time.minute_lt, time.second_lt, time.micros_lt]

def TimeOfDay.microsOfDay (time : TimeOfDay) : Nat :=
  ((time.hour * 60 + time.minute) * 60 + time.second) * 1000000 + time.micros

def microsPerDay : Nat := 86400000000

def TimeOfDay.ofMicros (micros : Nat) : TimeOfDay where
  hour := micros / 3600000000 % 24
  minute := micros / 60000000 % 60
  second := micros / 1000000 % 60
  micros := micros % 1000000
  hour_lt := Nat.mod_lt _ (by decide)
  minute_lt := Nat.mod_lt _ (by decide)
  second_lt := Nat.mod_lt _ (by decide)
  micros_lt := Nat.mod_lt _ (by decide)

end ClaimOperator.Time
