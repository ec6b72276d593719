/-!
Days of the Gregorian calendar, carried on before its introduction and past any year. A `Date` is a
year, a month and a day that exist together. `dayNumber` counts days from the first of January of year
one, and `ofDayNumber` finds the date again; weekdays and weeks are read off the number.
-/

namespace TenantSql

/-- Every fourth year is a leap year, except the centuries that four hundred does not divide. -/
def isLeapYear (year : Int) : Bool :=
  year % 4 == 0 && (year % 100 != 0 || year % 400 == 0)

/-- The number of days of a month. -/
def daysInMonth (leap : Bool) (month : Nat) : Nat :=
  match month with
  | 2 => if leap then 29 else 28
  | 4 | 6 | 9 | 11 => 30
  | _ => 31

/-- A year, a month and a day name a date. -/
def IsDate (year : Int) (month day : Nat) : Prop :=
  1 ≤ month ∧ month ≤ 12 ∧ 1 ≤ day ∧ day ≤ daysInMonth (isLeapYear year) month

instance (year : Int) (month day : Nat) : Decidable (IsDate year month day) :=
  inferInstanceAs (Decidable (_ ∧ _))

/-- A day of the calendar. -/
structure Date where
  year : Int
  month : Nat
  day : Nat
  exists_day : IsDate year month day
  deriving Repr, DecidableEq

namespace Date

/-- The date with these parts, if there is one. -/
def ofParts? (year : Int) (month day : Nat) : Option Date :=
  if h : IsDate year month day then some ⟨year, month, day, h⟩ else none

/-- The number of days of the months before this one. -/
def daysBeforeMonth (leap : Bool) : Nat → Nat
  | 0 => 0
  | 1 => 0
  | month + 1 => daysBeforeMonth leap month + daysInMonth leap month

/-- The number of days from the start of year one to the start of this year. -/
def daysBeforeYear (year : Int) : Int :=
  365 * (year - 1) + (year - 1) / 4 - (year - 1) / 100 + (year - 1) / 400

/-- The day of the year, counted from one. -/
def ordinal (date : Date) : Nat := daysBeforeMonth (isLeapYear date.year) date.month + date.day

/-- The number of days since the first of January of year one. -/
def dayNumber (date : Date) : Int := daysBeforeYear date.year + date.ordinal - 1

/-- The month and day reached after walking `days` days from the start of the month that has `after`
more months behind it in its year. -/
def walkMonths (leap : Bool) : (after : Nat) → (days : Nat) → Nat × Nat
  | 0, days => (12, min days 30 + 1)
  | after + 1, days =>
    if days < daysInMonth leap (11 - after) then (11 - after, days + 1)
    else walkMonths leap after (days - daysInMonth leap (11 - after))

theorem walkMonths_isDate (year : Int) (after days : Nat) (few : after ≤ 11) :
    IsDate year (walkMonths (isLeapYear year) after days).1
      (walkMonths (isLeapYear year) after days).2 := by
  induction after generalizing days with
  | zero =>
    simp only [walkMonths, IsDate, daysInMonth]
    omega
  | succ after ih =>
    unfold walkMonths
    split
    · simp only [IsDate]
      omega
    · exact ih _ (by omega)

/-- The year a day number falls into, and the number of days before it in that year. Four hundred years
have 146097 days; within them a century has 36524, four years have 1461 and a year has 365, and what is
left over belongs to the last of them. -/
def yearAndDays (number : Int) : Int × Nat :=
  let cycle := number / 146097
  let inCycle := (number % 146097).toNat
  let century := min (inCycle / 36524) 3
  let inCentury := inCycle - century * 36524
  let quad := inCentury / 1461
  let inQuad := inCentury - quad * 1461
  let single := min (inQuad / 365) 3
  (400 * cycle + 100 * century + 4 * quad + single + 1, inQuad - single * 365)

/-- The date that many days after the first of January of year one. -/
def ofDayNumber (number : Int) : Date :=
  let year := (yearAndDays number).1
  let walked := walkMonths (isLeapYear year) 11 (yearAndDays number).2
  ⟨year, walked.1, walked.2, walkMonths_isDate year 11 _ (Nat.le_refl 11)⟩

/-- Days since the last Monday, this day included. -/
def daysFromMonday (date : Date) : Nat := (date.dayNumber % 7).toNat

/-- Days since the last Sunday, this day included. -/
def daysFromSunday (date : Date) : Nat := (date.daysFromMonday + 1) % 7

/-- The week of the year when weeks start on Sundays; days before the first Sunday are in week zero. -/
def weekFromSunday (date : Date) : Nat := (date.ordinal + 6 - date.daysFromSunday) / 7

/-- The week of the year when weeks start on Mondays; days before the first Monday are in week zero. -/
def weekFromMonday (date : Date) : Nat := (date.ordinal + 6 - date.daysFromMonday) / 7

/-- The number of the Thursday in the week, from Monday to Sunday, that holds the day. -/
def thursday (date : Date) : Int := date.dayNumber - date.daysFromMonday + 3

/-- The year to which the week of the day is counted: the one that holds its Thursday. -/
def weekYear (date : Date) : Int := (yearAndDays date.thursday).1

/-- The week of the week year: its first week holds its first Thursday. -/
def week (date : Date) : Nat := (yearAndDays date.thursday).2 / 7 + 1

/-- The quarter of the year. -/
def quarter (date : Date) : Nat := (date.month - 1) / 3 + 1

end Date
end TenantSql
