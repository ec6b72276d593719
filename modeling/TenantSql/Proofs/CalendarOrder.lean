import Mathlib.Data.Nat.Init
import TenantSql.Calendar.Date

/-! The order of dates. Day numbers grow from day to day within a month, over the months
of a year and over the years, so they tell of two dates which is the earlier one by the
year, then by the month, then by the day. -/
namespace TenantSql.CalendarOrder
open Date

variable {leap : Bool} {month later : Nat} {year next : Int} {one other : Date}

/-- The first date comes before the second: by its year, or in the same year by its
month, or in the same month by its day. -/
def Earlier (one other : Date) : Prop :=
  one.year < other.year ∨ one.year = other.year ∧
    (one.month < other.month ∨ one.month = other.month ∧ one.day < other.day)

/-- The number of days of a year. -/
def daysInYear (leap : Bool) : Nat := if leap then 366 else 365

/-! ### Years and months -/

theorem daysBeforeYear_succ (year : Int) :
    daysBeforeYear (year + 1) = daysBeforeYear year + daysInYear (isLeapYear year) := by
  have leap : isLeapYear year = true ↔ year % 4 = 0 ∧ (year % 100 ≠ 0 ∨ year % 400 = 0) := by
    simp [isLeapYear]
  unfold daysBeforeYear daysInYear
  by_cases long : isLeapYear year = true
  · have rule := leap.mp long
    rw [if_pos long]
    omega
  · have rule := mt leap.mpr long
    rw [if_neg long]
    omega

theorem daysBeforeYear_mono (order : year ≤ next) : daysBeforeYear year ≤ daysBeforeYear next := by
  unfold daysBeforeYear
  omega

theorem daysInMonth_le (leap : Bool) (month : Nat) : daysInMonth leap month ≤ 31 := by
  unfold daysInMonth
  cases leap <;> split <;> decide

theorem daysBeforeMonth_succ (some : 1 ≤ month) :
    daysBeforeMonth leap (month + 1) = daysBeforeMonth leap month + daysInMonth leap month := by
  cases month with
  | zero => omega
  | succ month => rfl

theorem daysBeforeMonth_mono (some : 1 ≤ month) (order : month ≤ later) :
    daysBeforeMonth leap month ≤ daysBeforeMonth leap later := by
  induction later, order using Nat.le_induction with
  | base => exact Nat.le_refl _
  | succ later order ih =>
    rw [daysBeforeMonth_succ (Nat.le_trans some order)]
    exact Nat.le_add_right_of_le ih

/-- A date lies before the start of the next month. -/
theorem ordinal_le (date : Date) : date.ordinal ≤ daysBeforeMonth (isLeapYear date.year) (date.month + 1) := by
  obtain ⟨year, month, day, some, -, -, fits⟩ := date
  rw [daysBeforeMonth_succ some]
  exact Nat.add_le_add_left fits _

/-- The days of a year are counted from one to its length. -/
theorem ordinal_range (date : Date) :
    1 ≤ date.ordinal ∧ date.ordinal ≤ daysInYear (isLeapYear date.year) := by
  obtain ⟨-, twelve, first, -⟩ := date.exists_day
  have whole : daysBeforeMonth (isLeapYear date.year) 13 = daysInYear (isLeapYear date.year) := by
    cases isLeapYear date.year <;> rfl
  have started := ordinal_le date
  have ended := @daysBeforeMonth_mono (isLeapYear date.year) (date.month + 1) 13 (by omega) (by omega)
  refine ⟨?_, by omega⟩
  unfold ordinal
  omega

/-! ### Dates -/

theorem dayNumber_lt_of_year (order : one.year < other.year) : one.dayNumber < other.dayNumber := by
  have before := (ordinal_range one).2
  have behind := (ordinal_range other).1
  have added := daysBeforeYear_succ one.year
  have grown := @daysBeforeYear_mono (one.year + 1) other.year order
  unfold dayNumber
  omega

theorem dayNumber_lt_of_earlier (earlier : Earlier one other) : one.dayNumber < other.dayNumber := by
  obtain order | ⟨year, order | ⟨month, order⟩⟩ := earlier
  · exact dayNumber_lt_of_year order
  · have before := ordinal_le one
    have grown := @daysBeforeMonth_mono (isLeapYear one.year) (one.month + 1) other.month (by omega) order
    have first := other.exists_day.2.2.1
    unfold dayNumber
    unfold ordinal at before ⊢
    rw [year] at *
    omega
  · unfold dayNumber ordinal
    rw [year, month]
    omega

theorem earlier_or_same (one other : Date) : Earlier one other ∨ one = other ∨ Earlier other one := by
  obtain ⟨year, month, day, _⟩ := one
  obtain ⟨year', month', day', _⟩ := other
  simp only [Earlier, Date.mk.injEq]
  omega

/-- The earlier of two dates is the one with the lesser day number. -/
theorem dayNumber_lt_iff : one.dayNumber < other.dayNumber ↔ Earlier one other := by
  refine ⟨fun less => ?_, dayNumber_lt_of_earlier⟩
  obtain earlier | rfl | behind := earlier_or_same one other
  · exact earlier
  · omega
  · have more := dayNumber_lt_of_earlier behind
    omega

end TenantSql.CalendarOrder
