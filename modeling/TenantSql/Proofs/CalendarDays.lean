import TenantSql.Proofs.CalendarOrder

/-! Days that follow one another. Whatever the number, the date found for it has this
number: the years before it, the months before it in its year and the days before it in
its month add up to it. The day after a date is told by the calendar alone, at the end of
a month by the length of the month and at the end of a year by the next year, and it has
the next number. So the numbers of two dates differ by the days one has to go on from the
first to come to the second. -/
namespace TenantSql.CalendarDays
open Date CalendarOrder

variable {leap : Bool} {one other : Date} {after days count : Nat}

/-- The second date is the day after the first. -/
inductive Morrow (one other : Date) : Prop where
  | day (year : other.year = one.year) (month : other.month = one.month) (day : other.day = one.day + 1)
  | month (last : one.day = daysInMonth (isLeapYear one.year) one.month) (year : other.year = one.year)
      (month : other.month = one.month + 1) (first : other.day = 1)
  | year (last : one.month = 12 ∧ one.day = 31) (year : other.year = one.year + 1)
      (first : other.month = 1 ∧ other.day = 1)

/-- The second date is reached from the first by going on so many days. -/
inductive DaysOn : Nat → Date → Date → Prop where
  | none (date : Date) : DaysOn 0 date date
  | more {count : Nat} {one between other : Date} (morrow : Morrow one between)
      (later : DaysOn count between other) : DaysOn (count + 1) one other

/-! ### The date of a number -/

theorem daysBeforeMonth_thirteen (leap : Bool) : daysBeforeMonth leap 13 = daysInYear leap := by
  cases leap <;> rfl

/-- The days before a year, by its place in four hundred years, a century and four years. -/
theorem daysBeforeYear_parts (cycle : Int) {century quad single : Nat} (centuries : century ≤ 3) (quads : quad ≤ 24)
    (singles : single ≤ 3) :
    daysBeforeYear (400 * cycle + 100 * century + 4 * quad + single + 1) =
      146097 * cycle + 36524 * century + 1461 * quad + 365 * single := by
  unfold daysBeforeYear
  omega

/-- The last of four years is the long one, but not at the end of a century unless that
is the fourth. -/
theorem daysInYear_parts (cycle : Int) {century quad single : Nat} (centuries : century ≤ 3) (quads : quad ≤ 24)
    (singles : single ≤ 3) :
    daysInYear (isLeapYear (400 * cycle + 100 * century + 4 * quad + single + 1)) =
      if single = 3 ∧ (quad < 24 ∨ century = 3) then 366 else 365 := by
  have long : isLeapYear (400 * cycle + 100 * century + 4 * quad + single + 1) = true ↔
      single = 3 ∧ (quad < 24 ∨ century = 3) := by
    simp only [isLeapYear, Bool.and_eq_true, Bool.or_eq_true, beq_iff_eq, bne_iff_ne]
    omega
  simp only [daysInYear, long]

theorem yearAndDays_add (number : Int) :
    daysBeforeYear (yearAndDays number).1 + (yearAndDays number).2 = number ∧
      (yearAndDays number).2 < daysInYear (isLeapYear (yearAndDays number).1) := by
  unfold yearAndDays
  dsimp only
  rw [daysBeforeYear_parts _ (by omega) (by omega) (by omega), daysInYear_parts _ (by omega) (by omega) (by omega)]
  constructor
  · omega
  · split <;> omega

/-- The walk ends so many days after the start of the month in which it began. -/
theorem walkMonths_add (few : after ≤ 11) (within : daysBeforeMonth leap (12 - after) + days < daysInYear leap) :
    daysBeforeMonth leap (walkMonths leap after days).1 + (walkMonths leap after days).2 =
      daysBeforeMonth leap (12 - after) + days + 1 := by
  induction after generalizing days with
  | zero =>
    have december : daysBeforeMonth leap 13 = daysBeforeMonth leap 12 + 31 := rfl
    rw [← daysBeforeMonth_thirteen, december] at within
    simp only [walkMonths, Nat.sub_zero] at within ⊢
    omega
  | succ after ih =>
    have here : 11 - after = 12 - (after + 1) := by omega
    have next : daysBeforeMonth leap (12 - after) =
        daysBeforeMonth leap (12 - (after + 1)) + daysInMonth leap (12 - (after + 1)) := by
      rw [← daysBeforeMonth_succ (by omega)]
      congr 1
      omega
    rw [walkMonths, here]
    split
    · rfl
    · rw [ih (by omega) (by omega)]
      omega

/-- The date found for a number has this number. -/
theorem dayNumber_ofDayNumber (number : Int) : (ofDayNumber number).dayNumber = number := by
  obtain ⟨sum, within⟩ := yearAndDays_add number
  have january : daysBeforeMonth (isLeapYear (yearAndDays number).1) (12 - 11) = 0 := rfl
  have walked := @walkMonths_add (isLeapYear (yearAndDays number).1) 11 (yearAndDays number).2 (Nat.le_refl 11)
    (by omega)
  have ordinal : (ofDayNumber number).ordinal = (yearAndDays number).2 + 1 := by
    rw [january, Nat.zero_add] at walked
    exact walked
  have year : (ofDayNumber number).year = (yearAndDays number).1 := rfl
  rw [dayNumber, ordinal, year]
  omega

/-! ### Going on by days -/

theorem dayNumber_inj : one.dayNumber = other.dayNumber ↔ one = other := by
  refine ⟨fun same => ?_, fun same => by rw [same]⟩
  obtain earlier | equal | later := earlier_or_same one other
  · have less := dayNumber_lt_of_earlier earlier
    omega
  · exact equal
  · have less := dayNumber_lt_of_earlier later
    omega

/-- The day after a date has the next number. -/
theorem Morrow.dayNumber (morrow : Morrow one other) : other.dayNumber = one.dayNumber + 1 := by
  unfold Date.dayNumber Date.ordinal
  cases morrow with
  | day year month day =>
    rw [year, month, day]
    omega
  | month last year month first =>
    rw [year, month, first, last, daysBeforeMonth_succ one.exists_day.1]
    omega
  | year last year first =>
    have january : ∀ leap, daysBeforeMonth leap 1 = 0 := fun _ => rfl
    have december : ∀ leap, daysBeforeMonth leap 12 + 31 = daysInYear leap := by decide
    have whole := december (isLeapYear one.year)
    rw [year, first.1, first.2, last.1, last.2, january, daysBeforeYear_succ]
    omega

theorem daysInMonth_pos (leap : Bool) (month : Nat) : 1 ≤ daysInMonth leap month := by
  unfold daysInMonth
  cases leap <;> split <;> decide

theorem exists_morrow (date : Date) : ∃ next, Morrow date next := by
  obtain ⟨some, twelve, first, fits⟩ := date.exists_day
  by_cases inside : date.day < daysInMonth (isLeapYear date.year) date.month
  · exact ⟨⟨date.year, date.month, date.day + 1, some, twelve, by omega, inside⟩, .day rfl rfl rfl⟩
  · have last : date.day = daysInMonth (isLeapYear date.year) date.month := by omega
    by_cases december : date.month = 12
    · have thirtyFirst : date.day = 31 := by rw [last, december]; rfl
      exact ⟨⟨date.year + 1, 1, 1, by decide, by decide, by decide, daysInMonth_pos _ _⟩,
        .year ⟨december, thirtyFirst⟩ rfl ⟨rfl, rfl⟩⟩
    · exact ⟨⟨date.year, date.month + 1, 1, by omega, by omega, by decide, daysInMonth_pos _ _⟩,
        .month last rfl rfl rfl⟩

/-- One date is so many days on from another exactly if its number is so much greater. -/
theorem daysOn_iff : DaysOn count one other ↔ other.dayNumber = one.dayNumber + count := by
  induction count generalizing one with
  | zero =>
    rw [Int.natCast_zero, Int.add_zero, dayNumber_inj]
    constructor
    · rintro ⟨⟩
      rfl
    · rintro rfl
      exact .none other
  | succ count ih =>
    constructor
    · rintro (_ | ⟨morrow, later⟩)
      have next := morrow.dayNumber
      have rest := ih.mp later
      omega
    · intro number
      obtain ⟨between, morrow⟩ := exists_morrow one
      have next := morrow.dayNumber
      exact .more morrow (ih.mpr (by omega))

end TenantSql.CalendarDays
