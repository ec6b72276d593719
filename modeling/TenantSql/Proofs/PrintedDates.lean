import TenantSql.Formats
import TenantSql.Proofs.CalendarOrder
import TenantSql.Proofs.DecimalDigits
import TenantSql.Proofs.SpacedWords

/-! Dates and times as the patterns print them that are used by default. The numbers
stand between marks that are no digits, and a sign comes only before the whole, so that
each number is found again. While all years have four digits and no sign, every text has
ten characters, and a text is less than another exactly if its date is the earlier one. -/
namespace TenantSql.PrintedDates
open Pattern Decimal Text CalendarOrder

variable {mark : Char} {width value : Nat} {date one other : Date} {year : Int}

/-- What a clock shows: a date, and a time down to the second. -/
structure Shown where
  date : Date
  hour : Nat
  minute : Nat
  second : Nat
  deriving Repr, DecidableEq

/-- What is shown of a point in time. -/
def Shown.of (point : DateTime) : Shown :=
  ⟨point.date, point.time.hour, point.time.minute, point.time.shownSecond⟩

/-! ### Reading -/

/-- The number that a text of digits spells. -/
def number? (text : List Char) : Option Nat :=
  if text ≠ [] ∧ text.all Char.isDigit then some (Offset.ofDigits text) else none

/-- Three numbers with marks between them. -/
def three? (mark : Char) (text : List Char) : Option (Nat × Nat × Nat) :=
  match pieces (· == mark) text with
  | [first, second, third] => do return (← number? first, ← number? second, ← number? third)
  | _ => none

/-- A date that exists, written as a year, a month and a day, perhaps behind a sign. -/
def date? (text : List Char) : Option Date := do
  let (negative, rest) := splitSign text
  let (year, month, day) ← three? '-' rest
  Date.ofParts? (if negative then -(year : Int) else year) month day

/-- A date, and a time of day behind a blank. -/
def shown? (text : List Char) : Option Shown :=
  match pieces (· == ' ') text with
  | [day, clock] => do
    let date ← date? day
    let (hour, minute, second) ← three? ':' clock
    return ⟨date, hour, minute, second⟩
  | _ => none

/-! ### Texts -/

/-- Three numbers with marks between them, the last two in two digits. -/
def three (mark : Char) (width first second third : Nat) : List Char :=
  padded width first ++ mark :: (padded 2 second ++ mark :: padded 2 third)

/-- The sign before a year. The years from zero to 9999 have none. -/
def yearSign (year : Int) : List Char :=
  if year < 0 then ['-'] else if 9999 < year then ['+'] else []

/-- The text of a date. -/
def dateText (date : Date) : List Char :=
  yearSign date.year ++ three '-' 4 date.year.natAbs date.month date.day

/-- The text of a date and a time of day. -/
def Shown.text (shown : Shown) : List Char :=
  dateText shown.date ++ ' ' :: three ':' 2 shown.hour shown.minute shown.second

/-- A year that is written in four digits and without a sign. -/
def IsPlainYear (year : Int) : Prop := 0 ≤ year ∧ year ≤ 9999

/-! ### What is printed is read -/

theorem number_padded (width value : Nat) : number? (padded width value) = some value := by
  have digital : (padded width value).all Char.isDigit = true := List.all_eq_true.mpr (padded_digital width value)
  rw [number?, if_pos ⟨padded_ne_nil width value, digital⟩, ofDigits_padded]

theorem ne_mark_of_digit {c : Char} (other : mark.isDigit = false) (digit : c.isDigit = true) : c ≠ mark := by
  rintro rfl
  rw [digit] at other
  cases other

theorem pieces_of_ne {text : List Char} (whole : ∀ c ∈ text, c ≠ mark) : pieces (· == mark) text = [text] :=
  pieces_uncut fun c within => beq_eq_false_iff_ne.mpr (whole c within)

/-- A mark that is no digit does not cut a number. -/
theorem pieces_padded (other : mark.isDigit = false) (width value : Nat) :
    pieces (· == mark) (padded width value) = [padded width value] :=
  pieces_of_ne fun c within => ne_mark_of_digit other (padded_digital width value c within)

theorem three_read (other : mark.isDigit = false) (width first second third : Nat) :
    three? mark (three mark width first second third) = some (first, second, third) := by
  have cut := @pieces_append_cons (· == mark) mark (beq_self_eq_true mark)
  rw [three?, three, cut, cut]
  simp only [pieces_padded other, List.cons_append, List.nil_append, number_padded]
  rfl

theorem splitSign_year (year : Int) (width value : Nat) (rest : List Char) :
    splitSign (yearSign year ++ (padded width value ++ rest)) = (decide (year < 0), padded width value ++ rest) := by
  unfold yearSign
  by_cases negative : year < 0
  · rw [if_pos negative, decide_eq_true negative]
    rfl
  · rw [if_neg negative, decide_eq_false negative]
    split
    · rfl
    · exact splitSign_padded width value rest

theorem date_read (date : Date) : date? (dateText date) = some date := by
  have signed : (if decide (date.year < 0) = true then -(date.year.natAbs : Int) else date.year.natAbs) =
      date.year := by
    split
    next negative =>
      have negative := of_decide_eq_true negative
      omega
    next positive =>
      have positive := mt decide_eq_true positive
      omega
  have parted := splitSign_year date.year 4 date.year.natAbs ('-' :: (padded 2 date.month ++ '-' :: padded 2 date.day))
  have numbers := @three_read '-' rfl 4 date.year.natAbs date.month date.day
  rw [three] at numbers
  rw [date?, dateText, three, parted]
  simp only [numbers, Option.bind_eq_bind, Option.bind_some, signed]
  exact dif_pos date.exists_day

/-- Marks that are not blank leave three numbers without a blank. -/
theorem three_unblank (other : mark ≠ ' ') (width first second third : Nat) :
    ∀ c ∈ three mark width first second third, c ≠ ' ' := by
  have number : ∀ width value, ∀ c ∈ padded width value, c ≠ ' ' :=
    fun width value c within => ne_mark_of_digit rfl (padded_digital width value c within)
  refine List.forall_mem_append.mpr ⟨number _ _, List.forall_mem_cons.mpr ⟨other, ?_⟩⟩
  exact List.forall_mem_append.mpr ⟨number _ _, List.forall_mem_cons.mpr ⟨other, number _ _⟩⟩

theorem yearSign_unblank (year : Int) : ∀ c ∈ yearSign year, c ≠ ' ' := by
  unfold yearSign
  split
  · exact List.forall_mem_singleton.mpr (by decide)
  · split
    · exact List.forall_mem_singleton.mpr (by decide)
    · exact List.forall_mem_nil _

theorem dateText_unblank (date : Date) : ∀ c ∈ dateText date, c ≠ ' ' :=
  List.forall_mem_append.mpr ⟨yearSign_unblank _, three_unblank (by decide) _ _ _ _⟩

theorem shown_read (shown : Shown) : shown? shown.text = some shown := by
  have cut := @pieces_append_cons (· == ' ') ' ' rfl
  have clock := @three_unblank ':' (by decide) 2 shown.hour shown.minute shown.second
  have numbers := @three_read ':' rfl 2 shown.hour shown.minute shown.second
  rw [shown?, Shown.text, cut, pieces_of_ne (dateText_unblank shown.date), pieces_of_ne clock]
  simp only [List.cons_append, List.nil_append, date_read, numbers]
  rfl

theorem dateText_inj : dateText one = dateText other ↔ one = other := by
  refine ⟨fun same => ?_, fun same => by rw [same]⟩
  have read := date_read one
  rw [same, date_read] at read
  exact (Option.some.inj read).symm

theorem Shown.text_inj {one other : Shown} : one.text = other.text ↔ one = other := by
  refine ⟨fun same => ?_, fun same => by rw [same]⟩
  have read := shown_read one
  rw [same, shown_read] at read
  exact (Option.some.inj read).symm

/-! ### What is printed -/

theorem write_pair (small : value < 100) : (Figure.pair value).write .zero = padded 2 value := by
  have same : ∀ digit < 10, digitChar digit = digit.digitChar := by decide
  have ones : value % 10 < 10 := Nat.mod_lt _ (by omega)
  have tens : value / 10 < 10 := by omega
  have written : (Figure.pair value).write .zero = [(value / 10).digitChar, (value % 10).digitChar] := by
    rw [← same _ ones, ← same _ tens]
    unfold Figure.write
    split <;> simp_all
  rw [written, padded]
  by_cases single : value < 10
  · have none : value / 10 = 0 := by omega
    rw [Nat.toDigits_of_lt_base single, Nat.mod_eq_of_lt single, none]
    rfl
  · rw [Nat.toDigits_of_base_le (by omega) (by omega), Nat.toDigits_of_lt_base tens]
    rfl

/-- A sign takes the place by which it widens the field. -/
theorem write_year (year : Int) : (yearFigure year).write .zero = yearSign year ++ padded 4 year.natAbs := by
  have missing : 4 + 1 - (1 + (Nat.toDigits 10 year.natAbs).length) = 4 - (Nat.toDigits 10 year.natAbs).length := by
    omega
  by_cases negative : year < 0
  · simp [yearFigure, Figure.write, yearSign, signOf, negative, missing, padded, List.leftpad]
  · by_cases wide : 9999 < year
    · simp [yearFigure, Figure.write, yearSign, signOf, negative, wide, missing, padded, List.leftpad]
    · simp [yearFigure, Figure.write, yearSign, signOf, negative, wide, padded, List.leftpad]

theorem month_and_day_small (date : Date) : date.month < 100 ∧ date.day < 100 := by
  obtain ⟨-, twelve, -, fits⟩ := date.exists_day
  have longest := daysInMonth_le (isLeapYear date.year) date.month
  omega

theorem printDate_default (date : Date) :
    ({} : Formats).printDate date = .ok (String.ofList (dateText date)) := by
  obtain ⟨month, day⟩ := month_and_day_small date
  have parts : items "%Y-%m-%d".toList =
      [zeroed .year, .literal '-', zeroed .month, .literal '-', zeroed .day] := by
    simp [items_letter, items]
    rfl
  have written : render "%Y-%m-%d" ⟨date, none⟩ = some (String.ofList (dateText date)) := by
    rw [render, parts]
    simp [zeroed, Item.write, Field.figure, write_year, write_pair month, write_pair day, dateText, three]
  simp only [Formats.printDate, Formats.print, written]

theorem printDateTime_default (point : DateTime) :
    ({} : Formats).printDateTime point = .ok (String.ofList (Shown.of point).text) := by
  obtain ⟨month, day⟩ := month_and_day_small point.date
  obtain ⟨hours, minutes, seconds, nanos, -⟩ := point.time.exists_time
  have hour : point.time.hour < 100 := by omega
  have minute : point.time.minute < 100 := by omega
  have second : point.time.shownSecond < 100 := by
    have carried : point.time.nano / nanosPerSecond < 2 := Nat.div_lt_of_lt_mul (by rwa [Nat.mul_comm])
    unfold Time.shownSecond
    omega
  have parts : items "%Y-%m-%d %H:%M:%S".toList =
      [zeroed .year, .literal '-', zeroed .month, .literal '-', zeroed .day, .literal ' ', zeroed .hour, .literal ':',
        zeroed .minute, .literal ':', zeroed .second] := by
    simp [items_letter, items]
    rfl
  have written : render "%Y-%m-%d %H:%M:%S" ⟨point.date, some point.time⟩ =
      some (String.ofList (Shown.of point).text) := by
    rw [render, parts]
    simp [zeroed, Item.write, Field.figure, write_year, write_pair month, write_pair day, write_pair hour,
      write_pair minute, write_pair second, Shown.text, Shown.of, dateText, three]
  simp only [Formats.printDateTime, Formats.print, written]

/-! ### The order of texts -/

theorem dateText_of_plain (plain : IsPlainYear date.year) :
    dateText date = three '-' 4 date.year.natAbs date.month date.day := by
  obtain ⟨positive, small⟩ := plain
  rw [dateText, yearSign, if_neg (by omega), if_neg (by omega), List.nil_append]

theorem length_dateText (plain : IsPlainYear date.year) : (dateText date).length = 10 := by
  obtain ⟨month, day⟩ := month_and_day_small date
  have year : date.year.natAbs < 10 ^ 4 := by
    obtain ⟨positive, small⟩ := plain
    omega
  have two : ∀ value < 100, (padded 2 value).length = 2 := fun value small => length_padded (by omega) small
  rw [dateText_of_plain plain]
  simp only [three, List.length_append, List.length_cons, length_padded (by omega) year, two _ month, two _ day]

/-- The texts of dates are in the order of the dates. -/
theorem dateText_lt_iff (plain : IsPlainYear one.year) (plain' : IsPlainYear other.year) :
    dateText one < dateText other ↔ Earlier one other := by
  have years : one.year.natAbs < 10 ^ 4 ∧ other.year.natAbs < 10 ^ 4 ∧
      (one.year.natAbs < other.year.natAbs ↔ one.year < other.year) ∧
      (one.year.natAbs = other.year.natAbs ↔ one.year = other.year) := by
    obtain ⟨positive, small⟩ := plain
    obtain ⟨positive', small'⟩ := plain'
    omega
  obtain ⟨year, year', less, same⟩ := years
  obtain ⟨month, day⟩ := month_and_day_small one
  obtain ⟨month', day'⟩ := month_and_day_small other
  rw [dateText_of_plain plain, dateText_of_plain plain', three, three, padded_append_lt_iff (by omega) year year',
    List.cons_lt_cons_self, padded_append_lt_iff (by omega) month month', List.cons_lt_cons_self,
    padded_lt_iff (by omega) day day', less, same]
  rfl

end TenantSql.PrintedDates
