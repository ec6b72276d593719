import TenantSql.Pattern.Item
import TenantSql.Calendar.Time

/-!
Printing dates and times by a pattern. An item prints unless it needs a part that is missing: a date has
no time of day, and neither a date nor a local time has a zone. Whether a pattern prints therefore hangs
on the parts at hand and never on their values.
-/

namespace TenantSql.Pattern

/-- The English names of the months. -/
def monthNames : List String :=
  ["January", "February", "March", "April", "May", "June", "July", "August", "September", "October",
    "November", "December"]

/-- The English names of the weekdays, from Monday. -/
def weekdayNames : List String :=
  ["Monday", "Tuesday", "Wednesday", "Thursday", "Friday", "Saturday", "Sunday"]

/-- What is at hand to be printed: a date, and perhaps a time of day. -/
structure Moment where
  date : Date
  time : Option Time := none

/-- How a number is laid out. -/
inductive Figure where
  /-- One digit, never padded. -/
  | digit (value : Nat)
  /-- Two places, of which the first takes any value by counting on from the digit zero. -/
  | pair (value : Nat)
  /-- Decimal digits in a width that the sign counts in; `signed` asks for a sign before a positive
  number also, and widens the field by one. -/
  | wide (width : Nat) (signed : Bool) (value : Int)

/-- The character so many places after the digit zero. -/
def digitChar (value : Nat) : Char := Char.ofNat ('0'.toNat + value)

/-- The sign of a number in a wide figure. -/
def signOf (signed : Bool) (value : Int) : List Char :=
  if value < 0 then ['-'] else if signed then ['+'] else []

/-- The characters of a figure. Zeros go between the sign and the digits, blanks before the sign. -/
def Figure.write (padding : Padding) : Figure → List Char
  | digit value => [digitChar value]
  | pair value =>
    (match value / 10, padding with
      | 0, .none => []
      | 0, .space => [' ']
      | tens, _ => [digitChar tens]) ++ [digitChar (value % 10)]
  | wide width signed value =>
    let sign := signOf signed value
    let digits := Nat.toDigits 10 value.natAbs
    let missing := (if signed then width + 1 else width) - (sign.length + digits.length)
    match padding with
    | .none => sign ++ digits
    | .zero => sign ++ List.replicate missing '0' ++ digits
    | .space => List.replicate missing ' ' ++ sign ++ digits

/-- Years of four digits are written plainly, all others with a sign. -/
def yearFigure (year : Int) : Figure := .wide 4 (year < 0 || 9999 < year) year

/-- The century, of which one byte is kept. -/
def centuryFigure (year : Int) : Figure := .pair (year / 100 % 256).toNat

/-- The figure of a number, if the parts it needs are at hand. -/
def Field.figure (moment : Moment) : Field → Option Figure
  | year => some (yearFigure moment.date.year)
  | century => some (centuryFigure moment.date.year)
  | yearOfCentury => some (.pair (moment.date.year % 100).toNat)
  | weekYear => some (yearFigure moment.date.weekYear)
  | weekYearOfCentury => some (.pair (moment.date.weekYear % 100).toNat)
  | quarter => some (.digit moment.date.quarter)
  | month => some (.pair moment.date.month)
  | day => some (.pair moment.date.day)
  | weekFromSunday => some (.pair moment.date.weekFromSunday)
  | weekFromMonday => some (.pair moment.date.weekFromMonday)
  | week => some (.pair moment.date.week)
  | daysFromSunday => some (.digit moment.date.daysFromSunday)
  | weekday => some (.digit (moment.date.daysFromMonday + 1))
  | ordinal => some (.wide 3 false moment.date.ordinal)
  | hour => moment.time.map (.pair ·.hour)
  | dialHour => moment.time.map (.pair ·.dialHour)
  | minute => moment.time.map (.pair ·.minute)
  | second => moment.time.map (.pair ·.shownSecond)
  | nano => moment.time.map fun time => .wide 9 false time.shownNano
  | epochSeconds =>
    moment.time.map fun time => .wide 9 false (DateTime.epochSeconds ⟨moment.date, time⟩)

/-- The English name, if the parts it needs are at hand. -/
def Name.text (moment : Moment) : Name → Option (List Char)
  | shortMonth => some ((monthNames.getD (moment.date.month - 1) "").toList.take 3)
  | longMonth => some (monthNames.getD (moment.date.month - 1) "").toList
  | shortWeekday => some ((weekdayNames.getD moment.date.daysFromMonday "").toList.take 3)
  | longWeekday => some (weekdayNames.getD moment.date.daysFromMonday "").toList
  | lowerHalfDay => moment.time.map fun time => (if time.isAfternoon then "pm" else "am").toList
  | upperHalfDay => moment.time.map fun time => (if time.isAfternoon then "PM" else "AM").toList

/-- The first `places` of the nine places of a fraction of a second. -/
def places (count nano : Nat) : List Char :=
  (Figure.wide count false (nano / Nat.pow 10 (9 - count) : Nat)).write .zero

/-- The places of a fraction of a second. The shortest exact form of nothing is nothing. -/
def Fraction.write (nano : Nat) : Fraction → List Char
  | shortest =>
    if nano = 0 then []
    else '.' :: places (if nano % 1000000 = 0 then 3 else if nano % 1000 = 0 then 6 else 9) nano
  | fixed point count => (if point then ['.'] else []) ++ places count nano

/-- What an item prints, if the parts it needs are at hand. -/
def Item.write (moment : Moment) : Item → Option (List Char)
  | literal c => some [c]
  | number field padding => (field.figure moment).map (Figure.write padding)
  | .name which => which.text moment
  | .fraction which => moment.time.map fun time => which.write time.shownNano
  | zone => none
  | unknown => none

/-- What a pattern prints. One item that cannot be printed spoils the whole. -/
def render (pattern : String) (moment : Moment) : Option String :=
  ((items pattern.toList).mapM (Item.write moment)).map fun written => String.ofList written.flatten

end TenantSql.Pattern
