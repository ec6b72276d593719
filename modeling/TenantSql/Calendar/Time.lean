import TenantSql.Calendar.Date

/-!
Times of day, points in local time, instants, and offsets from universal time. A nanosecond count of a
thousand million and more marks a leap second: the clock shows the second sixty.
-/

namespace TenantSql

/-- The number of nanoseconds of a second. -/
def nanosPerSecond : Nat := 1000000000

/-- An hour, a minute, a second and nanoseconds name a time of day. Only the last second of a minute can
be followed by a leap second. -/
def IsTime (hour minute second nano : Nat) : Prop :=
  hour < 24 ∧ minute < 60 ∧ second < 60 ∧ nano < 2 * nanosPerSecond ∧
    (nanosPerSecond ≤ nano → second = 59)

instance (hour minute second nano : Nat) : Decidable (IsTime hour minute second nano) :=
  inferInstanceAs (Decidable (_ ∧ _))

/-- A time of day. -/
structure Time where
  hour : Nat
  minute : Nat
  second : Nat
  nano : Nat
  exists_time : IsTime hour minute second nano
  deriving Repr, DecidableEq

namespace Time

/-- The time with these parts, if there is one. -/
def ofParts? (hour minute second nano : Nat) : Option Time :=
  if h : IsTime hour minute second nano then some ⟨hour, minute, second, nano, h⟩ else none

/-- The start of a day. -/
def midnight : Time := ⟨0, 0, 0, 0, by decide⟩

/-- The seconds since midnight; a leap second counts as the second before it. -/
def secondOfDay (time : Time) : Nat := time.hour * 3600 + time.minute * 60 + time.second

/-- The second a clock shows, which is sixty in a leap second. -/
def shownSecond (time : Time) : Nat := time.second + time.nano / nanosPerSecond

/-- The nanoseconds past the second that the clock shows. -/
def shownNano (time : Time) : Nat := time.nano % nanosPerSecond

/-- The hour on a dial of twelve, which has no hour zero. -/
def dialHour (time : Time) : Nat := if time.hour % 12 = 0 then 12 else time.hour % 12

/-- Whether noon has passed. -/
def isAfternoon (time : Time) : Bool := 12 ≤ time.hour

/-- The time a number of seconds and nanoseconds after midnight. -/
def ofSecondOfDay (second nano : Nat) (in_day : second < 86400) (in_second : nano < nanosPerSecond) :
    Time :=
  ⟨second / 3600, second / 60 % 60, second % 60, nano, by
    unfold nanosPerSecond at in_second
    unfold IsTime nanosPerSecond
    omega⟩

end Time

/-- A point in local time. -/
structure DateTime where
  date : Date
  time : Time
  deriving Repr, DecidableEq

/-- A point in universal time: seconds since the start of 1970, and nanoseconds. -/
structure Instant where
  seconds : Int
  nano : Fin nanosPerSecond
  deriving Repr, DecidableEq

/-- The start of 1970. -/
def Instant.epoch : Instant := ⟨0, ⟨0, by decide⟩⟩

/-- A distance east of universal time, in seconds, of less than a day. -/
structure Offset where
  seconds : Int
  less_than_day : -86400 < seconds ∧ seconds < 86400
  deriving Repr, DecidableEq

namespace Offset

/-- Universal time itself. -/
def utc : Offset := ⟨0, by decide⟩

instance : Inhabited Offset := ⟨utc⟩

/-- The offset of so many seconds to the east, if it is less than a day. -/
def ofSeconds? (seconds : Int) : Option Offset :=
  if h : -86400 < seconds ∧ seconds < 86400 then some ⟨seconds, h⟩ else none

/-- The nearest whole minute, in seconds; a half goes to the east. -/
def nearestMinute (offset : Offset) : Int := (offset.seconds + 30) / 60 * 60

end Offset

namespace DateTime

/-- The day number of the first of January 1970. -/
def epochDay : Int := 719162

/-- The seconds from the start of 1970 to this point, as if local time were universal time. -/
def epochSeconds (point : DateTime) : Int :=
  (point.date.dayNumber - epochDay) * 86400 + point.time.secondOfDay

/-- What a clock shows at an instant at the given offset. -/
def ofInstant (instant : Instant) (offset : Offset) : DateTime :=
  let seconds := instant.seconds + offset.seconds
  ⟨Date.ofDayNumber (seconds / 86400 + epochDay),
    Time.ofSecondOfDay (seconds % 86400).toNat instant.nano (by omega) instant.nano.isLt⟩

end DateTime
end TenantSql
