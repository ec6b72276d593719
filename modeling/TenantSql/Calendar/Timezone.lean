import TenantSql.Calendar.Time
import TenantSql.Error

/-!
Time zones as people write them: UTC, GMT or Z, or a signed distance of hours and minutes with or
without one of the first two names before it, such as `+05:30`, `-0300` or `UTC+2`. Colons only separate
for the eye: they are put aside before the digits are counted.
-/

namespace TenantSql.Offset

/-- The number that decimal digits spell. -/
def ofDigits (digits : List Char) : Nat :=
  digits.foldl (fun number digit => 10 * number + (digit.toNat - '0'.toNat)) 0

/-- The text without the name of universal time at its beginning. -/
def withoutZoneName : List Char → List Char
  | 'U' :: 'T' :: 'C' :: rest => rest
  | 'G' :: 'M' :: 'T' :: rest => rest
  | text => text

/-- Hours and minutes from the digits of a distance: one or two digits are hours, four are hours and
minutes. -/
def hoursAndMinutes? (digits : List Char) : Option (Nat × Nat) :=
  if digits.all Char.isDigit then
    match digits.length with
    | 1 | 2 => some (ofDigits digits, 0)
    | 4 => some (ofDigits (digits.take 2), ofDigits (digits.drop 2))
    | _ => none
  else none

/-- The distance that follows a sign: at most eighteen hours, and minutes that make no hour. -/
def distance? (negative : Bool) (text : List Char) : Option Offset := do
  let (hours, minutes) ← hoursAndMinutes? (text.filter (· ≠ ':'))
  if hours ≤ 18 ∧ minutes < 60 then
    let seconds : Int := hours * 3600 + minutes * 60
    ofSeconds? (if negative then -seconds else seconds)
  else none

/-- The offset a trimmed text in upper case names. -/
def ofUpper? (text : List Char) : Option Offset :=
  if text = ['U', 'T', 'C'] ∨ text = ['G', 'M', 'T'] ∨ text = ['Z'] then some utc
  else
    match withoutZoneName text with
    | '+' :: rest => distance? false rest
    | '-' :: rest => distance? true rest
    | _ => none

/-- The offset a text names, whatever its letter case and the blanks around it. -/
def parse (text : String) : Except Error Offset :=
  let trimmed := Text.trim text.toList
  match ofUpper? (Text.upper trimmed) with
  | some offset => .ok offset
  | none => .error (.invalidTimezone (String.ofList trimmed))

end TenantSql.Offset
