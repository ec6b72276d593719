import TenantSql.Calendar.Date
import TenantSql.Text.Blank
import TenantSql.Toml.Quoted

/-!
The dates and times of TOML: a date, a time of day, or both with or without a distance from universal time.
Every part has a fixed number of digits, the date has to exist, and seconds may be left out.
-/

namespace TenantSql.Toml

/-- The number that exactly so many decimal digits spell. -/
def digits? (count : Nat) (text : List Char) : Option Nat :=
  if text.length = count && text.all Char.isDigit then some (numberOf 10 text) else none

/-- A date: four digits, two digits and two digits between dashes, of a day that exists. -/
def isDate (text : List Char) : Bool :=
  match Text.pieces (· == '-') text with
  | [year, month, day] =>
    match digits? 4 year, digits? 2 month, digits? 2 day with
    | some year, some month, some day => (Date.ofParts? year month day).isSome
    | _, _, _ => false
  | _ => false

/-- The second of a time, perhaps with a fraction. A leap second is allowed. -/
def isSecond (text : List Char) : Bool :=
  match Text.pieces (· == '.') text with
  | [second] => (digits? 2 second).any (· ≤ 60)
  | [second, fraction] =>
    (digits? 2 second).any (· ≤ 60) && !fraction.isEmpty && fraction.all Char.isDigit
  | _ => false

/-- A time of day: hours and minutes, perhaps seconds. -/
def isTime (text : List Char) : Bool :=
  match Text.pieces (· == ':') text with
  | [hour, minute] => (digits? 2 hour).any (· < 24) && (digits? 2 minute).any (· < 60)
  | [hour, minute, second] =>
    (digits? 2 hour).any (· < 24) && (digits? 2 minute).any (· < 60) && isSecond second
  | _ => false

/-- The distance from universal time, without its sign. -/
def isDistance (text : List Char) : Bool :=
  match Text.pieces (· == ':') text with
  | [hour, minute] => (digits? 2 hour).any (· < 24) && (digits? 2 minute).any (· < 60)
  | _ => false

/-- A time of day with a distance from universal time, or without one. -/
def isZonedTime (text : List Char) : Bool :=
  let time := text.takeWhile fun c => !(['Z', 'z', '+', '-'].contains c)
  isTime time &&
    match text.drop time.length with
    | [] => true
    | ['Z'] | ['z'] => true
    | '+' :: distance | '-' :: distance => isDistance distance
    | _ => false

/-- A date, a time of day, or both with a letter T or a blank between them. -/
def isDatetime (text : List Char) : Bool :=
  isDate text || isTime text ||
    isDate (text.take 10) &&
      match text.drop 10 with
      | 'T' :: time | 't' :: time | ' ' :: time => isZonedTime time
      | _ => false

end TenantSql.Toml
