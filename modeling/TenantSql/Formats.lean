import TenantSql.Pattern.Render
import TenantSql.Error
import TenantSql.Text.Quoted

/-!
The patterns by which dates and date-times are written into literals. A pattern may be checked before use
(`checkPattern`); printing checks it again against the parts at hand.
-/

namespace TenantSql

/-- The pattern of dates and the pattern of date-times. -/
structure Formats where
  date : String := "%Y-%m-%d"
  dateTime : String := "%Y-%m-%d %H:%M:%S"
  deriving Repr, DecidableEq, Inhabited

namespace Formats

/-- A pattern must hold something, and no unknown specifier. -/
def checkPattern (field pattern : String) : Except Error Unit :=
  if pattern.isEmpty then .error (.settings (.emptyPattern field))
  else if Pattern.isKnown pattern then .ok ()
  else .error (.settings (.unknownPattern field pattern))

/-- Prints a moment; a pattern that cannot print it is quoted in the error. -/
def print (pattern : String) (moment : Pattern.Moment) : Except Error String :=
  match Pattern.render pattern moment with
  | some text => .ok text
  | none => .error (.settings (.unprintablePattern pattern))

/-- Prints a date. -/
def printDate (formats : Formats) (date : Date) : Except Error String :=
  print formats.date ⟨date, none⟩

/-- Prints a date-time. -/
def printDateTime (formats : Formats) (point : DateTime) : Except Error String :=
  print formats.dateTime ⟨point.date, some point.time⟩

/-- What a developer is shown of a writer: its two patterns. -/
def summary (formats : Formats) : String :=
  "SqlGenerator \x7b date_format: " ++ Text.quoted formats.date ++ ", date_time_format: " ++
    Text.quoted formats.dateTime ++ ", .. \x7d"

end Formats
end TenantSql
