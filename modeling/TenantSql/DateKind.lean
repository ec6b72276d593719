/-!
The dates an institution works by. The business date is the day it is operating on, the closing date
the day its close-of-business jobs are working on. What a line of work is doing selects which of the
two it asks for.
-/

namespace TenantSql

/-- Which of a tenant's dates is meant. -/
inductive DateKind where
  | business
  | closing
  deriving Repr, DecidableEq

/-- What a line of work is doing. -/
inductive Activity where
  | regular
  | closeOfBusiness
  deriving Repr, DecidableEq, Inhabited

/-- How the date is called in messages. -/
def DateKind.title : DateKind → String
  | .business => "business date"
  | .closing => "COB date"

/-- The kinds of dates under their names in documents. -/
def DateKind.documentNames : List (String × DateKind) :=
  [("BUSINESS_DATE", .business), ("COB_DATE", .closing)]

/-- The activities under their names in documents. -/
def Activity.documentNames : List (String × Activity) :=
  [("DEFAULT", .regular), ("COB", .closeOfBusiness)]

/-- Close-of-business work asks for the closing date, all other work for the business date. -/
def Activity.dateKind : Activity → DateKind
  | .regular => .business
  | .closeOfBusiness => .closing

end TenantSql
