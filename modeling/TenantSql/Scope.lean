import TenantSql.Calendar.Time
import TenantSql.Log

/-!
What a line of work knows about its surroundings: the tenant it serves, the dates of the institution and
what it is doing. A scope is bound by entering it. Entering gives a guard that holds what was bound
before; dropping the guard binds that again, whatever is bound by then.
-/

namespace TenantSql

/-- The tenant a request is served for. A backend of its own goes before any registration. -/
structure Tenant where
  identifier : String
  backend : Option Backend := none
  timezone : Offset := .utc
  deriving Repr, DecidableEq

/-- Everything known about the current work. -/
structure Scope where
  tenant : Option Tenant := none
  /-- The date under each kind, as far as it is known. -/
  businessDate : Option Date := none
  closingDate : Option Date := none
  activity : Activity := .regular
  deriving Repr, DecidableEq

namespace Scope

/-- The date of a kind. -/
def date? (scope : Scope) : DateKind → Option Date
  | .business => scope.businessDate
  | .closing => scope.closingDate

/-- The scope with this date of the kind. -/
def withDate (scope : Scope) (kind : DateKind) (date : Date) : Scope :=
  match kind with
  | .business => { scope with businessDate := some date }
  | .closing => { scope with closingDate := some date }

/-- The scope doing something else. -/
def withActivity (scope : Scope) (activity : Activity) : Scope := { scope with activity }

/-- The date the activity asks for. -/
def currentDate? (scope : Scope) : Option Date := scope.date? scope.activity.dateKind

end Scope

/-- What was bound when a scope was entered. -/
structure Guard where
  previous : Option Scope
  deriving Repr, DecidableEq

/-- The event that names the tenant of a scope, if there is one. -/
def tenantEvent (event : String → Event) (scope : Option Scope) : List Event :=
  match scope.bind (·.tenant) with
  | some tenant => [event tenant.identifier]
  | none => []

/-- Binds a scope in the place of what is bound. -/
def Scope.enter (bound : Option Scope) (scope : Scope) : Traced (Option Scope × Guard) :=
  ⟨tenantEvent .entering (some scope), .ok (some scope, ⟨bound⟩)⟩

/-- Binds what was bound when the guard was made. -/
def Guard.drop (bound : Option Scope) (guard : Guard) : Traced (Option Scope) :=
  ⟨tenantEvent .leaving bound, .ok guard.previous⟩

end TenantSql
