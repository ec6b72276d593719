import TenantSql.Scope

/-!
Where dates come from. The business date is the one the scope holds for the activity, and nothing stands
in for it; the tenant's time is the present instant at the tenant's offset. A fixed clock shows the same
two readings for ever.
-/

namespace TenantSql

/-- A source of dates. -/
inductive Clock where
  /-- The system's time; work without a tenant is in the default zone. -/
  | system (defaultZone : Offset)
  /-- Two frozen readings. -/
  | fixed (business : Date) (tenantTime : DateTime)
  deriving Repr, DecidableEq

/-- What a clock shows at one moment. Any three readings may stand together. -/
structure ClockFace where
  businessDate : Traced Date
  tenantDate : Date
  tenantTime : DateTime

namespace Clock

/-- A clock stopped at the start of a day, which is the business date too. -/
def atDate (date : Date) : Clock := .fixed date ⟨date, .midnight⟩

/-- The offset of the tenant of the scope, or the default one without a tenant. -/
def zone (defaultZone : Offset) (bound : Option Scope) : Offset :=
  match bound.bind (·.tenant) with
  | some tenant => tenant.timezone
  | none => defaultZone

/-- The activity of the scope; without a scope it is the regular one. -/
def activity (bound : Option Scope) : Activity :=
  match bound with
  | some scope => scope.activity
  | none => .regular

/-- The business date, or the kind of date that is missing. -/
def businessDate (bound : Option Scope) : Clock → Traced Date
  | fixed business _ => pure business
  | system _ =>
    match bound.bind (·.currentDate?) with
    | some date => pure date
    | none =>
      let kind := (activity bound).dateKind
      .failWith (.missingDate kind) (.missingDate kind)

/-- The local time of the tenant at an instant. -/
def tenantTime (bound : Option Scope) (instant : Instant) : Clock → DateTime
  | fixed _ tenantTime => tenantTime
  | system defaultZone => .ofInstant instant (zone defaultZone bound)

/-- The local date of the tenant at an instant. -/
def tenantDate (bound : Option Scope) (instant : Instant) (clock : Clock) : Date :=
  (clock.tenantTime bound instant).date

/-- What the clock shows in a scope at an instant. -/
def face (clock : Clock) (bound : Option Scope) (instant : Instant) : ClockFace :=
  ⟨clock.businessDate bound, clock.tenantDate bound instant, clock.tenantTime bound instant⟩

end Clock
end TenantSql
