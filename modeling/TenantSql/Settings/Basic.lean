import TenantSql.Calendar.Timezone
import TenantSql.Clock
import TenantSql.Formats
import TenantSql.Resolver

/-!
The settings of a deployment: the default database, the tenants, and the patterns of literals. A backend
may be given by name or by URL, and the name goes before the URL. `validate` accepts the settings from
which everything that is needed later can be made.
-/

namespace TenantSql

/-- The deployment settings are for. -/
inductive Environment where
  | development
  | production
  deriving Repr, DecidableEq, Inhabited

namespace Environment

/-- The environment people name, whatever the letter case; every name but two stands for development. -/
def ofName (name : String) : Environment :=
  let lowered := String.ofList (Text.lower name.toList)
  if lowered = "production" ∨ lowered = "prod" then production else development

/-- The name of the environment in file names. -/
def shortName : Environment → String
  | development => "dev"
  | production => "prod"

/-- The name of the environment in documents. -/
def name : Environment → String
  | development => "development"
  | production => "production"

/-- The environments under their names in documents. -/
def documentNames : List (String × Environment) :=
  [("development", development), ("production", production)]

end Environment

/-- The database for work without a tenant. -/
structure DatabaseSettings where
  backend : Option Backend := none
  url : Option String := none
  timezone : String := "UTC"
  deriving Repr, DecidableEq, Inhabited

/-- The settings of one tenant. Without a timezone it is in that of the default database. -/
structure TenantSettings where
  backend : Option Backend := none
  url : Option String := none
  timezone : Option String := none
  deriving Repr, DecidableEq, Inhabited

/-- The settings of a deployment; tenants stand under their identifiers, in no order that matters. -/
structure Settings where
  environment : Environment := .development
  database : DatabaseSettings := {}
  tenants : List (String × TenantSettings) := []
  formats : Formats := {}
  distinct : Assoc.Distinct tenants := by decide
  deriving Repr, DecidableEq

namespace Settings

instance : Inhabited Settings := ⟨{}⟩

/-- The backend that a name or else a URL gives. -/
def chosenBackend (backend : Option Backend) (url : Option String) : Except Error (Option Backend) :=
  match backend, url with
  | some backend, _ => .ok (some backend)
  | none, some url => (Backend.ofUrl url).map some
  | none, none => .ok none

/-- The backend of work without a tenant. -/
def defaultBackend (settings : Settings) : Except Error Backend := do
  match ← chosenBackend settings.database.backend settings.database.url with
  | some backend => .ok backend
  | none => .error (.settings .noBackend)

/-- The offset of work without a tenant. -/
def defaultTimezone (settings : Settings) : Except Error Offset :=
  Offset.parse settings.database.timezone

/-- The settings of a tenant. -/
def tenant (settings : Settings) (identifier : String) : Except Error TenantSettings :=
  match settings.tenants.lookup identifier with
  | some tenant => .ok tenant
  | none => .error (.unknownTenant identifier)

/-- The backend that the settings of a tenant give it. -/
def backendOf (identifier : String) (tenant : TenantSettings) : Except Error Backend := do
  match ← chosenBackend tenant.backend tenant.url with
  | some backend => .ok backend
  | none => .error (.settings (.tenantWithoutBackend identifier))

/-- The backend of a tenant. -/
def tenantBackend (settings : Settings) (identifier : String) : Except Error Backend := do
  backendOf identifier (← settings.tenant identifier)

/-- The offset of a tenant: its own, or else that of the default database. -/
def timezoneOf (settings : Settings) (tenant : TenantSettings) : Except Error Offset :=
  match tenant.timezone with
  | some timezone => Offset.parse timezone
  | none => settings.defaultTimezone

/-- The tenant to bind for requests served on its behalf. -/
def tenantFor (settings : Settings) (identifier : String) : Except Error Tenant := do
  let tenant ← settings.tenant identifier
  let timezone ← settings.timezoneOf tenant
  let backend ← settings.tenantBackend identifier
  return { identifier, backend := some backend, timezone }

/-- Checks the settings of one tenant: first its backend, then its timezone if it has one. -/
def validateTenant (identifier : String) (tenant : TenantSettings) : Except Error Unit := do
  let _ ← backendOf identifier tenant
  match tenant.timezone with
  | some timezone =>
    let _ ← Error.seenFrom ("Invalid timezone for tenant '" ++ identifier ++ "'")
      (Offset.parse timezone)
  | none => pure ()

/-- Checks everything that is made from the settings later. The first fault is reported. -/
def validate (settings : Settings) : Except Error Unit := do
  let _ ← settings.defaultBackend
  let _ ← settings.defaultTimezone
  settings.tenants.forM fun (identifier, tenant) => validateTenant identifier tenant
  Formats.checkPattern "formats.date" settings.formats.date
  Formats.checkPattern "formats.date_time" settings.formats.dateTime

/-- A registry of these tenants, registered one after the other. -/
def registerAll (registry : Registry) : List (String × TenantSettings) → Traced Registry
  | [] => pure registry
  | (identifier, tenant) :: rest => do
    let backend ← backendOf identifier tenant
    registerAll (← registry.register identifier backend) rest

/-- The resolver of the deployment, with every tenant registered. -/
def buildResolver (settings : Settings) : Traced Resolver := do
  let default ← settings.defaultBackend
  return .tenants default (← registerAll .empty settings.tenants)

/-- The clock of the deployment. -/
def buildClock (settings : Settings) : Except Error Clock :=
  settings.defaultTimezone.map .system

/-- The resolver and the clock of the deployment. -/
def build (settings : Settings) : Traced (Resolver × Clock) := do
  let resolver ← settings.buildResolver
  let clock ← settings.buildClock
  return (resolver, clock)

end Settings
end TenantSql
