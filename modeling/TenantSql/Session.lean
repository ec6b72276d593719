import TenantSql.Settings.Basic
import TenantSql.Writer

/-!
Work that goes on step by step: scopes are entered and left, tenants come and go, settings are taken over
and used, and fragments are written. What all workers share is on the desk; what is bound and which
guards are held is a worker's own. A step that fails leaves everything as it was.
-/

namespace TenantSql

/-- What a desk writes fragments with. -/
inductive Wiring where
  /-- With the resolver and the clock of the desk. -/
  | shared (formats : Formats)
  /-- With a resolver and a clock that nothing else uses. -/
  | own (resolver : Resolver) (clock : Clock) (formats : Formats)
  deriving Repr, DecidableEq

/-- What workers share. -/
structure Desk where
  resolver : Resolver
  clock : Clock
  wiring : Wiring
  settings : Settings := {}
  deriving Repr, DecidableEq

/-- A worker: the scope that is bound, and the guards held under their names, the latest first. -/
structure Worker where
  bound : Option Scope := none
  guards : List (String × Guard) := []
  deriving Repr, DecidableEq

/-- A desk and the worker at it. -/
structure Session where
  desk : Desk
  worker : Worker := {}
  deriving Repr, DecidableEq

/-- One thing to do. -/
inductive Step where
  | write (request : Request)
  /-- Shows the patterns in use. -/
  | describe
  | enter (guard : String) (scope : Scope)
  | exit (guard : String)
  | current
  | resolve
  | register (identifier : String) (backend : Backend)
  | unregister (identifier : String)
  | backendFor (identifier : String)
  | tenants
  | businessDate
  | readClock
  /-- Takes over the settings that loading has given. -/
  | adopt (loaded : Traced Settings)
  /-- Changes the settings in use. -/
  | revise (change : Settings → Except Error Settings)
  | settings
  | validate
  | defaultBackend
  | defaultTimezone
  | tenantBackend (identifier : String)
  | tenantFor (identifier : String)
  /-- Puts resolver, clock and patterns of the settings on the desk. -/
  | build
  /-- Writes from now on with a resolver and a clock of the settings that are not on the desk. -/
  | buildWriter

/-- What a step answers. -/
inductive Reply where
  | nothing
  | text (text : String)
  | scope (scope : Option Scope)
  | resolution (backend : Backend) (isMySql isPostgres : Bool)
  | count (count : Nat)
  | backend (backend : Option Backend)
  | registry (default : Backend) (registry : Registry)
  | date (date : Date)
  /-- A clock that stands still. -/
  | readings (date : Date) (point : DateTime)
  /-- A clock that runs, by its default offset and the one in force. -/
  | offsets (default current : Offset)
  | offset (offset : Offset)
  | settings (settings : Settings)
  | tenant (tenant : Tenant)
  deriving Repr, DecidableEq

namespace Desk

/-- What is written in a scope at an instant for a request. -/
def write (desk : Desk) (bound : Option Scope) (instant : Instant) (request : Request) :
    Traced String :=
  match desk.wiring with
  | .shared formats => desk.resolver.answer desk.clock formats bound instant request
  | .own resolver clock formats => resolver.answer clock formats bound instant request

/-- The patterns fragments are written with. -/
def formats (desk : Desk) : Formats :=
  match desk.wiring with
  | .shared formats => formats
  | .own _ _ formats => formats

/-- What the clock of the desk tells of itself. -/
def readClock (desk : Desk) (bound : Option Scope) : Reply :=
  match desk.clock with
  | .fixed _ tenantTime => .readings tenantTime.date tenantTime
  | .system defaultZone => .offsets defaultZone (Clock.zone defaultZone bound)

/-- Who is registered at the desk. A fixed resolver knows nobody. -/
def registry (desk : Desk) : Backend × Registry :=
  match desk.resolver with
  | .fixed backend => (backend, .empty)
  | .tenants default registry => (default, registry)

/-- The desk with another registry. -/
def withRegistry (desk : Desk) (registry : Registry) : Desk :=
  match desk.resolver with
  | .fixed _ => desk
  | .tenants default _ => { desk with resolver := .tenants default registry }

end Desk

namespace Session

/-- The session with another scope and other guards. -/
def withWorker (session : Session) (worker : Worker) : Session := { session with worker }

/-- The session at a changed desk. -/
def withDesk (session : Session) (desk : Desk) : Session := { session with desk }

/-- A new worker at the same desk, who has nothing bound. -/
def fork (session : Session) : Session := { session with worker := {} }

/-- The worker of a session at the desk as another worker has left it. -/
def resume (session other : Session) : Session := { session with desk := other.desk }

/-- What a step does at an instant: its answer, and the session after it. -/
def act (instant : Instant) (session : Session) : Step → Traced (Reply × Session)
  | .write request => do
    let text ← session.desk.write session.worker.bound instant request
    return (.text text, session)
  | .describe => return (.text session.desk.formats.summary, session)
  | .enter name scope => do
    let (bound, guard) ← scope.enter session.worker.bound
    return (.scope bound, session.withWorker ⟨bound, (name, guard) :: session.worker.guards⟩)
  | .exit name =>
    match session.worker.guards.lookup name with
    | none => return (.scope session.worker.bound, session)
    | some guard => do
      let bound ← guard.drop session.worker.bound
      let guards := session.worker.guards.eraseP (·.1 == name)
      return (.scope bound, session.withWorker ⟨bound, guards⟩)
  | .current => return (.scope session.worker.bound, session)
  | .resolve => do
    let backend ← session.desk.resolver.backend session.worker.bound
    let isMySql ← session.desk.resolver.isMySql session.worker.bound
    let isPostgres ← session.desk.resolver.isPostgres session.worker.bound
    return (.resolution backend isMySql isPostgres, session)
  | .register identifier backend => do
    let registry ← session.desk.registry.2.register identifier backend
    return (.count registry.count, session.withDesk (session.desk.withRegistry registry))
  | .unregister identifier =>
    let (removed, registry) := session.desk.registry.2.unregister identifier
    return (.backend removed, session.withDesk (session.desk.withRegistry registry))
  | .backendFor identifier => do
    let backend ← session.desk.registry.2.backendFor identifier
    return (.backend (some backend), session)
  | .tenants =>
    return (.registry session.desk.registry.1 session.desk.registry.2, session)
  | .businessDate => do
    let date ← session.desk.clock.businessDate session.worker.bound
    return (.date date, session)
  | .readClock => return (session.desk.readClock session.worker.bound, session)
  | .adopt loaded => do
    let settings ← loaded
    return (.settings settings, session.withDesk { session.desk with settings })
  | .revise change => do
    let settings ← change session.desk.settings
    return (.settings settings, session.withDesk { session.desk with settings })
  | .settings => return (.settings session.desk.settings, session)
  | .validate => do
    session.desk.settings.validate
    return (.nothing, session)
  | .defaultBackend => do
    let backend ← session.desk.settings.defaultBackend
    return (.backend (some backend), session)
  | .defaultTimezone => do
    let offset ← session.desk.settings.defaultTimezone
    return (.offset offset, session)
  | .tenantBackend identifier => do
    let backend ← session.desk.settings.tenantBackend identifier
    return (.backend (some backend), session)
  | .tenantFor identifier => do
    let tenant ← session.desk.settings.tenantFor identifier
    return (.tenant tenant, session)
  | .build => do
    let (resolver, clock) ← session.desk.settings.build
    let wiring := Wiring.shared session.desk.settings.formats
    return (.nothing, session.withDesk { session.desk with resolver, clock, wiring })
  | .buildWriter => do
    let (resolver, clock) ← session.desk.settings.build
    let wiring := Wiring.own resolver clock session.desk.settings.formats
    return (.nothing, session.withDesk { session.desk with wiring })

/-- The answer of a step, and the session after it. A step that fails changes nothing. -/
def step (instant : Instant) (session : Session) (step : Step) : Traced Reply × Session :=
  let outcome := session.act instant step
  match outcome.result with
  | .ok (reply, after) => (⟨outcome.events, .ok reply⟩, after)
  | .error error => (⟨outcome.events, .error error⟩, session)

end Session
end TenantSql
