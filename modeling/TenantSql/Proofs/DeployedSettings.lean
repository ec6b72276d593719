import TenantSql.Proofs.AcceptedSettings
import TenantSql.Proofs.SessionRun
import TenantSql.Proofs.SingleQuery

/-! What is written with accepted settings. A tenant of the settings meets its
backend twice, on the tenant that is bound for it and in the registry, and its
timezone once on that tenant and once as the default of the clock. Both ways
lead to the same fragments, those of a writer fixed on the tenant's backend. -/
namespace TenantSql.DeployedSettings
open Session Settings AcceptedSettings SingleQuery

variable {session : Session} {history : History} {bound : Option Scope} {tenant : Tenant}
  {default backend : Backend} {registry : Registry} {clock : Clock} {formats : Formats}

/-- The steps after which a desk writes with the settings: they are put on the
desk itself, or into a writer of their own. -/
def Deploys : Step → Prop
  | .build | .buildWriter => True
  | _ => False

/-- The desk after settings were deployed and a history went on at it. -/
def deskAfter (session : Session) (instant : Instant) (deploy : Step) (history : History) : Desk :=
  ((session.step instant deploy).2.run history).desk

/-- In a scope the desk writes as one whose resolver is fixed. -/
def WritesLike (desk : Desk) (bound : Option Scope) (backend : Backend) (clock : Clock)
    (formats : Formats) : Prop :=
  ∀ instant request, desk.write bound instant request =
    (Resolver.fixed backend).answer clock formats bound instant request

/-- In a scope the clock shows tenants the local time of an offset. -/
def ShowsOffset (clock : Clock) (bound : Option Scope) (offset : Offset) : Prop :=
  ∀ instant, (clock.face bound instant).tenantTime = .ofInstant instant offset ∧
    (clock.face bound instant).tenantDate = (DateTime.ofInstant instant offset).date

/-- Two resolvers that agree on the scope write the same in it. -/
theorem answer_congr {one other : Resolver} (agree : one.backend bound = other.backend bound)
    (instant : Instant) (request : Request) :
    one.answer clock formats bound instant request = other.answer clock formats bound instant request := by
  simp only [Resolver.answer, Resolver.writer, agree]

/-- A request that asks fails as the resolver does. -/
theorem answer_of_error {resolver : Resolver} {error : Error}
    (failed : (resolver.backend bound).result = .error error) {request : Request}
    (asks : Asks request = true) (instant : Instant) :
    (resolver.answer clock formats bound instant request).result = .error error := by
  obtain ⟨next, here, -⟩ := write_of_asks asks (resolver.writer clock formats bound instant)
  rw [Resolver.answer, here, withBackend_of_error failed]

theorem backend_without_tenant (nobody : bound.bind (·.tenant) = none) :
    (Resolver.tenants default registry).backend bound = (Resolver.fixed default).backend bound := by
  simp only [Resolver.backend, nobody]

/-- A backend of the tenant's own is the answer whoever is registered. -/
theorem backend_of_own (served : bound.bind (·.tenant) = some tenant) (own : tenant.backend = some backend) :
    (Resolver.tenants default registry).backend bound = (Resolver.fixed backend).backend bound := by
  simp only [Resolver.backend, served, own]

theorem backend_of_registered (served : bound.bind (·.tenant) = some tenant) (unset : tenant.backend = none)
    (registered : registry.entries.lookup tenant.identifier = some backend) :
    (Resolver.tenants default registry).backend bound = (Resolver.fixed backend).backend bound := by
  simp only [Resolver.backend, served, unset, Registry.backendFor, registered]

/-- A running clock is in the zone of the scope. -/
theorem showsOffset_system {zone offset : Offset} (found : Clock.zone zone bound = offset) :
    ShowsOffset (.system zone) bound offset := by
  intro instant
  simp only [Clock.face, Clock.tenantDate, Clock.tenantTime, found, and_self]

/-- A deployment writes with the registry of the settings, in which a history
has changed nothing but what it registers and removes itself. -/
theorem deployed_writes {instant : Instant} {deploy : Step} (deploys : Deploys deploy)
    (made : session.desk.settings.build.result = .ok (.tenants default registry, clock))
    (kept : ∀ entry ∈ history, entry.2.rewires = false) :
    (session.step instant deploy).1.result = .ok .nothing ∧
    ∃ after : Registry,
      (∀ identifier, lastVerdict identifier history = none →
        after.entries.lookup identifier = registry.entries.lookup identifier) ∧
      ∀ bound moment request, (deskAfter session instant deploy history).write bound moment request =
        (Resolver.tenants default after).answer clock session.desk.settings.formats bound moment request := by
  cases deploy with
  | build =>
    obtain ⟨done, desk⟩ := Session.step_build instant made
    have put : (session.step instant .build).2.desk.resolver = .tenants default registry := by rw [desk]
    obtain ⟨after, resolver, known⟩ := run_registry put fun entry member =>
      Step.keeps_resolver_of_not_rewires (kept entry member)
    refine ⟨done, after, fun identifier silent => by rw [known, silent]; rfl, ?_⟩
    intro bound moment request
    obtain ⟨sameClock, sameWiring⟩ := Session.run_wiring (session.step instant .build).2 kept
    rw [desk] at sameClock sameWiring
    rw [Desk.write, deskAfter, sameWiring, resolver, sameClock]
  | buildWriter =>
    obtain ⟨done, desk⟩ := Session.step_buildWriter instant made
    refine ⟨done, registry, fun _ _ => rfl, ?_⟩
    intro bound moment request
    obtain ⟨-, sameWiring⟩ := Session.run_wiring (session.step instant .buildWriter).2 kept
    rw [desk] at sameWiring
    rw [Desk.write, deskAfter, sameWiring]
  | _ => cases deploys

/-- A desk on which accepted settings were deployed writes, as long as it is not
rewired, like the desk of a single backend that goes by the same clock and the
patterns of the settings. With the tenant bound that the settings give for an
identifier, that backend is the identifier's own, whatever is registered and
removed. With a tenant bound that has only the identifier, it still is, as long
as nothing is registered or removed under that identifier. Without a tenant it
is the default one. The dates of a bound tenant are at the offset of its own
timezone, or else at the offset of work without a tenant. An identifier that the
settings do not have gives no tenant, and with one bound by hand whatever asks
for a backend fails. -/
theorem valid_settings_deployed (session : Session) (instant : Instant) (deploy : Step)
    (history : History) (deploys : Deploys deploy) (valid : session.desk.settings.validate = .ok ())
    (kept : ∀ entry ∈ history, entry.2.rewires = false) :
    let settings := session.desk.settings
    let desk := deskAfter session instant deploy history
    ∃ default zone clock, settings.defaultBackend = .ok default ∧ settings.defaultTimezone = .ok zone ∧
      settings.buildClock = .ok clock ∧ (session.step instant deploy).1.result = .ok .nothing ∧
      (∀ bound : Option Scope, bound.bind (·.tenant) = none →
        WritesLike desk bound default clock settings.formats ∧ ShowsOffset clock bound zone) ∧
      (∀ identifier configured, (identifier, configured) ∈ settings.tenants →
        ∃ tenant backend, settings.tenantFor identifier = .ok tenant ∧
          settings.tenantBackend identifier = .ok backend ∧
          (∀ bound : Option Scope, bound.bind (·.tenant) = some tenant →
            WritesLike desk bound backend clock settings.formats ∧
            ShowsOffset clock bound tenant.timezone) ∧
          (match configured.timezone with
            | some timezone => Offset.parse timezone = .ok tenant.timezone
            | none => tenant.timezone = zone) ∧
          (lastVerdict identifier history = none → ∀ (bound : Option Scope) (plain : Tenant),
            bound.bind (·.tenant) = some plain → plain.identifier = identifier → plain.backend = none →
              WritesLike desk bound backend clock settings.formats)) ∧
      ∀ identifier ∉ settings.tenants.map (·.1),
        settings.tenantFor identifier = .error (.unknownTenant identifier) ∧
        (lastVerdict identifier history = none → ∀ (bound : Option Scope) (plain : Tenant),
          bound.bind (·.tenant) = some plain → plain.identifier = identifier → plain.backend = none →
            ∀ moment request, Asks request = true →
              (desk.write bound moment request).result = .error (.unknownTenant identifier)) := by
  intro settings desk
  obtain ⟨default, zone, registry, fallback, read, made, onOwn, others⟩ := build_of_valid valid
  obtain ⟨done, after, unchanged, writes⟩ := deployed_writes deploys made kept
  have like : ∀ {bound : Option Scope} {backend : Backend},
      (Resolver.tenants default after).backend bound = (Resolver.fixed backend).backend bound →
        WritesLike desk bound backend (.system zone) settings.formats := by
    intro bound backend agree moment request
    exact (writes bound moment request).trans (answer_congr agree moment request)
  refine ⟨default, zone, .system zone, fallback, read, by rw [buildClock, read]; rfl, done, ?_, ?_, ?_⟩
  · intro bound nobody
    have offset : Clock.zone zone bound = zone := by rw [Clock.zone, nobody]
    exact ⟨like (backend_without_tenant nobody), showsOffset_system offset⟩
  · intro identifier configured member
    obtain ⟨backend, offset, own, found, agrees⟩ := tenantFor_of_mem valid read member
    refine ⟨_, backend, found, own, ?_, agrees, ?_⟩
    · intro bound served
      have shown : Clock.zone zone bound = offset := by rw [Clock.zone, served]
      exact ⟨like (backend_of_own served rfl), showsOffset_system shown⟩
    · intro silent bound plain served rfl unset
      have has : backendOf plain.identifier configured = .ok backend :=
        (tenantBackend_of_mem member).symm.trans own
      have registered : after.entries.lookup plain.identifier = some backend :=
        (unchanged _ silent).trans (onOwn _ member backend has)
      exact like (backend_of_registered served unset registered)
  · intro identifier absent
    refine ⟨tenantFor_of_notMem absent, ?_⟩
    rintro silent bound plain served rfl unset moment request asks
    have unknown : after.entries.lookup plain.identifier = none :=
      (unchanged _ silent).trans (others _ absent)
    have failed : ((Resolver.tenants default after).backend bound).result =
        .error (.unknownTenant plain.identifier) := by
      simp only [Resolver.backend, served, unset, Registry.backendFor, unknown, Traced.failWith]
    rw [writes bound moment request]
    exact answer_of_error failed asks moment

/-- Two tenants, one by name and in the default timezone, the other by URL and in
a timezone of its own. The second is removed from the registry and still served
from its settings. -/
theorem removed_tenant_deployed :
    let settings : Settings := {
      database := { backend := some .mysql, timezone := "+01:00" },
      tenants := [("asia", { url := some "postgresql://db/asia", timezone := some "UTC+9" }),
        ("eu", { backend := some .mariadb })] }
    let session : Session := { desk := ⟨.fixed .sqlite, .system .utc, .shared {}, settings⟩ }
    let history : History := [(.epoch, .unregister "asia"), (.epoch, .register "eu" .mysql)]
    settings.validate = .ok () ∧ (∀ entry ∈ history, entry.2.rewires = false) ∧
      ∃ tenant backend clock, settings.tenantFor "asia" = .ok tenant ∧
        settings.tenantBackend "asia" = .ok backend ∧
        ∀ bound : Option Scope, bound.bind (·.tenant) = some tenant →
          WritesLike (deskAfter session .epoch .build history) bound backend clock settings.formats := by
  intro settings session history
  have passed : settings.validate.isOk = true := by decide +kernel
  have valid : settings.validate = .ok () := by
    cases checked : settings.validate with
    | ok => rfl
    | error fault => rw [checked] at passed; cases passed
  have kept : ∀ entry ∈ history, entry.2.rewires = false := by decide
  obtain ⟨_, _, clock, -, -, -, -, -, configured, -⟩ :=
    valid_settings_deployed session .epoch .build history trivial valid kept
  obtain ⟨tenant, backend, found, own, served, -⟩ := configured "asia" _ List.mem_cons_self
  exact ⟨valid, kept, tenant, backend, clock, found, own, fun bound bind => (served bound bind).1⟩

end TenantSql.DeployedSettings
