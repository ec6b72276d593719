import TenantSql.Proofs.Outcomes
import TenantSql.Settings.Basic

/-! What accepting settings means for the things that are made of them later.
Accepted settings give a default backend and a default timezone, and every
tenant in them has a backend and an offset, so building cannot fail. -/
namespace TenantSql.AcceptedSettings
open Settings Outcomes

variable {settings : Settings} {tenants : List (String × TenantSettings)} {identifier : String}
  {tenant : TenantSettings}

/-- A tenant passes if it has a backend, and a timezone of its own can be read. -/
theorem validateTenant_iff : validateTenant identifier tenant = .ok () ↔
    (∃ backend, backendOf identifier tenant = .ok backend) ∧
      ∀ timezone ∈ tenant.timezone, ∃ offset, Offset.parse timezone = .ok offset := by
  cases named : tenant.timezone with
  | none => simp [validateTenant, bind_eq_ok, named, pure, Except.pure]
  | some timezone =>
    simp [validateTenant, bind_eq_ok, seenFrom_eq_ok, named, pure, Except.pure]

/-- Settings pass if there are a default backend and a default timezone, every
tenant passes, and both patterns do. -/
theorem validate_iff : settings.validate = .ok () ↔
    (∃ default, settings.defaultBackend = .ok default) ∧
    (∃ zone, settings.defaultTimezone = .ok zone) ∧
    (∀ entry ∈ settings.tenants, validateTenant entry.1 entry.2 = .ok ()) ∧
    Formats.checkPattern "formats.date" settings.formats.date = .ok () ∧
    Formats.checkPattern "formats.date_time" settings.formats.dateTime = .ok () := by
  simp only [Settings.validate, bind_eq_ok, exists_and_right, passes_iff, forM_eq_ok]

/-- Registering tenants that have backends cannot fail. Each of them is then on
its own backend, and nothing else has changed. -/
theorem registerAll_result (distinct : Assoc.Distinct tenants)
    (passed : ∀ entry ∈ tenants, ∃ backend, backendOf entry.1 entry.2 = .ok backend) (registry : Registry) :
    ∃ after, (registerAll registry tenants).result = .ok after ∧
      (∀ entry ∈ tenants, ∀ backend, backendOf entry.1 entry.2 = .ok backend →
        after.entries.lookup entry.1 = some backend) ∧
      ∀ identifier ∉ tenants.map (·.1),
        after.entries.lookup identifier = registry.entries.lookup identifier := by
  induction tenants generalizing registry with
  | nil => exact ⟨registry, rfl, List.forall_mem_nil _, fun _ _ => rfl⟩
  | cons first rest ih =>
    obtain ⟨identifier, tenant⟩ := first
    obtain ⟨fresh, others⟩ := List.nodup_cons.mp distinct
    obtain ⟨⟨backend, has⟩, restPassed⟩ := List.forall_mem_cons.mp passed
    obtain ⟨after, registered, onOwn, kept⟩ :=
      ih others restPassed ⟨Assoc.put identifier backend registry.entries⟩
    refine ⟨after, ?_, ?_, ?_⟩
    · simp only [registerAll, Traced.bind_result_eq_ok, Traced.liftM_result, Registry.register]
      exact ⟨backend, has, _, rfl, registered⟩
    · intro entry member answer answered
      rcases List.mem_cons.mp member with rfl | later
      · obtain rfl : backend = answer := by simpa [has] using answered
        rw [kept identifier fresh, Assoc.lookup_put_self]
      · exact onOwn entry later answer answered
    · intro sought absent
      obtain ⟨differs, absentLater⟩ : sought ≠ identifier ∧ sought ∉ rest.map (·.1) := by
        simpa using absent
      rw [kept sought absentLater, Assoc.lookup_put_of_ne differs]

/-- A tenant of the settings is bound with the backend its settings give it. -/
theorem tenantBackend_of_mem (member : (identifier, tenant) ∈ settings.tenants) :
    settings.tenantBackend identifier = backendOf identifier tenant := by
  simp [Settings.tenantBackend, Settings.tenant, Assoc.lookup_of_mem settings.distinct member, bind, Except.bind]

/-- The tenant bound for an identifier of accepted settings has the backend of
its settings for its own, and the offset of its timezone or the default one. -/
theorem tenantFor_of_mem (valid : settings.validate = .ok ()) {default : Offset}
    (zone : settings.defaultTimezone = .ok default)
    (member : (identifier, tenant) ∈ settings.tenants) :
    ∃ backend offset, settings.tenantBackend identifier = .ok backend ∧
      settings.tenantFor identifier = .ok { identifier, backend := some backend, timezone := offset } ∧
      match tenant.timezone with
      | some timezone => Offset.parse timezone = .ok offset
      | none => offset = default := by
  obtain ⟨-, -, passed, -⟩ := validate_iff.mp valid
  obtain ⟨⟨backend, has⟩, reads⟩ := validateTenant_iff.mp (passed _ member)
  have own : settings.tenantBackend identifier = .ok backend := (tenantBackend_of_mem member).trans has
  have found : settings.tenant identifier = .ok tenant := by
    rw [Settings.tenant, Assoc.lookup_of_mem settings.distinct member]
  obtain ⟨offset, known, agrees⟩ : ∃ offset, settings.timezoneOf tenant = .ok offset ∧
      match tenant.timezone with
      | some timezone => Offset.parse timezone = .ok offset
      | none => offset = default := by
    cases named : tenant.timezone with
    | some timezone =>
      obtain ⟨offset, read⟩ := reads timezone named
      exact ⟨offset, by rw [Settings.timezoneOf, named]; exact read, read⟩
    | none => exact ⟨default, by rw [Settings.timezoneOf, named]; exact zone, rfl⟩
  refine ⟨backend, offset, own, ?_, agrees⟩
  simp only [Settings.tenantFor, bind_eq_ok]
  exact ⟨tenant, found, offset, known, backend, own, rfl⟩

/-- A tenant that is not in the settings cannot be bound from them. -/
theorem tenantFor_of_notMem (absent : identifier ∉ settings.tenants.map (·.1)) :
    settings.tenantFor identifier = .error (.unknownTenant identifier) := by
  simp [Settings.tenantFor, Settings.tenant, Assoc.lookup_of_notMem absent, bind, Except.bind]

/-- Building from accepted settings gives a resolver with every tenant on its
own backend and nobody else, and a clock in the default timezone. -/
theorem build_of_valid (valid : settings.validate = .ok ()) :
    ∃ default zone registry, settings.defaultBackend = .ok default ∧ settings.defaultTimezone = .ok zone ∧
      settings.build.result = .ok (.tenants default registry, .system zone) ∧
      (∀ entry ∈ settings.tenants, ∀ backend, backendOf entry.1 entry.2 = .ok backend →
        registry.entries.lookup entry.1 = some backend) ∧
      ∀ identifier ∉ settings.tenants.map (·.1), registry.entries.lookup identifier = none := by
  obtain ⟨⟨default, fallback⟩, ⟨zone, read⟩, passed, -⟩ := validate_iff.mp valid
  obtain ⟨registry, registered, onOwn, kept⟩ := registerAll_result settings.distinct
    (fun entry member => (validateTenant_iff.mp (passed entry member)).1) .empty
  refine ⟨default, zone, registry, fallback, read, ?_, onOwn, kept⟩
  simp only [Settings.build, Settings.buildResolver, Settings.buildClock, Traced.bind_result_eq_ok,
    Traced.liftM_result]
  exact ⟨_, ⟨default, fallback, registry, registered, rfl⟩, .system zone, by rw [read]; rfl, rfl⟩

end TenantSql.AcceptedSettings
