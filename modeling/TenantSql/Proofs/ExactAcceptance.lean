import TenantSql.Proofs.AcceptedSettings

/-! Accepting settings is exact. They pass if and only if everything that is
made of them later can be made, in whatever order their tenants are visited;
the order decides at most which of several faulty tenants is reported. -/
namespace TenantSql.ExactAcceptance
open Settings Outcomes AcceptedSettings

variable {settings : Settings} {identifier field pattern : String} {tenant : TenantSettings} {error : Error}

/-- An order in which the tenants of the settings may be visited. -/
structure Visit (settings : Settings) where
  order : List (String × TenantSettings)
  all : order.Perm settings.tenants

/-- The same settings with the tenants in the order of a visit. -/
def Visit.reordered (visit : Visit settings) : Settings :=
  { settings with
    tenants := visit.order
    distinct := (visit.all.map _).nodup_iff.mpr settings.distinct }

/-- A pattern that can be used holds something, and every specifier in it is known. -/
def PatternUsable (pattern : String) : Prop :=
  pattern ≠ "" ∧ Pattern.Item.unknown ∉ Pattern.items pattern.toList

/-- Everything later use asks for: a resolver, a clock, a tenant to bind for
every identifier, and patterns to write dates with. -/
structure Usable (settings : Settings) : Prop where
  resolver : ∃ resolver, settings.buildResolver.result = .ok resolver
  clock : ∃ clock, settings.buildClock = .ok clock
  tenants : ∀ identifier ∈ settings.tenants.map (·.1), ∃ tenant, settings.tenantFor identifier = .ok tenant
  date : PatternUsable settings.formats.date
  dateTime : PatternUsable settings.formats.dateTime

/-- What a tenant can be refused for. Its timezone is looked at after its
backend; the fault of the timezone keeps its code behind the context. -/
inductive TenantFault (identifier : String) (tenant : TenantSettings) (error : Error) : Prop where
  | backend (failed : backendOf identifier tenant = .error error)
  | timezone {backend : Backend} {timezone : String} {cause : Error}
      (has : backendOf identifier tenant = .ok backend) (own : tenant.timezone = some timezone)
      (failed : Offset.parse timezone = .error cause)
      (seen : error = .within ("Invalid timezone for tenant '" ++ identifier ++ "'") cause)
      (code : error.code = "E_INVALID_TIMEZONE")

/-- The errors that settings can be refused with. Each constructor says what has
passed before; among faulty tenants there is no order. -/
inductive Refusal (settings : Settings) (error : Error) : Prop where
  | defaultBackend (failed : settings.defaultBackend = .error error)
  | defaultTimezone {default : Backend} (backend : settings.defaultBackend = .ok default)
      (failed : settings.defaultTimezone = .error error)
  | tenant {default : Backend} {zone : Offset} {identifier : String} {tenant : TenantSettings}
      (backend : settings.defaultBackend = .ok default) (timezone : settings.defaultTimezone = .ok zone)
      (member : (identifier, tenant) ∈ settings.tenants) (fault : TenantFault identifier tenant error)
  | date {default : Backend} {zone : Offset}
      (backend : settings.defaultBackend = .ok default) (timezone : settings.defaultTimezone = .ok zone)
      (tenants : ∀ entry ∈ settings.tenants, ∀ fault, ¬ TenantFault entry.1 entry.2 fault)
      (failed : Formats.checkPattern "formats.date" settings.formats.date = .error error)
  | dateTime {default : Backend} {zone : Offset}
      (backend : settings.defaultBackend = .ok default) (timezone : settings.defaultTimezone = .ok zone)
      (tenants : ∀ entry ∈ settings.tenants, ∀ fault, ¬ TenantFault entry.1 entry.2 fault)
      (date : PatternUsable settings.formats.date)
      (failed : Formats.checkPattern "formats.date_time" settings.formats.dateTime = .error error)

theorem checkPattern_iff : Formats.checkPattern field pattern = .ok () ↔ PatternUsable pattern := by
  unfold Formats.checkPattern PatternUsable
  by_cases empty : pattern = ""
  · simp [empty]
  · have held : pattern.isEmpty = false := by simpa using empty
    by_cases known : Pattern.Item.unknown ∈ Pattern.items pattern.toList <;>
      simp [held, empty, known, Pattern.isKnown]

/-- Whatever a text is refused as a timezone for has the code of timezones. -/
theorem parse_error_code {timezone : String} (failed : Offset.parse timezone = .error error) :
    error.code = "E_INVALID_TIMEZONE" := by
  unfold Offset.parse at failed
  dsimp only at failed
  split at failed
  · cases failed
  · cases failed
    rfl

theorem validateTenant_eq_error :
    validateTenant identifier tenant = .error error ↔ TenantFault identifier tenant error := by
  constructor
  · intro refused
    rcases bind_eq_error.mp refused with failed | ⟨backend, has, later⟩
    · exact TenantFault.backend failed
    · cases own : tenant.timezone with
      | none => simp [own, pure, Except.pure] at later
      | some timezone =>
        cases read : Offset.parse timezone with
        | ok offset =>
          simp [own, read, bind, Except.bind, pure, Except.pure] at later
        | error cause =>
          have wrapped : Error.within ("Invalid timezone for tenant '" ++ identifier ++ "'") cause = error := by
            simpa [own, read, bind, Except.bind] using later
          subst wrapped
          have code : cause.code = "E_INVALID_TIMEZONE" := parse_error_code read
          exact TenantFault.timezone has own read rfl code
  · rintro (failed | ⟨has, own, failed, rfl, -⟩)
    · simp [validateTenant, failed, bind, Except.bind]
    · simp [validateTenant, has, own, failed, bind, Except.bind]

theorem validateTenant_eq_ok :
    validateTenant identifier tenant = .ok () ↔ ∀ fault, ¬ TenantFault identifier tenant fault := by
  simp only [← validateTenant_eq_error]
  cases validateTenant identifier tenant with
  | ok nothing => simp
  | error fault => simp

namespace Visit

variable (visit : Visit settings)

theorem mem_iff {entry : String × TenantSettings} : entry ∈ visit.reordered.tenants ↔ entry ∈ settings.tenants :=
  visit.all.mem_iff

theorem validate_iff : visit.reordered.validate = .ok () ↔ settings.validate = .ok () := by
  simp only [AcceptedSettings.validate_iff, visit.mem_iff]
  exact Iff.rfl

/-- What can be reported on one visit can be reported on any. -/
theorem refusal (refusal : Refusal visit.reordered error) : Refusal settings error := by
  cases refusal with
  | defaultBackend failed => exact Refusal.defaultBackend failed
  | defaultTimezone backend failed => exact Refusal.defaultTimezone backend failed
  | tenant backend timezone member fault =>
    exact Refusal.tenant backend timezone (visit.mem_iff.mp member) fault
  | date backend timezone tenants failed =>
    exact Refusal.date backend timezone (fun entry member => tenants entry (visit.mem_iff.mpr member)) failed
  | dateTime backend timezone tenants date failed =>
    exact Refusal.dateTime backend timezone (fun entry member => tenants entry (visit.mem_iff.mpr member))
      date failed

/-- The visit that begins with one of the tenants. -/
def startingWith {entry : String × TenantSettings} (member : entry ∈ settings.tenants) : Visit settings where
  order := entry :: settings.tenants.erase entry
  all := (List.perm_cons_erase member).symm

end Visit

/-- What can be made of accepted settings is all that is made of them later. -/
theorem usable_of_valid (valid : settings.validate = .ok ()) : Usable settings := by
  obtain ⟨default, zone, registry, -, read, made, -⟩ := build_of_valid valid
  obtain ⟨-, -, -, date, dateTime⟩ := validate_iff.mp valid
  obtain ⟨resolver, built, -⟩ := Traced.bind_result_eq_ok.mp made
  refine ⟨⟨resolver, built⟩, ⟨.system zone, by rw [buildClock, read]; rfl⟩, ?_,
    checkPattern_iff.mp date, checkPattern_iff.mp dateTime⟩
  intro identifier listed
  obtain ⟨⟨_, tenant⟩, member, rfl⟩ := List.mem_map.mp listed
  obtain ⟨backend, offset, -, found, -⟩ := tenantFor_of_mem valid read member
  exact ⟨_, found⟩

/-- A tenant that can be bound passes. -/
theorem validateTenant_of_bound (member : (identifier, tenant) ∈ settings.tenants) {bound : Tenant}
    (found : settings.tenantFor identifier = .ok bound) : validateTenant identifier tenant = .ok () := by
  have known : settings.tenant identifier = .ok tenant := by
    rw [Settings.tenant, Assoc.lookup_of_mem settings.distinct member]
  simp only [Settings.tenantFor, bind_eq_ok] at found
  obtain ⟨same, looked, offset, zone, backend, has, -⟩ := found
  obtain rfl : tenant = same := Except.ok.inj (known.symm.trans looked)
  refine validateTenant_iff.mpr ⟨⟨backend, (tenantBackend_of_mem member).symm.trans has⟩, ?_⟩
  intro timezone own
  rw [Settings.timezoneOf, Option.mem_def.mp own] at zone
  exact ⟨offset, zone⟩

theorem valid_of_usable (usable : Usable settings) : settings.validate = .ok () := by
  obtain ⟨resolver, built⟩ := usable.resolver
  obtain ⟨default, fallback, -⟩ := Traced.bind_result_eq_ok.mp built
  obtain ⟨clock, made⟩ := usable.clock
  refine validate_iff.mpr ⟨⟨default, fallback⟩, ?_, ?_,
    checkPattern_iff.mpr usable.date, checkPattern_iff.mpr usable.dateTime⟩
  · cases read : settings.defaultTimezone with
    | ok zone => exact ⟨zone, rfl⟩
    | error fault => simp [buildClock, read, Except.map] at made
  · intro entry member
    obtain ⟨bound, found⟩ := usable.tenants entry.1 (List.mem_map_of_mem member)
    exact validateTenant_of_bound member found

/-- The reported error is the first one: of the tenants, that of the first
faulty one in the order in which they stand. -/
theorem validate_eq_error : settings.validate = .error error ↔
    settings.defaultBackend = .error error ∨
    ∃ default, settings.defaultBackend = .ok default ∧
    (settings.defaultTimezone = .error error ∨
    ∃ zone, settings.defaultTimezone = .ok zone ∧
    ((∃ before entry after, settings.tenants = before ++ entry :: after ∧
        (∀ earlier ∈ before, validateTenant earlier.1 earlier.2 = .ok ()) ∧
        TenantFault entry.1 entry.2 error) ∨
    (∀ entry ∈ settings.tenants, validateTenant entry.1 entry.2 = .ok ()) ∧
    (Formats.checkPattern "formats.date" settings.formats.date = .error error ∨
    Formats.checkPattern "formats.date" settings.formats.date = .ok () ∧
      Formats.checkPattern "formats.date_time" settings.formats.dateTime = .error error))) := by
  simp only [Settings.validate, bind_eq_error, forM_eq_error, exists_and_right, passes_iff, forM_eq_ok,
    validateTenant_eq_error]

theorem refusal_of_error (refused : settings.validate = .error error) : Refusal settings error := by
  rcases validate_eq_error.mp refused with failed | ⟨default, backend, later⟩
  · exact Refusal.defaultBackend failed
  rcases later with failed | ⟨zone, timezone, later⟩
  · exact Refusal.defaultTimezone backend failed
  rcases later with ⟨before, entry, after, split, -, fault⟩ | ⟨passed, later⟩
  · exact Refusal.tenant backend timezone (split ▸ by simp) fault
  have tenants : ∀ entry ∈ settings.tenants, ∀ fault, ¬ TenantFault entry.1 entry.2 fault :=
    fun entry member => validateTenant_eq_ok.mp (passed entry member)
  rcases later with failed | ⟨date, failed⟩
  · exact Refusal.date backend timezone tenants failed
  · exact Refusal.dateTime backend timezone tenants (checkPattern_iff.mp date) failed

/-- Each refusal is reported on some visit: that of a tenant on one that begins
with this tenant, any other on every visit. -/
theorem error_of_refusal (refusal : Refusal settings error) :
    ∃ visit : Visit settings, visit.reordered.validate = .error error := by
  have inPlace : Visit settings := ⟨settings.tenants, List.Perm.refl _⟩
  cases refusal with
  | defaultBackend failed => exact ⟨inPlace, validate_eq_error.mpr (Or.inl failed)⟩
  | defaultTimezone backend failed =>
    exact ⟨inPlace, validate_eq_error.mpr (Or.inr ⟨_, backend, Or.inl failed⟩)⟩
  | tenant backend timezone member fault =>
    refine ⟨Visit.startingWith member, validate_eq_error.mpr (Or.inr ⟨_, backend, Or.inr ⟨_, timezone, ?_⟩⟩)⟩
    exact Or.inl ⟨[], _, _, rfl, List.forall_mem_nil _, fault⟩
  | date backend timezone tenants failed =>
    refine ⟨inPlace, validate_eq_error.mpr (Or.inr ⟨_, backend, Or.inr ⟨_, timezone, Or.inr ?_⟩⟩)⟩
    refine ⟨?_, Or.inl failed⟩
    intro entry member
    exact validateTenant_eq_ok.mpr (tenants entry (inPlace.mem_iff.mp member))
  | dateTime backend timezone tenants date failed =>
    refine ⟨inPlace, validate_eq_error.mpr (Or.inr ⟨_, backend, Or.inr ⟨_, timezone, Or.inr ?_⟩⟩)⟩
    refine ⟨?_, Or.inr ⟨?_, failed⟩⟩
    · intro entry member
      exact validateTenant_eq_ok.mpr (tenants entry (inPlace.mem_iff.mp member))
    · exact checkPattern_iff.mpr date

/-- Settings pass on a visit of their tenants if and only if all that later use
asks for can be had, on the same visit or on any other. If they do not pass, the
error is one of those above, and each of those is reported on some visit. -/
theorem validate_exact (settings : Settings) :
    (∀ checked used : Visit settings, checked.reordered.validate = .ok () ↔ Usable used.reordered) ∧
    ∀ error, (∃ visit : Visit settings, visit.reordered.validate = .error error) ↔ Refusal settings error := by
  constructor
  · intro checked used
    rw [checked.validate_iff, ← used.validate_iff]
    exact ⟨usable_of_valid, valid_of_usable⟩
  · intro error
    constructor
    · rintro ⟨visit, refused⟩
      exact visit.refusal (refusal_of_error refused)
    · exact error_of_refusal

end TenantSql.ExactAcceptance
