import Mathlib.Data.List.Sort
import TenantSql.Proofs.ExactAcceptance
import TenantSql.Proofs.ScopeHistory

/-! The registry is what its history makes it. It holds of each tenant the last thing
that was said of it, and since its entries stand in the order of the identifiers, it is
one and the same registry whenever it holds the same. So it cannot tell in which order
two tenants came or went, and settings give one registry however their tenants are
visited. -/
namespace TenantSql.RegistryHistory
open Session ScopeHistory Settings AcceptedSettings ExactAcceptance

variable {α : Type} {map other : List (String × α)} {registry after : Registry} {identifier another : String}
  {step next : Step} {default : Backend} {desk : Desk} {session : Session} {history : History}
  {settings : Settings} {tenants : List (String × TenantSettings)}

/-- A step by which this tenant comes or goes. -/
inductive Concerns (identifier : String) : Step → Prop where
  | register (backend : Backend) : Concerns identifier (.register identifier backend)
  | unregister : Concerns identifier (.unregister identifier)

/-- The answer to the question for the backend of a tenant that is on it, or on none. -/
def told (identifier : String) : Option Backend → Except Error Reply
  | some backend => .ok (.backend (some backend))
  | none => .error (.unknownTenant identifier)

/-- The registry lists each tenant once for which this gives a backend, and no other. -/
structure Lists (registry : Registry) (held : String → Option Backend) : Prop where
  once : registry.identifiers.Nodup
  all : ∀ identifier, identifier ∈ registry.identifiers ↔ ∃ backend, held identifier = some backend
  counted : registry.count = registry.identifiers.length

/-! ### Ordered entries -/

/-- Entries in order are told by what is found under each key. -/
theorem ascending_ext (ascending : Assoc.Ascending map) (ascending' : Assoc.Ascending other)
    (same : ∀ key, map.lookup key = other.lookup key) : map = other := by
  have irrefl : Std.Irrefl fun first second : String × α => first.1 < second.1 :=
    ⟨fun pair => String.lt_irrefl pair.1⟩
  have antisymm : Std.Antisymm fun first second : String × α => first.1 < second.1 :=
    ⟨fun first second less more => absurd (String.lt_trans less more) (String.lt_irrefl first.1)⟩
  refine ascending.eq_of_mem_iff ascending' fun (key, value) => ?_
  rw [Assoc.mem_iff_lookup ascending.distinct, Assoc.mem_iff_lookup ascending'.distinct, same]

theorem registry_ext (ascending : Assoc.Ascending registry.entries) (ascending' : Assoc.Ascending after.entries)
    (same : ∀ identifier, registry.entries.lookup identifier = after.entries.lookup identifier) :
    registry = after :=
  congrArg Registry.mk (ascending_ext ascending ascending' same)

theorem lists_of_lookup {held : String → Option Backend} (ascending : Assoc.Ascending registry.entries)
    (known : ∀ identifier, registry.entries.lookup identifier = held identifier) : Lists registry held := by
  refine ⟨ascending.distinct, fun identifier => ?_, (List.length_map ..).symm⟩
  simp only [Registry.identifiers, List.mem_map, Prod.exists, exists_and_right, exists_eq_right,
    Assoc.mem_iff_lookup ascending.distinct, known]

/-! ### Steps -/

theorem after_ascending (ascending : Assoc.Ascending registry.entries) (step : Step) :
    Assoc.Ascending (registry.after step).entries := by
  cases step with
  | register identifier backend => exact Assoc.put_ascending _ _ ascending
  | unregister identifier => exact ascending.filter _
  | _ => exact ascending

/-- Nothing is said of other tenants. -/
theorem Concerns.verdict_eq_none (concerns : Concerns identifier step) (differ : another ≠ identifier) :
    verdict another step = none := by
  cases concerns with
  | register backend => exact if_neg (Ne.symm differ)
  | unregister => exact if_neg (Ne.symm differ)

/-- Steps that concern different tenants have the same effect in either order. -/
theorem after_comm (ascending : Assoc.Ascending registry.entries) (first : Concerns identifier step)
    (second : Concerns another next) (differ : identifier ≠ another) :
    (registry.after step).after next = (registry.after next).after step := by
  refine registry_ext (after_ascending (after_ascending ascending _) _)
    (after_ascending (after_ascending ascending _) _) fun key => ?_
  simp only [lookup_after]
  by_cases same : key = identifier
  · have silent : verdict key next = none := second.verdict_eq_none (same ▸ differ)
    rw [silent, Option.getD_none, Option.getD_none]
  · have silent : verdict key step = none := first.verdict_eq_none same
    rw [silent, Option.getD_none, Option.getD_none]

/-- Registering and removing change the registry at the desk and nothing else. -/
theorem step_concerns (resolver : session.desk.resolver = .tenants default registry)
    (concerns : Concerns identifier step) (instant : Instant) :
    (session.step instant step).2 =
      session.withDesk { session.desk with resolver := .tenants default (registry.after step) } := by
  have stepped : (session.step instant step).2 = session.withDesk (session.desk.after step) := by
    cases concerns <;> rfl
  rw [stepped]
  cases concerns <;> simp only [Desk.after, Desk.registry, Desk.withRegistry, resolver]

/-- Two steps that concern different tenants may be exchanged. -/
theorem steps_comm (resolver : session.desk.resolver = .tenants default registry)
    (ascending : Assoc.Ascending registry.entries) (first : Concerns identifier step)
    (second : Concerns another next) (differ : identifier ≠ another) (instant moment : Instant) :
    session.run [(instant, step), (moment, next)] = session.run [(instant, next), (moment, step)] := by
  simp only [run_cons, run_nil]
  rw [step_concerns resolver first, step_concerns resolver second, step_concerns rfl second, step_concerns rfl first]
  simp only [withDesk, after_comm ascending first second differ]

/-! ### Runs -/

theorem run_ascending (resolver : session.desk.resolver = .tenants default registry)
    (ascending : Assoc.Ascending registry.entries) (kept : ∀ entry ∈ history, entry.2.exchangesResolver = false) :
    ∃ after : Registry, (session.run history).desk.resolver = .tenants default after ∧
      Assoc.Ascending after.entries := by
  induction history generalizing session registry with
  | nil => exact ⟨registry, resolver, ascending⟩
  | cons first rest ih =>
    obtain ⟨instant, step⟩ := first
    obtain ⟨stepKept, restKept⟩ := List.forall_mem_cons.mp kept
    exact ih (step_resolver resolver stepKept) (after_ascending ascending step) restKept

/-- After every run in which the resolver stays in place, the registry is in order and
holds of each tenant what the history says. -/
theorem run_registered (kept : ∀ entry ∈ history, entry.2.exchangesResolver = false) :
    ∃ registry : Registry, ((fresh default desk).run history).desk.resolver = .tenants default registry ∧
      Assoc.Ascending registry.entries ∧
      ∀ identifier, registry.entries.lookup identifier = registered identifier history := by
  have nobody : (fresh default desk).desk.resolver = .tenants default .empty := rfl
  obtain ⟨registry, resolver, known⟩ := run_registry nobody kept
  obtain ⟨same, resolver', ascending⟩ := run_ascending nobody List.Pairwise.nil kept
  obtain rfl : registry = same := by simpa using resolver.symm.trans resolver'
  refine ⟨registry, resolver, ascending, fun identifier => ?_⟩
  rw [known, registered]
  cases lastVerdict identifier history <;> rfl

theorem step_backendFor (resolver : session.desk.resolver = .tenants default registry) (instant : Instant)
    (identifier : String) : (session.step instant (.backendFor identifier)).1.result =
      told identifier (registry.entries.lookup identifier) := by
  simp only [Session.step, Session.act, Desk.registry, resolver, Registry.backendFor]
  cases registry.entries.lookup identifier <;> rfl

theorem step_unregister (resolver : session.desk.resolver = .tenants default registry) (instant : Instant)
    (identifier : String) : (session.step instant (.unregister identifier)).1.result =
      .ok (.backend (registry.entries.lookup identifier)) := by
  simp only [Session.step, Session.act, Desk.registry, resolver]
  rfl

theorem step_tenants (resolver : session.desk.resolver = .tenants default registry) (instant : Instant) :
    (session.step instant .tenants).1.result = .ok (.registry default registry) := by
  simp only [Session.step, Session.act, Desk.registry, resolver]
  rfl

/-! ### Settings -/

theorem registerAll_ascending (ascending : Assoc.Ascending registry.entries)
    (made : (registerAll registry tenants).result = .ok after) : Assoc.Ascending after.entries := by
  induction tenants generalizing registry with
  | nil =>
    obtain rfl : registry = after := Except.ok.inj made
    exact ascending
  | cons first rest ih =>
    simp only [registerAll, Traced.bind_result_eq_ok, Registry.register] at made
    obtain ⟨backend, -, _, put, later⟩ := made
    obtain rfl := Except.ok.inj put
    exact ih (Assoc.put_ascending _ _ ascending) later

/-- What accepted settings build, however their tenants are visited, is one registry,
in order and with each tenant on the backend of its settings. -/
theorem buildResolver_of_valid (valid : settings.validate = .ok ()) :
    ∃ default registry, settings.defaultBackend = .ok default ∧
      settings.buildResolver.result = .ok (.tenants default registry) ∧ Assoc.Ascending registry.entries ∧
      ∀ identifier, registry.backendFor identifier = settings.tenantBackend identifier := by
  obtain ⟨⟨default, fallback⟩, -, passed, -⟩ := validate_iff.mp valid
  obtain ⟨registry, registered, onOwn, others⟩ := registerAll_result settings.distinct
    (fun entry member => (validateTenant_iff.mp (passed entry member)).1) .empty
  refine ⟨default, registry, fallback, ?_, registerAll_ascending List.Pairwise.nil registered, fun identifier => ?_⟩
  · simp only [Settings.buildResolver, Traced.bind_result_eq_ok, Traced.liftM_result]
    exact ⟨default, fallback, registry, registered, rfl⟩
  · by_cases configured : identifier ∈ settings.tenants.map (·.1)
    · obtain ⟨⟨_, tenant⟩, member, rfl⟩ := List.mem_map.mp configured
      obtain ⟨backend, has⟩ := (validateTenant_iff.mp (passed _ member)).1
      rw [Registry.backendFor, onOwn _ member backend has, tenantBackend_of_mem member, has]
    · simp only [Registry.backendFor, others _ configured, Registry.empty, List.lookup_nil, Settings.tenantBackend,
        Settings.tenant, Assoc.lookup_of_notMem configured]
      rfl

theorem toOption_backendFor (registry : Registry) (identifier : String) :
    (registry.backendFor identifier).toOption = registry.entries.lookup identifier := by
  unfold Registry.backendFor
  cases registry.entries.lookup identifier <;> rfl

/-- A tenant has the backend of its settings on any visit. -/
theorem Visit.tenantBackend_eq (visit : Visit settings) (identifier : String) :
    visit.reordered.tenantBackend identifier = settings.tenantBackend identifier := by
  have found : visit.reordered.tenants.lookup identifier = settings.tenants.lookup identifier := by
    refine Option.ext fun tenant => ?_
    rw [← Assoc.mem_iff_lookup visit.reordered.distinct, ← Assoc.mem_iff_lookup settings.distinct, visit.mem_iff]
  simp only [Settings.tenantBackend, Settings.tenant, found]

/-- The order of a visit is not seen in what is built. -/
theorem Visit.buildResolver_eq (visit : Visit settings) (valid : settings.validate = .ok ()) :
    visit.reordered.buildResolver.result = settings.buildResolver.result := by
  obtain ⟨default, registry, fallback, built, ascending, same⟩ := buildResolver_of_valid valid
  obtain ⟨default', registry', fallback', built', ascending', same'⟩ :=
    buildResolver_of_valid (visit.validate_iff.mpr valid)
  obtain rfl : default' = default := Except.ok.inj (fallback'.symm.trans fallback)
  have alike : registry' = registry := by
    refine registry_ext ascending' ascending fun identifier => ?_
    rw [← toOption_backendFor, ← toOption_backendFor, same', same, Visit.tenantBackend_eq]
  rw [built', built, alike]

theorem identifiers_perm (valid : settings.validate = .ok ()) (ascending : Assoc.Ascending registry.entries)
    (same : ∀ identifier, registry.backendFor identifier = settings.tenantBackend identifier) :
    registry.identifiers.Perm (settings.tenants.map (·.1)) := by
  have listed := lists_of_lookup ascending fun identifier => (toOption_backendFor registry identifier).symm
  refine (List.perm_ext_iff_of_nodup listed.once settings.distinct).mpr fun identifier => ?_
  rw [listed.all, same]
  by_cases configured : identifier ∈ settings.tenants.map (·.1)
  · obtain ⟨-, -, passed, -⟩ := validate_iff.mp valid
    obtain ⟨⟨_, tenant⟩, member, rfl⟩ := List.mem_map.mp configured
    obtain ⟨backend, has⟩ := (validateTenant_iff.mp (passed _ member)).1
    simp only [tenantBackend_of_mem member, has, configured, iff_true]
    exact ⟨backend, rfl⟩
  · have unknown : settings.tenantBackend identifier = .error (.unknownTenant identifier) := by
      simp only [Settings.tenantBackend, Settings.tenant, Assoc.lookup_of_notMem configured]
      rfl
    simp [unknown, configured, Except.toOption]

/-- After every history at a desk that began with nobody registered, in which the
resolver stays in place: the backend of a tenant is the one it was last registered on,
if it was not removed since, and the tenant is unknown otherwise; removing it gives back
that backend or none; and all tenants that are registered are listed, each once, and
counted. Two steps by which different tenants come or go may be exchanged where they
follow one another, and no answer given later is another. Settings that are accepted
build a registry of their tenants and no others, each on its own backend, and the same
one whatever the order in which the tenants are visited. -/
theorem registry_told_by_history :
    (∀ default desk history, (∀ entry ∈ history, entry.2.exchangesResolver = false) →
      let session := (fresh default desk).run history
      (∀ instant identifier, (session.step instant (.backendFor identifier)).1.result =
        told identifier (registered identifier history)) ∧
      (∀ instant identifier, (session.step instant (.unregister identifier)).1.result =
        .ok (.backend (registered identifier history))) ∧
      (∃ registry, (∀ instant, (session.step instant .tenants).1.result = .ok (.registry default registry)) ∧
        Lists registry fun identifier => registered identifier history) ∧
      ∀ identifier another one other, Concerns identifier one → Concerns another other → identifier ≠ another →
        ∀ instant moment future later step,
          ((session.run ((instant, one) :: (moment, other) :: future)).step later step).1 =
            ((session.run ((instant, other) :: (moment, one) :: future)).step later step).1) ∧
    ∀ settings : Settings, settings.validate = .ok () →
      ∃ default registry, settings.defaultBackend = .ok default ∧
        (∀ visit : Visit settings, visit.reordered.buildResolver.result = .ok (.tenants default registry)) ∧
        registry.identifiers.Perm (settings.tenants.map (·.1)) ∧
        ∀ identifier, registry.backendFor identifier = settings.tenantBackend identifier := by
  refine ⟨fun default desk history kept => ?_, fun settings valid => ?_⟩
  · intro session
    obtain ⟨registry, resolver, ascending, known⟩ := @run_registered default desk history kept
    refine ⟨?_, ?_, ⟨registry, step_tenants resolver, lists_of_lookup ascending known⟩, ?_⟩
    · intro instant identifier
      rw [step_backendFor resolver, known]
    · intro instant identifier
      rw [step_unregister resolver, known]
    · intro identifier another one other first second differ instant moment future later step
      have exchanged := steps_comm resolver ascending first second differ instant moment
      simp only [run_cons, run_nil] at exchanged ⊢
      rw [exchanged]
  · obtain ⟨default, registry, fallback, built, ascending, same⟩ := buildResolver_of_valid valid
    refine ⟨default, registry, fallback, fun visit => ?_, identifiers_perm valid ascending same, same⟩
    rw [Visit.buildResolver_eq visit valid, built]

/-- A tenant registered twice, one removed twice, and a removal and a registration in
either order; and two tenants of settings, visited from either end. -/
theorem moved_and_removed_told_by_history :
    let desk : Desk := ⟨.fixed .sqlite, .system .utc, .shared {}, {}⟩
    let history : History := [(.epoch, .register "acme" .mysql), (.epoch, .register "globex" .sqlite),
      (.epoch, .register "acme" .mariadb), (.epoch, .unregister "globex"), (.epoch, .resolve)]
    let session := (fresh .postgres desk).run history
    let settings : Settings := {
      database := { backend := some .postgres },
      tenants := [("globex", { url := some "sqlite:globex" }), ("acme", { backend := some .mariadb })] }
    (∀ entry ∈ history, entry.2.exchangesResolver = false) ∧
      (session.step .epoch (.backendFor "acme")).1.result = .ok (.backend (some .mariadb)) ∧
      (session.step .epoch (.backendFor "globex")).1.result = .error (.unknownTenant "globex") ∧
      (session.step .epoch (.unregister "globex")).1.result = .ok (.backend none) ∧
      ((session.run [(.epoch, .unregister "acme"), (.epoch, .register "globex" .mysql)]).step .epoch .tenants).1 =
        ((session.run [(.epoch, .register "globex" .mysql), (.epoch, .unregister "acme")]).step .epoch .tenants).1 ∧
      settings.validate = .ok () ∧
      ∃ registry, registry.identifiers.Perm ["globex", "acme"] ∧
        ∀ visit : Visit settings, visit.reordered.buildResolver.result = .ok (.tenants .postgres registry) := by
  intro desk history session settings
  have kept : ∀ entry ∈ history, entry.2.exchangesResolver = false := by decide
  have passed : settings.validate.isOk = true := by decide +kernel
  have valid : settings.validate = .ok () := by
    cases checked : settings.validate with
    | ok => rfl
    | error fault => rw [checked] at passed; cases passed
  obtain ⟨backends, removals, -, exchange⟩ := registry_told_by_history.1 .postgres desk history kept
  obtain ⟨default, registry, fallback, built, listed, -⟩ := registry_told_by_history.2 settings valid
  obtain rfl : Backend.postgres = default := Except.ok.inj fallback
  exact ⟨kept, backends .epoch "acme", backends .epoch "globex", removals .epoch "globex",
    exchange "acme" "globex" _ _ .unregister (.register .mysql) (by decide) .epoch .epoch [] .epoch .tenants,
    valid, registry, listed, built⟩

end TenantSql.RegistryHistory
