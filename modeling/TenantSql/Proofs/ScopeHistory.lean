import TenantSql.Proofs.SessionRun

/-! What a session answers about its backend is fixed by what was done in it:
the scopes entered and not yet left, and the registrations made and taken
back. The target is read off the history without any session; the proof
carries a worker whose guards, one below the other, hold exactly the scopes
that are still open. -/
namespace TenantSql.ScopeHistory
open Session

variable {session : Session} {instant : Instant} {step : Step} {history past block : History}
variable {scopes : List (String × Scope)} {default : Backend} {desk : Desk}

/-- The scopes that are open after one more step, the latest first. Dropping a
guard closes the latest scope entered under its name. -/
def reopened (scopes : List (String × Scope)) : Step → List (String × Scope)
  | .enter name scope => (name, scope) :: scopes
  | .exit name => scopes.eraseP (·.1 == name)
  | _ => scopes

/-- The scopes that were entered in a history and not left again, on top of
those that were open before it. -/
def openedOver (scopes : List (String × Scope)) (history : History) : List (String × Scope) :=
  history.foldl (fun scopes (_, step) => reopened scopes step) scopes

/-- The scopes that are open after a history that started without any. -/
abbrev openScopes (history : History) : List (String × Scope) := openedOver [] history

@[simp] theorem openedOver_nil : openedOver scopes [] = scopes := rfl

@[simp] theorem openedOver_cons : openedOver scopes ((instant, step) :: history) =
    openedOver (reopened scopes step) history := rfl

@[simp] theorem openedOver_append : openedOver scopes (past ++ block) =
    openedOver (openedOver scopes past) block := List.foldl_append

/-- A step of a nested history: only the guard of the latest open scope is
dropped, and the resolver on the desk stays in place. -/
def InOrder (scopes : List (String × Scope)) : Step → Prop
  | .exit name => scopes.head?.map (·.1) = some name
  | step => step.exchangesResolver = false

/-- Guards are dropped in the reverse of the order in which they were made. -/
def NestedOver (scopes : List (String × Scope)) : History → Prop
  | [] => True
  | (_, step) :: rest => InOrder scopes step ∧ NestedOver (reopened scopes step) rest

theorem nestedOver_append : NestedOver scopes (past ++ block) ↔
    NestedOver scopes past ∧ NestedOver (openedOver scopes past) block := by
  induction past generalizing scopes with
  | nil => simp [NestedOver]
  | cons first rest ih =>
    obtain ⟨instant, step⟩ := first
    simp [NestedOver, ih, and_assoc]

/-- A nested history that does not touch a guard from before it. -/
abbrev Nested (history : History) : Prop := NestedOver [] history

/-- The backend of the latest registration of a tenant, unless a removal came
after it. -/
def registered (identifier : String) (history : History) : Option Backend :=
  (lastVerdict identifier history).join

/-- The backend that the work has after a history: that of the latest scope
still open. -/
def expected (default : Backend) (history : History) : Except Error Backend :=
  match (openScopes history).head?.bind (·.2.tenant) with
  | none => .ok default
  | some tenant =>
    match tenant.backend, registered tenant.identifier history with
    | some backend, _ => .ok backend
    | none, some backend => .ok backend
    | none, none => .error (.unknownTenant tenant.identifier)

/-- A session that begins at a desk with nothing bound and nobody registered. -/
def fresh (default : Backend) (desk : Desk) : Session :=
  { desk := { desk with resolver := .tenants default .empty } }

/-- The answer to the question which backend the work of a session talks to. -/
def backend (session : Session) : Traced Backend :=
  session.desk.resolver.backend session.worker.bound

/-- The worker who holds a guard for each open scope and nothing else. Every
guard remembers the scope below its own. -/
def holding : List (String × Scope) → Worker
  | [] => {}
  | (name, scope) :: outer => ⟨some scope, (name, ⟨(holding outer).bound⟩) :: (holding outer).guards⟩

theorem holding_bound : (holding scopes).bound = scopes.head?.map (·.2) := by
  cases scopes <;> rfl

/-- In order, a step leaves a worker who holds exactly the open scopes with
exactly the scopes that are open then. -/
theorem holding_after (ordered : InOrder scopes step) :
    (holding scopes).after step = holding (reopened scopes step) := by
  cases step with
  | exit name =>
    cases scopes with
    | nil => simp [InOrder] at ordered
    | cons latest outer =>
      obtain ⟨held, scope⟩ := latest
      obtain rfl : held = name := by simpa [InOrder] using ordered
      simp [holding, Worker.after, reopened]
  | _ => rfl

/-- After a nested run the worker holds exactly the scopes that are open. -/
theorem run_worker (nested : NestedOver scopes history) (held : session.worker = holding scopes) :
    (session.run history).worker = holding (openedOver scopes history) := by
  induction history generalizing session scopes with
  | nil => exact held
  | cons first rest ih =>
    obtain ⟨instant, step⟩ := first
    have next : (session.step instant step).2.worker = holding (reopened scopes step) := by
      rw [step_worker, held, holding_after nested.1]
    exact ih nested.2 next

/-- A history that is nested by itself is nested over any open scopes, and
leaves them below those it opens. -/
theorem nested_over (outer : List (String × Scope)) (nested : NestedOver scopes history) :
    NestedOver (scopes ++ outer) history ∧
      openedOver (scopes ++ outer) history = openedOver scopes history ++ outer := by
  induction history generalizing scopes with
  | nil => exact ⟨trivial, rfl⟩
  | cons first rest ih =>
    obtain ⟨instant, step⟩ := first
    obtain ⟨ordered, nestedRest⟩ := nested
    have shifted : InOrder (scopes ++ outer) step ∧
        reopened (scopes ++ outer) step = reopened scopes step ++ outer := by
      cases step with
      | exit name =>
        cases scopes with
        | nil => simp [InOrder] at ordered
        | cons latest below =>
          have top : latest.1 = name := by simpa [InOrder] using ordered
          simp [InOrder, reopened, top]
      | _ => exact ⟨ordered, rfl⟩
    simp only [NestedOver, openedOver_cons, shifted.2]
    exact ⟨⟨shifted.1, (ih nestedRest).1⟩, (ih nestedRest).2⟩

private theorem verdict_registers {identifier : String} {backend : Backend} :
    verdict identifier step = some (some backend) ↔ step = .register identifier backend := by
  cases step with
  | register other named =>
    simp only [verdict, Option.ite_none_right_eq_some, Option.some.injEq, Step.register.injEq]
  | unregister other => simp [verdict]
  | _ => simp [verdict]

/-- A backend that counts as registered was named by a registration of that very
tenant, and nothing was said of the tenant since. -/
theorem registered_eq_some_iff {identifier : String} {backend : Backend} :
    registered identifier history = some backend ↔
      ∃ past instant future, history = past ++ (instant, .register identifier backend) :: future ∧
        ∀ entry ∈ future, verdict identifier entry.2 = none := by
  simp only [registered, lastVerdict, Option.join_eq_some_iff, List.findSome?_eq_some_iff]
  constructor
  · rintro ⟨since, ⟨instant, step⟩, before, reversed, said, silent⟩
    obtain rfl := verdict_registers.mp said
    refine ⟨before.reverse, instant, since.reverse, ?_, by simpa using silent⟩
    simpa using congrArg List.reverse reversed
  · rintro ⟨past, instant, future, rfl, silent⟩
    exact ⟨future.reverse, (instant, .register identifier backend), past.reverse, by simp,
      verdict_registers.mpr rfl, by simpa using silent⟩

private theorem nested_keeps_resolver (nested : NestedOver scopes history) :
    ∀ entry ∈ history, entry.2.exchangesResolver = false := by
  induction history generalizing scopes with
  | nil => simp
  | cons first rest ih =>
    obtain ⟨instant, step⟩ := first
    refine List.forall_mem_cons.mpr ⟨?_, ih nested.2⟩
    have ordered := nested.1
    cases step <;> first | rfl | exact ordered

/-- A resolver for tenants answers from the scope that is bound and from what it
holds of the tenant in it. -/
theorem backend_result {registry : Registry} {bound : Option Scope} :
    ((Resolver.tenants default registry).backend bound).result =
      match bound.bind (·.tenant) with
      | none => .ok default
      | some tenant =>
        match tenant.backend, registry.entries.lookup tenant.identifier with
        | some backend, _ => .ok backend
        | none, some backend => .ok backend
        | none, none => .error (.unknownTenant tenant.identifier) := by
  simp only [Resolver.backend, Registry.backendFor]
  cases bound.bind (·.tenant) with
  | none => rfl
  | some tenant =>
    cases own : tenant.backend with
    | some backend => simp [own]
    | none => cases held : registry.entries.lookup tenant.identifier <;> simp [own, held, Traced.failWith]

/-- After every nested run the backend is the one that the history tells. -/
theorem run_backend (nested : Nested history) :
    (backend ((fresh default desk).run history)).result = expected default history := by
  have nobody : (fresh default desk).desk.resolver = .tenants default .empty := rfl
  obtain ⟨registry, resolver, known⟩ := run_registry nobody (nested_keeps_resolver nested)
  have worker : ((fresh default desk).run history).worker = holding (openScopes history) :=
    run_worker nested rfl
  have bound : ((fresh default desk).run history).worker.bound.bind (·.tenant) =
      (openScopes history).head?.bind (·.2.tenant) := by
    rw [worker, holding_bound, Option.bind_map]
    rfl
  have held : ∀ identifier, registry.entries.lookup identifier = registered identifier history := by
    intro identifier
    rw [known, registered]
    cases lastVerdict identifier history <;> rfl
  simp only [backend, resolver, backend_result, bound, held, expected]

theorem isMySql_result {resolver : Resolver} {bound : Option Scope} :
    (resolver.isMySql bound).result = (resolver.backend bound).result.map Backend.isMySql := by
  cases answered : (resolver.backend bound).result with
  | ok answer => simp [Resolver.isMySql, Traced.bind_of_ok answered, Except.map]
  | error error => simp [Resolver.isMySql, Traced.bind_of_error answered, Except.map]

theorem isPostgres_result {resolver : Resolver} {bound : Option Scope} :
    (resolver.isPostgres bound).result = (resolver.backend bound).result.map Backend.isPostgres := by
  cases answered : (resolver.backend bound).result with
  | ok answer => simp [Resolver.isPostgres, Traced.bind_of_ok answered, Except.map]
  | error error => simp [Resolver.isPostgres, Traced.bind_of_error answered, Except.map]

/-- No backend belongs to both families. -/
theorem not_both_families {resolver : Resolver} {bound : Option Scope} :
    ¬ ((resolver.isMySql bound).result = .ok true ∧ (resolver.isPostgres bound).result = .ok true) := by
  rw [isMySql_result, isPostgres_result]
  cases (resolver.backend bound).result with
  | ok answer => cases answer <;> simp [Except.map, Backend.isMySql, Backend.isPostgres, Backend.family]
  | error error => simp [Except.map]

/-- A removal takes effect at once, also on a tenant that is bound. -/
theorem removal_noticed {registry : Registry} {tenant : Tenant}
    (resolver : session.desk.resolver = .tenants default registry)
    (bound : session.worker.bound.bind (·.tenant) = some tenant) (unset : tenant.backend = none) :
    (backend (session.step instant (.unregister tenant.identifier)).2).result =
      .error (.unknownTenant tenant.identifier) := by
  rw [backend, step_worker, step_resolver resolver rfl, backend_result]
  simp [Worker.after, Registry.after, bound, unset, Assoc.lookup_remove_self]

/-- A nested block that closes all it opens gives back the worker it found. -/
theorem block_restores_worker (held : session.worker = holding scopes) (nested : Nested block)
    (closed : openScopes block = []) : (session.run block).worker = session.worker := by
  have continued := nested_over scopes nested
  rw [List.nil_append] at continued
  rw [run_worker continued.1 held, continued.2, show openedOver [] block = [] from closed, List.nil_append, held]

/-- A nested block that closes all it opens and says nothing of the bound tenant
leaves the backend as it was. -/
theorem block_keeps_backend {registry : Registry}
    (resolver : session.desk.resolver = .tenants default registry)
    (held : session.worker = holding scopes) (nested : Nested block) (closed : openScopes block = [])
    (silent : ∀ tenant, session.worker.bound.bind (·.tenant) = some tenant →
      lastVerdict tenant.identifier block = none) :
    (backend (session.run block)).result = (backend session).result := by
  obtain ⟨after, final, known⟩ := run_registry resolver (nested_keeps_resolver nested)
  simp only [backend, final, resolver, block_restores_worker held nested closed, backend_result]
  cases bound : session.worker.bound.bind (·.tenant) with
  | none => rfl
  | some tenant => simp only [known, silent tenant bound, Option.getD_none]

/-- The backend of a nested run is told by its history alone. A bound tenant
without a backend of its own is served by the latest registration under its
identifier and by nothing else, its removal is noticed by the next question,
both families are asked through the same answer, and a block that closes what
it opens leaves what is bound as it was. -/
theorem backend_told_by_history (default : Backend) (desk : Desk) (history : History)
    (nested : Nested history) :
    let session := (fresh default desk).run history
    let bound := session.worker.bound
    (backend session).result = expected default history ∧
    (session.desk.resolver.isMySql bound).result = (backend session).result.map Backend.isMySql ∧
    (session.desk.resolver.isPostgres bound).result = (backend session).result.map Backend.isPostgres ∧
    ¬ ((session.desk.resolver.isMySql bound).result = .ok true ∧
      (session.desk.resolver.isPostgres bound).result = .ok true) ∧
    (∀ tenant, bound.bind (·.tenant) = some tenant → tenant.backend = none →
      (∀ answer, (backend session).result = .ok answer →
        ∃ past instant future, history = past ++ (instant, .register tenant.identifier answer) :: future ∧
          ∀ entry ∈ future, verdict tenant.identifier entry.2 = none) ∧
      ∀ instant, (backend (session.step instant (.unregister tenant.identifier)).2).result =
        .error (.unknownTenant tenant.identifier)) ∧
    ∀ block, Nested block → openScopes block = [] →
      (session.run block).worker = session.worker ∧
      ((∀ tenant, bound.bind (·.tenant) = some tenant → lastVerdict tenant.identifier block = none) →
        (backend (session.run block)).result = (backend session).result) := by
  intro session bound
  have told : (backend session).result = expected default history := run_backend nested
  have held : session.worker = holding (openScopes history) := run_worker nested rfl
  have nobody : (fresh default desk).desk.resolver = .tenants default .empty := rfl
  obtain ⟨registry, resolver, -⟩ := run_registry nobody (nested_keeps_resolver nested)
  refine ⟨told, isMySql_result, isPostgres_result, not_both_families, ?_, ?_⟩
  · intro tenant served unset
    refine ⟨fun answer answered => ?_, fun instant => removal_noticed resolver served unset⟩
    have latest : (openScopes history).head?.bind (·.2.tenant) = some tenant := by
      rw [← served, show bound = _ from congrArg Worker.bound held, holding_bound, Option.bind_map]
      rfl
    rw [told, expected, latest] at answered
    simp only [unset] at answered
    cases known : registered tenant.identifier history with
    | none => simp [known] at answered
    | some backend =>
      obtain rfl : backend = answer := by simpa [known] using answered
      exact registered_eq_some_iff.mp known
  · intro block nestedBlock closed
    exact ⟨block_restores_worker held nestedBlock closed,
      block_keeps_backend resolver held nestedBlock closed⟩

/-- A tenant is registered and bound, a scope without a tenant is entered and
left again, and the tenant is removed while it is bound. -/
theorem removed_while_bound_told_by_history :
    let history : History := [(.epoch, .register "acme" .mysql),
      (.epoch, .enter "outer" { tenant := some { identifier := "acme" } }),
      (.epoch, .enter "inner" {}), (.epoch, .register "other" .mariadb), (.epoch, .exit "inner"),
      (.epoch, .unregister "acme")]
    Nested history ∧
      (backend ((fresh .postgres ⟨.fixed .sqlite, .system .utc, .shared {}, {}⟩).run history)).result =
        .error (.unknownTenant "acme") := by
  intro history
  have nested : Nested history := ⟨rfl, rfl, rfl, rfl, rfl, rfl, trivial⟩
  exact ⟨nested, (backend_told_by_history _ _ history nested).1⟩

end TenantSql.ScopeHistory
