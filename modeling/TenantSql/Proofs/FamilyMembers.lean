import TenantSql.Proofs.ScopeHistory
import TenantSql.Proofs.SingleQuery

/-! Backends of one family are served alike. What is written hangs on the family
of the backend and not on the backend itself, so a whole session can be moved to
other backends of the same families: every step then does what it did before, and
only the names under which backends are reported are different ones. -/
namespace TenantSql

/-- A tenant whose own backend, if it has one, is another. -/
def Tenant.moved (move : Backend → Backend) (tenant : Tenant) : Tenant :=
  { tenant with backend := tenant.backend.map move }

/-- A scope with its tenant moved. -/
def Scope.moved (move : Backend → Backend) (scope : Scope) : Scope :=
  { scope with tenant := scope.tenant.map (Tenant.moved move) }

/-- A guard over a scope that is moved. -/
def Guard.moved (move : Backend → Backend) (guard : Guard) : Guard :=
  ⟨guard.previous.map (Scope.moved move)⟩

/-- A worker with everything moved that is bound or held. -/
def Worker.moved (move : Backend → Backend) (worker : Worker) : Worker :=
  ⟨worker.bound.map (Scope.moved move), Assoc.mapValues (Guard.moved move) worker.guards⟩

/-- A registry with every registration moved. -/
def Registry.moved (move : Backend → Backend) (registry : Registry) : Registry :=
  ⟨Assoc.mapValues move registry.entries⟩

/-- A resolver with its default and every registration moved. -/
def Resolver.moved (move : Backend → Backend) : Resolver → Resolver
  | .fixed backend => .fixed (move backend)
  | .tenants default registry => .tenants (move default) (registry.moved move)

/-- A wiring with its own resolver moved, if it has one. -/
def Wiring.moved (move : Backend → Backend) : Wiring → Wiring
  | .shared formats => .shared formats
  | .own resolver clock formats => .own (resolver.moved move) clock formats

/-- A desk with every resolver moved. Settings are left alone. -/
def Desk.moved (move : Backend → Backend) (desk : Desk) : Desk :=
  { desk with resolver := desk.resolver.moved move, wiring := desk.wiring.moved move }

/-- A session with its desk and its worker moved. -/
def Session.moved (move : Backend → Backend) (session : Session) : Session :=
  ⟨session.desk.moved move, session.worker.moved move⟩

/-- A step that names other backends: that of the tenant entered, or the one registered. -/
def Step.moved (move : Backend → Backend) : Step → Step
  | .enter guard scope => .enter guard (scope.moved move)
  | .register identifier backend => .register identifier (move backend)
  | step => step

/-- The text that answers a request. Only the name of the backend is another. -/
def Request.moved (move : Backend → Backend) (request : Request) (text : String) : String :=
  match request with
  | .backendName => ((Backend.documentNames.lookup text).map fun backend => (move backend).name).getD text
  | _ => text

/-- The answer to a step. Only where it reports scopes, registrations and the backend
in force, it reports other backends. -/
def Reply.moved (move : Backend → Backend) : Step → Reply → Reply
  | .write request, .text written => .text (request.moved move written)
  | .enter .., .scope bound | .exit _, .scope bound | .current, .scope bound =>
    .scope (bound.map (Scope.moved move))
  | .resolve, .resolution told isMySql isPostgres => .resolution (move told) isMySql isPostgres
  | .unregister _, .backend known | .backendFor _, .backend known => .backend (known.map move)
  | .tenants, .registry default known => .registry (move default) (known.moved move)
  | _, reply => reply

/-- MariaDB in the place of MySQL. -/
def Backend.mariaDbForMySql : Backend → Backend
  | .mysql => .mariadb
  | backend => backend

end TenantSql

namespace TenantSql.FamilyMembers
open Session Writer SingleQuery ScopeHistory

variable {σ : Type} {move : Backend → Backend} {one other : Backend} {session : Session} {step : Step}
  {history : History} {instant : Instant} {request : Request} {bound : Option Scope}

/-! ### Writing -/

/-- Only one backend has no family, so an operation is refused alike too. -/
theorem familyFor_congr (operation : Operation) (same : one.family = other.family) :
    familyFor operation one = familyFor operation other := by
  cases member : one.family with
  | some family => simp only [familyFor, ← same, member]
  | none =>
    have alone : ∀ {backend : Backend}, backend.family = none → backend = .sqlite := by
      intro backend
      cases backend <;> simp [Backend.family]
    rw [alone member, alone (same.symm.trans member)]

theorem identifier_congr (same : one.family = other.family) : one.identifier = other.identifier := by
  funext name
  simp only [Backend.identifier, same]

theorem isMySql_congr (same : one.family = other.family) : one.isMySql = other.isMySql := by
  simp only [Backend.isMySql, same]

theorem isPostgres_congr (same : one.family = other.family) : one.isPostgres = other.isPostgres := by
  simp only [Backend.isPostgres, same]

/-- What is written for a backend is written for its family, the name apart. -/
theorem write_for_family (asks : Asks request = true) (unnamed : request ≠ .backendName) (writer : Writer σ) :
    ∃ next, (∀ resolve : σ → Traced Backend × σ, Writer.write { writer with resolve } request =
        Writer.withBackend { writer with resolve } next) ∧
      ∀ {one other : Backend}, one.family = other.family → next one = next other := by
  have operation : ∀ operation (next : Family → Traced String) {one other : Backend},
      one.family = other.family →
      (do next (← familyFor operation one)) = (do next (← familyFor operation other)) := by
    intro operation next one other same
    rw [familyFor_congr operation same]
  cases request with
  | backendName => exact absurd rfl unnamed
  | identifier name =>
    exact ⟨_, fun _ => rfl, fun same => by rw [identifier_congr same]⟩
  | foundRowsMarker =>
    exact ⟨_, fun _ => rfl, fun same => by simp only [Fragment.foundRowsMarker, isMySql_congr same]⟩
  | countLastRows query =>
    exact ⟨_, fun _ => rfl, fun same => by simp only [Fragment.countLastRows, isMySql_congr same]⟩
  | select fields label embedded =>
    have filled : fields.isEmpty = false := by simpa [Asks] using asks
    simp only [Writer.write, filled]
    exact ⟨_, fun _ => rfl, fun same => by simp only [Fragment.selectList, identifier_congr same]⟩
  | table definition label embedded =>
    cases definition with
    | none => cases asks
    | some definition =>
      exact ⟨_, fun _ => rfl, fun same => by simp only [Fragment.tableReference, identifier_congr same]⟩
  | join table label column otherLabel otherColumn kind =>
    exact ⟨_, fun _ => rfl, fun same => by
      simp only [Fragment.joinClause, Fragment.tableReference, identifier_congr same]⟩
  | orderBy sorting label embedded =>
    have filled : sorting.keys.isEmpty = false := by simpa [Asks] using asks
    simp only [Writer.write, filled]
    exact ⟨_, fun _ => rfl, fun same => by simp only [Fragment.orderList, identifier_congr same]⟩
  | literal kind value => cases asks
  | qualified field label => cases asks
  | countRows query => cases asks
  | businessDate =>
    let next (family : Family) : Traced String := do
      let date ← writer.clock.businessDate
      return family.dateLiteral (← writer.formats.printDate date)
    exact ⟨_, fun _ => rfl, operation .currentDate next⟩
  | tenantDate =>
    let next (family : Family) : Traced String := do
      return family.dateLiteral (← writer.formats.printDate writer.clock.tenantDate)
    exact ⟨_, fun _ => rfl, operation .currentDate next⟩
  | tenantDateTime =>
    let next (family : Family) : Traced String := do
      return family.timestampLiteral (← writer.formats.printDateTime writer.clock.tenantTime)
    exact ⟨_, fun _ => rfl, operation .currentDateTime next⟩
  | _ => exact ⟨_, fun _ => rfl, operation _ _⟩

/-- A resolver moved, asked in a scope moved, answers with the backend moved, and
fails as before. -/
theorem backend_moved (move : Backend → Backend) (resolver : Resolver) (bound : Option Scope) :
    ((resolver.moved move).backend (bound.map (Scope.moved move))).result =
      (resolver.backend bound).result.map move := by
  have tenant : (bound.map (Scope.moved move)).bind (·.tenant) =
      (bound.bind (·.tenant)).map (Tenant.moved move) := by
    cases bound <;> rfl
  cases resolver with
  | fixed backend => rfl
  | tenants default registry =>
    simp only [Resolver.moved, backend_result, tenant]
    cases bound.bind (·.tenant) with
    | none => rfl
    | some tenant =>
      simp only [Option.map_some, Tenant.moved, Registry.moved, Assoc.lookup_mapValues]
      cases tenant.backend with
      | some backend => rfl
      | none => cases registry.entries.lookup tenant.identifier <;> rfl

/-- No clock looks at a backend. -/
theorem face_moved (move : Backend → Backend) (clock : Clock) (bound : Option Scope) (instant : Instant) :
    clock.face (bound.map (Scope.moved move)) instant = clock.face bound instant := by
  cases bound with
  | none => rfl
  | some scope => cases scope with | mk tenant => cases tenant <;> rfl

/-- What is done with a backend hangs on the results of asking for it alone. -/
theorem withBackend_result (writer : Writer σ) (next : Backend → Traced String) (state : σ) :
    (writer.withBackend next state).1.result =
      (writer.resolve state).1.result.bind fun backend => (next backend).result := by
  simp only [withBackend, Traced.bind_result]
  cases (writer.resolve state).1.result <;> rfl

/-- A backend moved is reported under its new name. -/
theorem moved_name (move : Backend → Backend) (backend : Backend) :
    Request.moved move .backendName backend.name = (move backend).name := by
  simp only [Request.moved, Backend.documentNames_lookup_name, Option.map_some, Option.getD_some]

/-- With backends moved within their families, a request is answered with the same
text, or fails with the same error. -/
theorem answer_moved (kept : ∀ backend, (move backend).family = backend.family) (resolver : Resolver)
    (clock : Clock) (formats : Formats) (bound : Option Scope) (instant : Instant) (request : Request) :
    ((resolver.moved move).answer clock formats (bound.map (Scope.moved move)) instant request).result =
      (resolver.answer clock formats bound instant request).result.map (request.moved move) := by
  let writer := resolver.writer clock formats bound instant
  have told : ((resolver.moved move).writer clock formats (bound.map (Scope.moved move)) instant) =
      { writer with resolve := fun _ => ((resolver.moved move).backend (bound.map (Scope.moved move)), ()) } := by
    simp only [writer, Resolver.writer, face_moved]
  have here : resolver.writer clock formats bound instant =
    { writer with resolve := fun _ => (resolver.backend bound, ()) } := rfl
  by_cases named : request = .backendName
  · subst named
    simp only [Resolver.answer, Writer.write, withBackend_result, Resolver.writer, backend_moved]
    cases (resolver.backend bound).result with
    | error error => rfl
    | ok backend => exact congrArg Except.ok (moved_name move backend).symm
  · have unchanged : request.moved move = id := by
      cases request <;> first | rfl | exact absurd rfl named
    cases asks : Asks request with
    | false =>
      obtain ⟨text, same⟩ := write_of_not_asks asks
      simp only [Resolver.answer, same, settled, unchanged]
      rfl
    | true =>
      obtain ⟨next, written, alike⟩ := write_for_family asks named writer
      rw [Resolver.answer, Resolver.answer, told, here, written, written, withBackend_result,
        withBackend_result, backend_moved, unchanged]
      cases (resolver.backend bound).result with
      | error error => rfl
      | ok backend =>
        have same : next (move backend) = next backend := alike (kept backend)
        simp only [Except.map, Except.bind, same]
        cases (next backend).result <;> rfl

/-! ### Whole sessions -/

/-- Entering and leaving move scopes about, on whatever backends they are. -/
theorem worker_moved (move : Backend → Backend) (worker : Worker) (step : Step) :
    (worker.moved move).after (step.moved move) = (worker.after step).moved move := by
  cases step with
  | exit name =>
    simp only [Step.moved, Worker.after, Worker.moved, Assoc.lookup_mapValues]
    cases worker.guards.lookup name with
    | none => rfl
    | some guard =>
      simp only [Option.map_some, Guard.moved, Assoc.mapValues, List.eraseP_map]
      rfl
  | _ => rfl

/-- Registrations act on a desk alike, on whatever backends they are. -/
theorem desk_moved (move : Backend → Backend) (desk : Desk) (quiet : step.resettles = false) :
    (desk.moved move).after (step.moved move) = (desk.after step).moved move := by
  obtain ⟨resolver, clock, wiring, settings⟩ := desk
  cases step with
  | register identifier backend =>
    cases resolver with
    | fixed => rfl
    | tenants default registry =>
      simp only [Step.moved, Desk.after, Desk.moved, Desk.registry, Desk.withRegistry, Resolver.moved,
        Registry.after, Registry.moved, Assoc.put_mapValues]
  | unregister identifier =>
    cases resolver with
    | fixed => rfl
    | tenants default registry =>
      simp only [Step.moved, Desk.after, Desk.moved, Desk.registry, Desk.withRegistry, Resolver.moved,
        Registry.after, Registry.moved, Assoc.remove_mapValues]
  | adopt | revise | build | buildWriter => cases quiet
  | _ => rfl

/-- One step leaves a session moved where it leaves the session. -/
theorem step_moved (move : Backend → Backend) (session : Session) (instant : Instant)
    (quiet : step.resettles = false) :
    ((session.moved move).step instant (step.moved move)).2 = (session.step instant step).2.moved move := by
  have whole : ∀ {one other : Session}, one.desk = other.desk → one.worker = other.worker → one = other := by
    rintro ⟨desk, worker⟩ ⟨_, _⟩ rfl rfl
    rfl
  apply whole
  · rw [step_desk]
    exact (desk_moved move session.desk quiet).trans (congrArg (Desk.moved move) step_desk.symm)
  · rw [step_worker]
    exact (worker_moved move session.worker step).trans (congrArg (Worker.moved move) step_worker.symm)

/-- The same steps, naming other backends. -/
def movedHistory (move : Backend → Backend) (history : History) : History :=
  history.map fun (instant, step) => (instant, step.moved move)

/-- A run of a session moved ends where the run of the session ends, moved. -/
theorem run_moved (move : Backend → Backend) (session : Session)
    (quiet : ∀ entry ∈ history, entry.2.resettles = false) :
    (session.moved move).run (movedHistory move history) = (session.run history).moved move := by
  induction history generalizing session with
  | nil => rfl
  | cons first rest ih =>
    obtain ⟨instant, step⟩ := first
    obtain ⟨stepQuiet, restQuiet⟩ := List.forall_mem_cons.mp quiet
    rw [run_cons, ← ih _ restQuiet, ← step_moved move session instant stepQuiet]
    rfl

/-- A step answers what its action does. -/
private theorem step_result : (session.step instant step).1.result =
    (session.act instant step).result.map Prod.fst := by
  simp only [Session.step]
  cases (session.act instant step).result <;> rfl

theorem write_moved (kept : ∀ backend, (move backend).family = backend.family) (session : Session)
    (instant : Instant) (request : Request) :
    ((session.moved move).step instant (.write request)).1.result =
      (session.step instant (.write request)).1.result.map (Reply.moved move (.write request)) := by
  have written : ((session.moved move).desk.write (session.moved move).worker.bound instant request).result =
      (session.desk.write session.worker.bound instant request).result.map (request.moved move) := by
    obtain ⟨⟨resolver, clock, wiring, settings⟩, worker⟩ := session
    cases wiring <;> exact answer_moved kept ..
  simp only [step_result, Session.act, Traced.bind_result, written]
  cases (session.desk.write session.worker.bound instant request).result <;> rfl

/-- The registry of a desk moved holds what it held, moved. -/
theorem registry_moved (move : Backend → Backend) (desk : Desk) :
    (desk.moved move).registry = (move desk.registry.1, desk.registry.2.moved move) := by
  cases desk with
  | mk resolver => cases resolver <;> rfl

/-- A step that asks for what is the same in both sessions is answered alike, if its
replies are alike. -/
private theorem reply_unmoved {α : Type} (asked : Except Error α) {finish after : α → Reply × Session}
    (same : ∀ value, (finish value).1 = Reply.moved move step (after value).1) :
    (asked.bind fun value => (pure (finish value) : Traced _).result).map Prod.fst =
      ((asked.bind fun value => (pure (after value) : Traced _).result).map Prod.fst).map
        (Reply.moved move step) := by
  cases asked with
  | error error => rfl
  | ok value => exact congrArg Except.ok (same value)

/-- Every step of a session moved is answered as it was, naming other backends
where backends are named. -/
theorem reply_moved (kept : ∀ backend, (move backend).family = backend.family) (session : Session)
    (instant : Instant) (step : Step) :
    ((session.moved move).step instant (step.moved move)).1.result =
      (session.step instant step).1.result.map (Reply.moved move step) := by
  have registry : (session.moved move).desk.registry =
    (move session.desk.registry.1, session.desk.registry.2.moved move) := registry_moved ..
  have shown : ∀ clock : Clock, clock.face (session.moved move).worker.bound instant =
    clock.face session.worker.bound instant := fun clock => face_moved ..
  cases step with
  | write request => exact write_moved kept session instant request
  | enter name scope => rfl
  | current => rfl
  | exit name =>
    have held : (session.moved move).worker.guards.lookup name =
      (session.worker.guards.lookup name).map (Guard.moved move) := Assoc.lookup_mapValues ..
    simp only [step_result, Session.act, Step.moved, held]
    cases session.worker.guards.lookup name <;> rfl
  | resolve =>
    have told : ((session.moved move).desk.resolver.backend (session.moved move).worker.bound).result =
      (session.desk.resolver.backend session.worker.bound).result.map move := backend_moved ..
    simp only [step_result, Session.act, Step.moved, Traced.bind_result, isMySql_result, isPostgres_result, told]
    cases (session.desk.resolver.backend session.worker.bound).result with
    | error error => rfl
    | ok backend =>
      simp only [Except.map, Except.bind, isMySql_congr (kept backend), isPostgres_congr (kept backend)]
      rfl
  | register identifier backend =>
    simp only [step_result, Session.act, Step.moved, Traced.bind_result, registry, Registry.register,
      Registry.moved, Assoc.put_mapValues]
    simp only [Registry.count, Assoc.mapValues_length, Except.bind]
    rfl
  | unregister identifier =>
    simp only [step_result, Session.act, Step.moved, registry, Registry.unregister, Registry.moved,
      Assoc.lookup_mapValues]
    rfl
  | backendFor identifier =>
    simp only [step_result, Session.act, Step.moved, Traced.bind_result, registry, Registry.backendFor,
      Registry.moved, Assoc.lookup_mapValues]
    cases session.desk.registry.2.entries.lookup identifier <;> rfl
  | tenants =>
    simp only [step_result, Session.act, Step.moved, registry]
    rfl
  | describe =>
    cases session with
    | mk desk => cases desk with | mk _ _ wiring => cases wiring <;> rfl
  | businessDate =>
    have dated : session.desk.clock.businessDate (session.moved move).worker.bound =
      session.desk.clock.businessDate session.worker.bound := congrArg ClockFace.businessDate (shown _)
    simp only [step_result, Session.act, Step.moved, Traced.bind_result]
    rw [show (session.moved move).desk.clock = session.desk.clock from rfl, dated]
    cases (session.desk.clock.businessDate session.worker.bound).result <;> rfl
  | readClock =>
    obtain ⟨⟨resolver, clock, wiring, settings⟩, bound, guards⟩ := session
    cases clock with
    | fixed => rfl
    | system zone =>
      cases bound with
      | none => rfl
      | some scope => cases scope with | mk tenant => cases tenant <;> rfl
  | settings => rfl
  | _ =>
    -- what is left asks the settings alone, and they are as they were
    simp only [step_result, Session.act, Step.moved, Traced.bind_result]
    apply reply_unmoved
    intro value
    rfl

theorem family_mariaDbForMySql (backend : Backend) :
    backend.mariaDbForMySql.family = backend.family := by
  cases backend <;> rfl

/-- For every session at any desk, and all steps in it that leave the settings alone.
With MariaDB in the place of MySQL for work without a tenant, in every registration
and for every tenant with a backend of its own, the session is at every point the
same but for these names: each request for SQL gets the same text or the same error,
both families are told as before, and every other step is answered as it was,
naming MariaDB for MySQL where it names backends. -/
theorem mariaDb_served_as_mySql (session : Session) (history : History) (instant : Instant)
    (quiet : ∀ entry ∈ history, entry.2.resettles = false) :
    let one := session.run history
    let other := (session.moved .mariaDbForMySql).run (movedHistory .mariaDbForMySql history)
    (∀ request, request ≠ .backendName →
      (other.step instant (.write request)).1.result = (one.step instant (.write request)).1.result) ∧
    (other.desk.resolver.isMySql other.worker.bound).result =
      (one.desk.resolver.isMySql one.worker.bound).result ∧
    (other.desk.resolver.isPostgres other.worker.bound).result =
      (one.desk.resolver.isPostgres one.worker.bound).result ∧
    other = one.moved .mariaDbForMySql ∧
    ∀ step, (other.step instant (step.moved .mariaDbForMySql)).1.result =
      (one.step instant step).1.result.map (Reply.moved .mariaDbForMySql step) := by
  intro one other
  have same : other = one.moved .mariaDbForMySql := run_moved _ session quiet
  have told : (other.desk.resolver.backend other.worker.bound).result =
      (one.desk.resolver.backend one.worker.bound).result.map .mariaDbForMySql := by
    rw [same]
    exact backend_moved ..
  have replies : ∀ step, (other.step instant (step.moved .mariaDbForMySql)).1.result =
      (one.step instant step).1.result.map (Reply.moved .mariaDbForMySql step) := by
    rw [same]
    exact reply_moved family_mariaDbForMySql one instant
  refine ⟨fun request unnamed => ?_, ?_, ?_, same, replies⟩
  · have unchanged : Reply.moved .mariaDbForMySql (.write request) = id := by
      funext reply
      cases request <;> first | (cases reply <;> rfl) | exact absurd rfl unnamed
    have answered : (other.step instant (.write request)).1.result = _ := replies (.write request)
    rw [answered, unchanged, Except.map_id, id]
  · rw [isMySql_result, isMySql_result, told]
    cases (one.desk.resolver.backend one.worker.bound).result with
    | error error => rfl
    | ok backend => exact congrArg Except.ok (isMySql_congr (family_mariaDbForMySql backend))
  · rw [isPostgres_result, isPostgres_result, told]
    cases (one.desk.resolver.backend one.worker.bound).result with
    | error error => rfl
    | ok backend => exact congrArg Except.ok (isPostgres_congr (family_mariaDbForMySql backend))

/-- Two tenants, one on MySQL by its own settings and one by registration, with guards
dropped crosswise: a limit reads the same on MariaDB, and only the name is new. -/
theorem crossed_scopes_served_as_mySql :
    let session : Session := ⟨⟨.tenants .mysql ⟨[("acme", .mysql)]⟩, .system .utc, .shared {}, {}⟩, {}⟩
    let history : History := [
      (.epoch, .enter "outer" { tenant := some { identifier := "globex", backend := some .mysql } }),
      (.epoch, .enter "inner" { tenant := some { identifier := "acme" } }),
      (.epoch, .register "acme" .postgres), (.epoch, .exit "outer"), (.epoch, .exit "inner")]
    let one := session.run history
    let other := (session.moved .mariaDbForMySql).run (movedHistory .mariaDbForMySql history)
    (∀ entry ∈ history, entry.2.resettles = false) ∧
      (one.step .epoch (.write (.limit 5))).1.result = .ok (.text "LIMIT 0,5") ∧
      (other.step .epoch (.write (.limit 5))).1.result = (one.step .epoch (.write (.limit 5))).1.result ∧
      (one.step .epoch (.write .backendName)).1.result = .ok (.text "mysql") ∧
      (other.step .epoch (.write .backendName)).1.result = .ok (.text "mariadb") := by
  intro session history one other
  have quiet : ∀ entry ∈ history, entry.2.resettles = false := by decide
  obtain ⟨texts, -, -, -, replies⟩ := mariaDb_served_as_mySql session history .epoch quiet
  exact ⟨quiet, rfl, texts (.limit 5) (by decide), rfl, replies (.write .backendName)⟩

end TenantSql.FamilyMembers
