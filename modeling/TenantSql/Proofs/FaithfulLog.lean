import TenantSql.Proofs.SessionRun
import TenantSql.Proofs.SingleQuery

/-! What a log shows of a request. Events are reported where things happen, in the
resolver, in the clock and in the writer, and errors are returned from there without
a look at them. That both tell the same is kept step by step: work is candid if what
it reports is what is to be reported of its result, and sequences of candid work are
candid. -/
namespace TenantSql.FaithfulLog
open Writer SingleQuery

variable {σ α β : Type} {request : Request} {bound : Option Scope} {instant : Instant}

/-- An event as it stands in a log: its level and its text. -/
def line (event : Event) : Level × String := (event.level, event.text)

/-- What is logged of work once its backend is known: nothing but a refusal or a
missing date, in the words of the error itself. -/
def failureLines : Except Error α → List (Level × String)
  | .error (.unsupported operation backend) => [(.error, (Error.unsupported operation backend).message)]
  | .error (.missingDate kind) => [(.error, (Error.missingDate kind).message)]
  | _ => []

/-- What is logged of a request, given what the resolver answered while it was written
and how it came out. -/
def requestLines (answers : List (Except Error Backend)) (outcome : Except Error α) :
    List (Level × String) :=
  match answers with
  | [] => []
  | .ok backend :: _ => (.trace, "Resolved database backend: " ++ backend.name) :: failureLines outcome
  | .error (.unknownTenant identifier) :: _ =>
    [(.error, "Tenant '" ++ identifier ++ "' has no registered backend")]
  | .error _ :: _ => []

/-- Work that reports what is to be logged of its result, and nothing else. -/
def Candid (work : Traced α) : Prop := work.events.map line = failureLines work.result

/-! ### Candid work -/

theorem candid_pure (value : α) : Candid (pure value) := rfl

/-- Nothing is to be logged of a part that succeeds, so a sequence is candid if its
parts are. -/
theorem candid_bind {first : Traced α} {next : α → Traced β} (begun : Candid first)
    (ended : ∀ value, Candid (next value)) : Candid (first >>= next) := by
  unfold Candid at begun ended ⊢
  cases done : first.result with
  | ok value =>
    rw [done, failureLines] at begun
    · rw [Traced.bind_of_ok done, List.map_append, begun, List.nil_append, ended value]
    · simp
    · simp
  | error error =>
    rw [done] at begun
    rw [Traced.bind_of_error done, begun]
    cases error <;> rfl

/-- An operation is refused in the words of its error. -/
theorem candid_familyFor (operation : Operation) (backend : Backend) : Candid (familyFor operation backend) := by
  unfold familyFor
  cases backend.family <;> rfl

/-- A pattern that cannot print is not logged. -/
theorem candid_print (pattern : String) (moment : Pattern.Moment) :
    Candid (liftM (Formats.print pattern moment)) := by
  unfold Formats.print
  cases Pattern.render pattern moment <;> rfl

/-- A clock misses a date in the words of its error. -/
theorem candid_businessDate (clock : Clock) (bound : Option Scope) : Candid (clock.businessDate bound) := by
  cases clock with
  | fixed => rfl
  | system =>
    simp only [Clock.businessDate]
    cases bound.bind (·.currentDate?) <;> rfl

/-- With a candid clock, all work for a backend is candid. -/
theorem write_candid (asks : Asks request = true) {writer : Writer σ}
    (dated : Candid writer.clock.businessDate) :
    ∃ next, writer.write request = writer.withBackend next ∧ ∀ backend, Candid (next backend) := by
  have operation : ∀ operation {next : Family → Traced String}, (∀ family, Candid (next family)) →
      ∀ backend, Candid (do next (← familyFor operation backend)) := by
    intro operation next candid backend
    exact candid_bind (candid_familyFor operation backend) candid
  have printed : ∀ {pattern moment} (finish : String → String),
      Candid (do return finish (← Formats.print pattern moment)) :=
    fun finish => candid_bind (candid_print ..) fun _ => candid_pure _
  cases request with
  | businessDate =>
    exact ⟨_, rfl, operation _ fun family => candid_bind dated fun date => printed _⟩
  | tenantDate | tenantDateTime =>
    exact ⟨_, rfl, operation _ fun family => printed _⟩
  | groupConcat _ | limit _ | limitOffset _ _ | subtractDate _ _ _ | dateDifference _ _ | lastInsertId
  | castToCharacter _ | castToInteger _ | castToJson _ | currentSchema =>
    exact ⟨_, rfl, operation _ fun family => candid_pure _⟩
  | select fields label embedded =>
    have filled : fields.isEmpty = false := by simpa [Asks] using asks
    simp only [Writer.write, filled]
    exact ⟨_, rfl, fun _ => candid_pure _⟩
  | table definition label embedded =>
    cases definition with
    | none => cases asks
    | some definition => exact ⟨_, rfl, fun _ => candid_pure _⟩
  | orderBy sorting label embedded =>
    have filled : sorting.keys.isEmpty = false := by simpa [Asks] using asks
    simp only [Writer.write, filled]
    exact ⟨_, rfl, fun _ => candid_pure _⟩
  | backendName | identifier _ | foundRowsMarker | countLastRows _ | join _ _ _ _ _ _ =>
    exact ⟨_, rfl, fun _ => candid_pure _⟩
  | literal _ _ | qualified _ _ | countRows _ => cases asks

/-! ### Requests -/

/-- A resolver of the library reports nothing when it answers, and fails for nothing
but a tenant that is not registered, under that tenant's name. -/
theorem backend_lines (resolver : Resolver) (bound : Option Scope) :
    (∃ backend, resolver.backend bound = pure backend) ∨
      ∃ identifier, resolver.backend bound =
        .failWith (.unregistered identifier) (.unknownTenant identifier) := by
  cases resolver with
  | fixed backend => exact .inl ⟨backend, rfl⟩
  | tenants default registry =>
    cases served : bound.bind (·.tenant) with
    | none => exact .inl ⟨default, by simp only [Resolver.backend, served]⟩
    | some tenant =>
      cases own : tenant.backend with
      | some backend => exact .inl ⟨backend, by simp only [Resolver.backend, served, own]⟩
      | none =>
        cases held : registry.entries.lookup tenant.identifier with
        | some backend =>
          refine .inl ⟨backend, ?_⟩
          simp only [Resolver.backend, served, own, Registry.backendFor, held]
        | none =>
          refine .inr ⟨tenant.identifier, ?_⟩
          simp only [Resolver.backend, served, own, Registry.backendFor, held]

/-- What a resolver answers while a request is written. -/
theorem answersTo_eq (writer : Writer σ) (request : Request) (state : σ) :
    answersTo writer request state = if Asks request then [(writer.resolve state).1] else [] := by
  cases asks : Asks request with
  | true =>
    obtain ⟨next, -, recorded, -⟩ := write_of_asks asks writer
    rw [answersTo, recorded]
    rfl
  | false =>
    obtain ⟨text, same⟩ := write_of_not_asks asks
    rw [answersTo, same]
    rfl

/-- A request over a resolver of the library is logged as its answers and its outcome
tell. -/
theorem answer_lines (resolver : Resolver) (clock : Clock) (formats : Formats) (bound : Option Scope)
    (instant : Instant) (request : Request) :
    (resolver.answer clock formats bound instant request).events.map line =
      requestLines ((answersTo (resolver.writer clock formats bound instant) request ()).map (·.result))
        (resolver.answer clock formats bound instant request).result := by
  let writer := resolver.writer clock formats bound instant
  rw [answersTo_eq, Resolver.answer]
  cases asks : Asks request with
  | false =>
    obtain ⟨text, same⟩ := write_of_not_asks asks
    rw [same]
    rfl
  | true =>
    have dated : Candid writer.clock.businessDate := candid_businessDate clock bound
    obtain ⟨next, written, candid⟩ := write_candid asks dated
    rw [written]
    obtain ⟨backend, told⟩ | ⟨identifier, told⟩ := backend_lines resolver bound
    · have found : (writer.resolve ()).1 = pure backend := told
      have whole : (writer.withBackend next ()).1 =
          ⟨.resolved backend :: (next backend).events, (next backend).result⟩ := by
        simp only [withBackend, found]
        rfl
      rw [whole, List.map_cons, candid backend, found]
      rfl
    · have failed : (writer.resolve ()).1 = .failWith (.unregistered identifier) (.unknownTenant identifier) :=
        told
      rw [withBackend_of_error (congrArg Traced.result failed), failed]
      rfl

/-- What is logged does not hang on what was written. -/
theorem requestLines_map (answers : List (Except Error Backend)) (outcome : Except Error α) (change : α → β) :
    requestLines answers (outcome.map change) = requestLines answers outcome := by
  have failures : failureLines (outcome.map change) = failureLines outcome := by
    cases outcome with
    | ok value => rfl
    | error error => cases error <;> rfl
  unfold requestLines
  rw [failures]

/-- What the desk of a session writes with for its worker. -/
def writerOf (session : Session) (instant : Instant) : Writer Unit :=
  match session.desk.wiring with
  | .shared formats => session.desk.resolver.writer session.desk.clock formats session.worker.bound instant
  | .own resolver clock formats => resolver.writer clock formats session.worker.bound instant

/-- For every session, whatever its desk writes with and whatever is bound, and every
request. What is logged while the request is written is told by what the resolver was
asked and by how the request came out. If it was not asked, nothing is logged. If it
answered with a backend, that backend comes first, and after it a refusal by the
backend or a missing date, in the words of the error that is returned, and nothing
after a text or after any other error. If it knew no such tenant, the tenant is named
once, and that is all. -/
theorem requests_logged_once (session : Session) (instant : Instant) (request : Request) :
    let asked := (answersTo (writerOf session instant) request ()).map (·.result)
    let outcome := (session.step instant (.write request)).1
    outcome.events.map line = requestLines asked outcome.result := by
  intro asked outcome
  have whole : outcome = ⟨(session.desk.write session.worker.bound instant request).events,
      (session.desk.write session.worker.bound instant request).result.map .text⟩ := by
    simp only [outcome, Session.step, Session.act]
    cases written : (session.desk.write session.worker.bound instant request).result with
    | ok text => simp [Traced.bind_of_ok written, Except.map]
    | error error => simp [Traced.bind_of_error written, Except.map]
  rw [whole, requestLines_map]
  simp only [asked, writerOf, Desk.write]
  cases session.desk.wiring <;> exact answer_lines ..

end TenantSql.FaithfulLog
