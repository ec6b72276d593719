import TenantSql.Proofs.ClauseText

/-! Why a request fails. Four things can stand in its way, and the first of them
decides: no backend can be told, the backend has no syntax for the operation, the
clock has no date, the pattern cannot print what it is given. Each cause is stated
on its own, without the writer's steps, and a request for which none applies
succeeds. -/
namespace TenantSql.FirstCause
open Writer SingleQuery ClauseText

variable {σ α β : Type} {writer : Writer σ} {state : σ} {backend : Backend} {request : Request}
  {operation : Operation} {error : Error}

/-- The error of a result that is one. -/
def failure : Except Error α → Option Error
  | .ok _ => none
  | .error error => some error

/-- The operation behind a request, where each family has a syntax of its own. -/
def operationOf : Request → Option Operation
  | .groupConcat _ => some .groupConcat
  | .limit _ | .limitOffset .. => some .limit
  | .businessDate | .tenantDate => some .currentDate
  | .tenantDateTime => some .currentDateTime
  | .subtractDate .. => some .subtractDate
  | .dateDifference .. => some .dateDifference
  | .lastInsertId => some .lastInsertId
  | .castToCharacter _ => some .castToCharacter
  | .castToInteger _ => some .castToInteger
  | .castToJson _ => some .castToJson
  | .currentSchema => some .currentSchema
  | _ => none

/-- The resolver was asked and could tell no backend. -/
def unresolved (answer : Traced Backend) (request : Request) : Option Error :=
  if Asks request then failure answer.result else none

/-- A backend was told that has no syntax for the operation. -/
def refused (answer : Traced Backend) (request : Request) : Option Error :=
  match answer.result, operationOf request with
  | .ok backend, some operation =>
    if backend.family = none then some (.unsupported operation backend) else none
  | _, _ => none

/-- The clock has no business date, and it is the one asked for. -/
def dateless (clock : ClockFace) : Request → Option Error
  | .businessDate => failure clock.businessDate.result
  | _ => none

/-- The pattern a request prints with, and what it prints. -/
def printed (clock : ClockFace) (formats : Formats) : Request → Option (String × Pattern.Moment)
  | .businessDate => clock.businessDate.result.toOption.map fun date => (formats.date, ⟨date, none⟩)
  | .tenantDate => some (formats.date, ⟨clock.tenantDate, none⟩)
  | .tenantDateTime => some (formats.dateTime, ⟨clock.tenantTime.date, some clock.tenantTime.time⟩)
  | _ => none

/-- The pattern asks for something that is not there to be printed. -/
def unprintable (clock : ClockFace) (formats : Formats) (request : Request) : Option Error :=
  (printed clock formats request).bind fun (pattern, moment) =>
    match Pattern.render pattern moment with
    | some _ => none
    | none => some (.settings (.unprintablePattern pattern))

/-- What stands in the way of a request, in the order in which it counts. -/
def causes (writer : Writer σ) (request : Request) (state : σ) : List (Option Error) :=
  [unresolved (writer.resolve state).1 request, refused (writer.resolve state).1 request,
    dateless writer.clock request, unprintable writer.clock writer.formats request]

/-- The cause that decides. -/
def firstCause (writer : Writer σ) (request : Request) (state : σ) : Option Error :=
  (causes writer request state).findSome? id

/-- What is written where the rules of no family apply: names stand as they are,
nothing marks a query for counting, and rows are counted by a query around it. -/
def plainText (backend : Backend) : Request → Option String
  | .backendName => some backend.name
  | .literal kind value => some (kind.literal value)
  | .qualified field label => some (Fragment.qualified field label)
  | .foundRowsMarker => some ""
  | .countLastRows query => some (Fragment.countRows query)
  | .countRows query => some (Fragment.countRows query)
  | request => clauseText id request

/-- The kind of date that a clock of the library is missing. -/
def missingKind (clock : Clock) (bound : Option Scope) : Option DateKind :=
  match clock, bound.bind (·.currentDate?) with
  | .system _, none => some (Clock.activity bound).dateKind
  | _, _ => none

@[simp] theorem failure_ok (value : α) : failure (.ok value) = none := rfl

@[simp] theorem failure_error (error : Error) : failure (.error error : Except Error α) = some error := rfl

theorem failure_eq_some_iff {result : Except Error α} :
    failure result = some error ↔ result = .error error := by
  cases result <;> simp

theorem failure_eq_none_iff {result : Except Error α} :
    failure result = none ↔ ∃ value, result = .ok value := by
  cases result <;> simp

/-- Work that ends with a value fails as its first part does. -/
private theorem failure_map (first : Traced α) (finish : α → β) :
    failure (do return finish (← first) : Traced β).result = failure first.result := by
  rw [Traced.bind_result]
  cases first.result <;> rfl

private theorem failure_print (pattern : String) (moment : Pattern.Moment) :
    failure (Formats.print pattern moment) =
      match Pattern.render pattern moment with
      | some _ => none
      | none => some (.settings (.unprintablePattern pattern)) := by
  unfold Formats.print
  cases Pattern.render pattern moment <;> rfl

/-- An operation of a backend without family ends the work at once. -/
theorem perFamily_of_none {next : Family → Traced String}
    (found : (writer.resolve state).1.result = .ok backend) (alone : backend.family = none) :
    writer.perFamily operation next state =
      (⟨(writer.resolve state).1.events ++ [.resolved backend, .unsupported operation backend],
        .error (.unsupported operation backend)⟩, (writer.resolve state).2) := by
  simp only [perFamily, withBackend, Traced.bind_of_ok found, familyFor, alone]
  rfl

/-- An operation goes on with the family of the backend. -/
theorem perFamily_of_some {next : Family → Traced String} {family : Family}
    (found : (writer.resolve state).1.result = .ok backend) (member : backend.family = some family) :
    writer.perFamily operation next state =
      (⟨(writer.resolve state).1.events ++ .resolved backend :: (next family).events,
        (next family).result⟩, (writer.resolve state).2) := by
  simp only [perFamily, withBackend, Traced.bind_of_ok found, familyFor, member]
  rfl

/-- An operation fails for want of a date or by its pattern, and for nothing else
once the family is known. -/
theorem write_operation (writer : Writer σ) (needed : operationOf request = some operation) :
    ∃ next, writer.write request = writer.perFamily operation next ∧
      ∀ family, failure (next family).result =
        (dateless writer.clock request).or (unprintable writer.clock writer.formats request) := by
  cases request with
  | businessDate =>
    obtain rfl := Option.some.inj needed
    refine ⟨_, rfl, fun family => ?_⟩
    cases read : writer.clock.businessDate.result with
    | error error =>
      simp [Traced.bind_of_error read, dateless, read]
    | ok date =>
      simp [Traced.bind_of_ok read, failure_map, dateless, read, unprintable, printed, Formats.printDate,
        failure_print, Except.toOption]
  | tenantDate =>
    obtain rfl := Option.some.inj needed
    refine ⟨_, rfl, fun family => ?_⟩
    simp [failure_map, dateless, unprintable, printed, Formats.printDate, failure_print]
  | tenantDateTime =>
    obtain rfl := Option.some.inj needed
    refine ⟨_, rfl, fun family => ?_⟩
    simp [failure_map, dateless, unprintable, printed, Formats.printDateTime, failure_print]
  | groupConcat _ | limit _ | limitOffset _ _ | subtractDate _ _ _ | dateDifference _ _ | lastInsertId
  | castToCharacter _ | castToInteger _ | castToJson _ | currentSchema =>
    exact Option.some.inj needed ▸ ⟨_, rfl, fun _ => rfl⟩
  | _ => cases needed

/-- A request for no operation of a family is written for every backend. -/
theorem write_free (asks : Asks request = true) (free : operationOf request = none) :
    ∃ text : Backend → String, ∀ writer : Writer σ,
      writer.write request = writer.withBackend fun backend => pure (text backend) := by
  cases request with
  | select fields label embedded =>
    have filled : fields.isEmpty = false := by simpa [Asks] using asks
    exact ⟨_, fun _ => by simp only [Writer.write, filled]; rfl⟩
  | table definition label embedded =>
    cases definition with
    | none => cases asks
    | some definition => exact ⟨_, fun _ => rfl⟩
  | orderBy sorting label embedded =>
    have filled : sorting.keys.isEmpty = false := by simpa [Asks] using asks
    exact ⟨_, fun _ => by simp only [Writer.write, filled]; rfl⟩
  | backendName | identifier _ | foundRowsMarker | countLastRows _ | join _ _ _ _ _ _ =>
    exact ⟨_, fun _ => rfl⟩
  | _ => first | exact absurd asks Bool.false_ne_true | cases free

/-- A request for no operation of a family has nothing to do with dates. -/
theorem undated_of_free (free : operationOf request = none) (clock : ClockFace) (formats : Formats) :
    dateless clock request = none ∧ unprintable clock formats request = none := by
  cases request <;> first | exact ⟨rfl, rfl⟩ | cases free

theorem asks_of_operation (needed : operationOf request = some operation) : Asks request = true := by
  cases request <;> first | rfl | cases needed

theorem firstCause_eq (writer : Writer σ) (request : Request) (state : σ) :
    firstCause writer request state =
      (unresolved (writer.resolve state).1 request).or
        ((refused (writer.resolve state).1 request).or
          ((dateless writer.clock request).or (unprintable writer.clock writer.formats request))) := by
  simp only [firstCause, causes, List.findSome?_cons, List.findSome?_nil, id_eq]
  cases unresolved (writer.resolve state).1 request with
  | some error => rfl
  | none =>
    cases refused (writer.resolve state).1 request with
    | some error => rfl
    | none =>
      cases dateless writer.clock request with
      | some error => rfl
      | none => cases unprintable writer.clock writer.formats request <;> rfl

/-- The first cause is what a request fails with. -/
theorem failure_write (writer : Writer σ) (request : Request) (state : σ) :
    failure (writer.write request state).1.result = firstCause writer request state := by
  rw [firstCause_eq]
  cases asks : Asks request with
  | false =>
    have free : operationOf request = none := by
      cases needed : operationOf request with
      | none => rfl
      | some operation => cases asks.symm.trans (asks_of_operation needed)
    have accepted : refused (writer.resolve state).1 request = none := by
      cases answered : (writer.resolve state).1.result <;> simp [refused, answered, free]
    obtain ⟨dated, printable⟩ := undated_of_free free writer.clock writer.formats
    obtain ⟨text, same⟩ := write_of_not_asks asks
    simp [same, settled, unresolved, asks, accepted, dated, printable]
  | true =>
    cases answered : (writer.resolve state).1.result with
    | error error =>
      obtain ⟨next, here, -⟩ := write_of_asks asks writer
      simp [here, withBackend_of_error answered, unresolved, asks, answered]
    | ok backend =>
      have resolved : unresolved (writer.resolve state).1 request = none := by
        simp [unresolved, answered]
      cases needed : operationOf request with
      | none =>
        obtain ⟨dated, printable⟩ := undated_of_free needed writer.clock writer.formats
        obtain ⟨text, here⟩ := write_free (σ := σ) asks needed
        simp [here, withBackend_text text answered, resolved, refused, answered, needed, dated, printable]
      | some operation =>
        obtain ⟨next, here, fails⟩ := write_operation writer needed
        cases member : backend.family with
        | none => simp [here, perFamily_of_none answered member, resolved, refused, answered, needed, member]
        | some family =>
          simp [here, perFamily_of_some answered member, fails, resolved, refused, answered, needed, member]

/-- Without a family a backend is only ever given what any backend is. -/
theorem plainText_of_ok {text : String} (found : (writer.resolve state).1.result = .ok backend)
    (alone : backend.family = none) (written : (writer.write request state).1.result = .ok text) :
    plainText backend request = some text := by
  have plain : backend.identifier = id := by
    funext name
    simp only [Backend.identifier, alone, id]
  have other : backend.isMySql = false := by simp [Backend.isMySql, alone]
  have clause : ∀ {given : String}, clauseText id request = some given → given = text := by
    intro given drafted
    rw [← plain] at drafted
    exact Except.ok.inj ((write_clause found drafted).symm.trans written)
  cases needed : operationOf request with
  | some operation =>
    obtain ⟨next, here, -⟩ := write_operation writer needed
    rw [here, perFamily_of_none found alone] at written
    cases written
  | none =>
    cases request with
    | backendName =>
      rw [Writer.write, withBackend_text _ found] at written
      exact congrArg some (Except.ok.inj written)
    | foundRowsMarker =>
      rw [Writer.write, withBackend_text _ found] at written
      simpa [plainText, Fragment.foundRowsMarker, other] using written
    | countLastRows query =>
      rw [Writer.write, withBackend_text _ found] at written
      simpa [plainText, Fragment.countLastRows, other] using written
    | literal kind value => exact congrArg some (Except.ok.inj written)
    | qualified field label => exact congrArg some (Except.ok.inj written)
    | countRows query => exact congrArg some (Except.ok.inj written)
    | identifier name => exact congrArg some (clause rfl)
    | select fields label embedded => exact congrArg some (clause rfl)
    | table definition label embedded =>
      cases definition <;> exact congrArg some (clause rfl)
    | join table label column otherLabel otherColumn kind => exact congrArg some (clause rfl)
    | orderBy sorting label embedded => exact congrArg some (clause rfl)
    | _ => cases needed

/-- The library's clocks have no date only in a scope that holds none of the kind
its activity asks for, and only if they run. -/
theorem dateless_face (clock : Clock) (bound : Option Scope) (instant : Instant) :
    dateless (clock.face bound instant) .businessDate = (missingKind clock bound).map .missingDate := by
  cases clock with
  | fixed business tenantTime => rfl
  | system zone =>
    simp only [dateless, Clock.face, Clock.businessDate, missingKind]
    cases bound.bind (·.currentDate?) <;> rfl

/-- For every resolver in every state, every clock and all patterns. A request
fails with the first of its causes, and succeeds exactly if it has none. On a
backend without family an operation is refused whatever the clock shows and the
patterns are, with nothing reported by the clock, and whatever is written holds
nothing of any family. The date that a clock of the library is missing is of the
kind that the activity asks for. -/
theorem outcome_told_by_first_cause (writer : Writer σ) (request : Request) (state : σ) :
    (∀ error, (writer.write request state).1.result = .error error ↔
      firstCause writer request state = some error) ∧
    ((∃ text, (writer.write request state).1.result = .ok text) ↔
      firstCause writer request state = none) ∧
    (∀ backend, (writer.resolve state).1.result = .ok backend → backend.family = none →
      (∀ operation, operationOf request = some operation → ∀ clock formats,
        Writer.write ⟨writer.resolve, clock, formats⟩ request state =
          (⟨(writer.resolve state).1.events ++ [.resolved backend, .unsupported operation backend],
            .error (.unsupported operation backend)⟩, (writer.resolve state).2)) ∧
      ∀ text, (writer.write request state).1.result = .ok text → plainText backend request = some text) ∧
    ∀ clock bound instant, writer.clock = Clock.face clock bound instant → ∀ error,
      dateless writer.clock request = some error ↔
        request = .businessDate ∧ ∃ kind, missingKind clock bound = some kind ∧ error = .missingDate kind := by
  have failed := failure_write writer request state
  refine ⟨fun error => ?_, ?_, ?_, ?_⟩
  · rw [← failed, failure_eq_some_iff]
  · rw [← failed, failure_eq_none_iff]
  · intro backend found alone
    refine ⟨fun operation needed clock formats => ?_, fun text written => plainText_of_ok found alone written⟩
    obtain ⟨next, here, -⟩ := write_operation ⟨writer.resolve, clock, formats⟩ needed
    rw [here]
    exact perFamily_of_none found alone
  · intro clock bound instant shown error
    rw [shown]
    cases request with
    | businessDate => simp [dateless_face, @eq_comm _ error]
    | _ => simp [dateless]

/-- Work at the close of business on SQLite: the closing date is missing, but what
decides is that there is no syntax for it. -/
theorem refusal_before_missing_date :
    let writer := (Resolver.fixed .sqlite).writer (.system .utc) {} (some { activity := .closeOfBusiness })
      .epoch
    (writer.resolve ()).1.result = .ok .sqlite ∧ Backend.sqlite.family = none ∧
      dateless writer.clock .businessDate = some (.missingDate .closing) ∧
      (writer.write .businessDate ()).1.result = .error (.unsupported .currentDate .sqlite) := by
  intro writer
  obtain ⟨-, -, onPlain, dates⟩ := outcome_told_by_first_cause writer .businessDate ()
  have missing := (dates (.system .utc) (some { activity := .closeOfBusiness }) .epoch rfl _).mpr
    ⟨rfl, .closing, rfl, rfl⟩
  have refusal := (onPlain .sqlite rfl rfl).1 .currentDate rfl writer.clock writer.formats
  exact ⟨rfl, rfl, missing, congrArg (fun outcome => outcome.1.result) refusal⟩

end TenantSql.FirstCause
