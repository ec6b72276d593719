import TenantSql.Writer

/-! A request is written for one backend. Its resolver, any machine whatever, is
asked once or not at all, and the fragment is the one that a resolver fixed on
that single answer would give. -/
namespace TenantSql.SingleQuery
open Writer

variable {σ : Type} {writer : Writer σ} {request : Request} {state : σ} {answers : List (Traced Backend)}

/-- Whether there is something to write that depends on the backend. -/
def Asks : Request → Bool
  | .literal .. | .qualified .. | .countRows _ => false
  | .select fields _ _ => !fields.isEmpty
  | .table definition _ _ => definition.isSome
  | .orderBy sorting _ _ => !sorting.keys.isEmpty
  | _ => true

/-- The same writer, keeping every answer its resolver gives. -/
def recording (writer : Writer σ) : Writer (σ × List (Traced Backend)) where
  resolve := fun (state, answers) =>
    let (answer, after) := writer.resolve state
    (answer, (after, answers ++ [answer]))
  clock := writer.clock
  formats := writer.formats

/-- The answers a resolver gives while one request is written. -/
def answersTo (writer : Writer σ) (request : Request) (state : σ) : List (Traced Backend) :=
  ((recording writer).write request (state, [])).2.2

/-- A writer with the same clock and patterns whose resolver is fixed. -/
def fixedOn (writer : Writer σ) (backend : Backend) : Writer Unit where
  resolve _ := ((Resolver.fixed backend).backend none, ())
  clock := writer.clock
  formats := writer.formats

/-- A request that does not ask has one text for all writers. -/
theorem write_of_not_asks (quiet : Asks request = false) :
    ∃ text, ∀ {τ : Type} (other : Writer τ), other.write request = settled text := by
  cases request with
  | select fields label embedded =>
    have empty : fields.isEmpty = true := by simpa [Asks] using quiet
    exact ⟨"", fun _ => by simp [Writer.write, empty]⟩
  | table definition label embedded =>
    cases definition with
    | none => exact ⟨"", fun _ => rfl⟩
    | some definition => simp [Asks] at quiet
  | orderBy sorting label embedded =>
    have empty : sorting.keys.isEmpty = true := by simpa [Asks] using quiet
    exact ⟨"", fun _ => by simp [Writer.write, empty]⟩
  | literal kind value => exact ⟨_, fun _ => rfl⟩
  | qualified field label => exact ⟨_, fun _ => rfl⟩
  | countRows query => exact ⟨_, fun _ => rfl⟩
  | _ => simp [Asks] at quiet

/-- A request that asks goes on with the first answer, and what it does then is
the same for the writer, for the recording one and for every fixed one. -/
theorem write_of_asks (asks : Asks request = true) (writer : Writer σ) :
    ∃ next, writer.write request = writer.withBackend next ∧
      (recording writer).write request = (recording writer).withBackend next ∧
      ∀ backend, (fixedOn writer backend).write request = (fixedOn writer backend).withBackend next := by
  cases request with
  | select fields label embedded =>
    have filled : fields.isEmpty = false := by simpa [Asks] using asks
    simp only [Writer.write, filled]
    exact ⟨_, rfl, rfl, fun _ => rfl⟩
  | table definition label embedded =>
    cases definition with
    | none => simp [Asks] at asks
    | some definition => exact ⟨_, rfl, rfl, fun _ => rfl⟩
  | orderBy sorting label embedded =>
    have filled : sorting.keys.isEmpty = false := by simpa [Asks] using asks
    simp only [Writer.write, filled]
    exact ⟨_, rfl, rfl, fun _ => rfl⟩
  | literal kind value => simp [Asks] at asks
  | qualified field label => simp [Asks] at asks
  | countRows query => simp [Asks] at asks
  | _ => exact ⟨_, rfl, rfl, fun _ => rfl⟩

/-- Work with an answer stops at a failed one. -/
theorem withBackend_of_error {next : Backend → Traced String} {error : Error}
    (failed : (writer.resolve state).1.result = .error error) :
    writer.withBackend next state =
      (⟨(writer.resolve state).1.events, .error error⟩, (writer.resolve state).2) := by
  simp only [withBackend, Traced.bind_of_error failed]

/-- Work with a good answer is what it is over a resolver fixed on that answer. -/
theorem withBackend_of_ok {next : Backend → Traced String} {backend : Backend}
    (found : (writer.resolve state).1.result = .ok backend) :
    writer.withBackend next state =
      (⟨(writer.resolve state).1.events ++ ((fixedOn writer backend).withBackend next ()).1.events,
        ((fixedOn writer backend).withBackend next ()).1.result⟩, (writer.resolve state).2) := by
  simp only [withBackend, Traced.bind_of_ok found]
  rfl

/-- For every resolver and every state of it. A request that does not ask has a
text whatever the resolver would say, the same text for every writer, and leaves
the resolver as it was. A request that asks gets one answer; the resolver is then
in the state that one answer left it in. If the answer is a backend, the fragment
is the one of a writer fixed on that backend, and if it is an error, that error
is the outcome. Keeping the answers changes nothing that is written. -/
theorem written_for_single_answer (writer : Writer σ) (request : Request) (state : σ) :
    ((recording writer).write request (state, [])).1 = (writer.write request state).1 ∧
    if Asks request then
      answersTo writer request state = [(writer.resolve state).1] ∧
      (writer.write request state).2 = (writer.resolve state).2 ∧
      match (writer.resolve state).1.result with
      | .ok backend =>
        (writer.write request state).1.result = ((fixedOn writer backend).write request ()).1.result ∧
        (writer.write request state).1.events =
          (writer.resolve state).1.events ++ ((fixedOn writer backend).write request ()).1.events
      | .error error =>
        (writer.write request state).1 = ⟨(writer.resolve state).1.events, .error error⟩
    else
      answersTo writer request state = [] ∧
      ∃ text, writer.write request state = (pure text, state) ∧
        ∀ {τ : Type} (other : Writer τ) (otherState : τ),
          other.write request otherState = (pure text, otherState) := by
  cases asks : Asks request with
  | true =>
    obtain ⟨next, here, recorded, fixed⟩ := write_of_asks asks writer
    have asked : answersTo writer request state = [(writer.resolve state).1] := by
      rw [answersTo, recorded]
      rfl
    rw [if_pos rfl, here, recorded]
    refine ⟨rfl, asked, rfl, ?_⟩
    cases answer : (writer.resolve state).1.result with
    | ok backend =>
      simp only [fixed, withBackend_of_ok answer, and_self]
    | error error => simp only [withBackend_of_error answer]
  | false =>
    obtain ⟨text, same⟩ := write_of_not_asks asks
    have unasked : answersTo writer request state = [] := by
      rw [answersTo, same]
      rfl
    rw [if_neg Bool.false_ne_true, same, same]
    exact ⟨rfl, unasked, text, rfl, fun other otherState => by rw [same]; rfl⟩

end TenantSql.SingleQuery
