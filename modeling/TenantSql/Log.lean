import TenantSql.Error

/-!
What the library reports while it works. An `Event` is something that happened; its level and text are
what a log shows of it. `Traced` is a computation that may fail and keeps the events reported on the way,
also those before a failure.
-/

namespace TenantSql

/-- How much attention an event asks for. -/
inductive Level where
  | error
  | info
  | debug
  | trace
  deriving Repr, DecidableEq

/-- The name of the level. -/
def Level.name : Level → String
  | .error => "error"
  | .info => "info"
  | .debug => "debug"
  | .trace => "trace"

/-- Something that happened. -/
inductive Event where
  /-- A fragment is about to be written for this backend. -/
  | resolved (backend : Backend)
  | unsupported (operation : Operation) (backend : Backend)
  | missingDate (kind : DateKind)
  | unregistered (identifier : String)
  | registering (identifier : String) (backend : Backend)
  | entering (identifier : String)
  | leaving (identifier : String)
  /-- A file for the active environment is about to be read. -/
  | overlaying (path : String)
  | loadedFile (path : String)
  | loadedDirectory (environment : String)
  deriving Repr, DecidableEq

namespace Event

/-- The level an event is reported at. -/
def level : Event → Level
  | resolved _ => .trace
  | unsupported .. | missingDate _ | unregistered _ => .error
  | registering .. | entering _ | leaving _ | overlaying _ | loadedFile _ => .debug
  | loadedDirectory _ => .info

/-- The text an event is reported with. -/
def text : Event → String
  | resolved backend => "Resolved database backend: " ++ backend.name
  | unsupported operation backend =>
    "Database type is not supported for " ++ operation.title ++ ": " ++ backend.name
  | missingDate kind => "No " ++ kind.title ++ " bound to the current execution context"
  | unregistered identifier => "Tenant '" ++ identifier ++ "' has no registered backend"
  | registering identifier backend => "Registering tenant '" ++ identifier ++ "' on " ++ backend.name
  | entering identifier => "Entering execution context for tenant '" ++ identifier ++ "'"
  | leaving identifier => "Leaving execution context for tenant '" ++ identifier ++ "'"
  | overlaying path => "Loading environment-specific config from: " ++ path
  | loadedFile path => "Successfully loaded configuration from: " ++ path
  | loadedDirectory environment =>
    "Configuration loaded and merged successfully (environment: " ++ environment ++ ")"

end Event

/-- A result, or an error, and the events reported on the way to it. -/
structure Traced (α : Type) where
  events : List Event
  result : Except Error α
  deriving Repr

namespace Traced

variable {α β : Type}

/-- Nothing is reported. -/
def of (result : Except Error α) : Traced α := ⟨[], result⟩

/-- One event is reported. -/
def report (event : Event) : Traced Unit := ⟨[event], .ok ()⟩

/-- One event is reported, and the work ends. -/
def failWith (event : Event) (error : Error) : Traced α := ⟨[event], .error error⟩

/-- What follows only happens after a success; events add up. -/
def andThen (first : Traced α) (next : α → Traced β) : Traced β :=
  match first.result with
  | .ok value => ⟨first.events ++ (next value).events, (next value).result⟩
  | .error error => ⟨first.events, .error error⟩

instance : Monad Traced where
  pure value := ⟨[], .ok value⟩
  bind := andThen

instance : MonadLift (Except Error) Traced where
  monadLift := of

@[simp] theorem pure_events (value : α) : (pure value : Traced α).events = [] := rfl

@[simp] theorem pure_result (value : α) : (pure value : Traced α).result = .ok value := rfl

theorem bind_of_ok {first : Traced α} {value : α} (succeeded : first.result = .ok value)
    (next : α → Traced β) :
    first >>= next = ⟨first.events ++ (next value).events, (next value).result⟩ := by
  simp [bind, andThen, succeeded]

theorem bind_of_error {first : Traced α} {error : Error} (failed : first.result = .error error)
    (next : α → Traced β) : first >>= next = ⟨first.events, .error error⟩ := by
  simp [bind, andThen, failed]

/-- The result of a sequence hangs on the results of its parts alone. -/
theorem bind_result (first : Traced α) (next : α → Traced β) :
    (first >>= next).result = first.result.bind fun value => (next value).result := by
  cases done : first.result with
  | ok value => rw [bind_of_ok done, Except.bind]
  | error error => rw [bind_of_error done, Except.bind]

/-- A sequence succeeds if both of its parts do. -/
theorem bind_result_eq_ok {first : Traced α} {next : α → Traced β} {result : β} :
    (first >>= next).result = .ok result ↔
      ∃ value, first.result = .ok value ∧ (next value).result = .ok result := by
  cases succeeded : first.result with
  | ok value => simp [bind_of_ok succeeded]
  | error error => simp [bind_of_error succeeded]

@[simp] theorem liftM_result (result : Except Error α) : (liftM result : Traced α).result = result := rfl

end Traced
end TenantSql
