import TenantSql.Clock
import TenantSql.Dialect
import TenantSql.Formats
import TenantSql.Request
import TenantSql.Resolver

/-!
Writing fragments for the backend of the moment. A writer asks its resolver at most once per request, so
no fragment mixes two dialects, and a resolver that cannot answer ends the request. The resolver is any
machine with a state: nothing is assumed about how its answers hang together. A request for which there
is nothing to write, or which reads the same everywhere, does not ask at all.
-/

namespace TenantSql

/-- What fragments are written with: a resolver over states `σ`, the readings of a clock, and patterns. -/
structure Writer (σ : Type) where
  resolve : σ → Traced Backend × σ
  clock : ClockFace
  formats : Formats := {}

namespace Writer

variable {σ : Type}

/-- A piece of work that may ask the resolver. -/
abbrev Work (σ α : Type) := σ → Traced α × σ

/-- Work that leaves the resolver alone. -/
def settled (text : String) : Work σ String := fun state => (pure text, state)

/-- Asks the resolver, reports its answer, and goes on with it. -/
def withBackend (writer : Writer σ) (next : Backend → Traced String) : Work σ String := fun state =>
  let (answer, after) := writer.resolve state
  (do
    let backend ← answer
    Traced.report (.resolved backend)
    next backend, after)

/-- The family of a backend, or the refusal of an operation it has no syntax for. -/
def familyFor (operation : Operation) (backend : Backend) : Traced Family :=
  match backend.family with
  | some family => pure family
  | none => .failWith (.unsupported operation backend) (.unsupported operation backend)

/-- A fragment of the family that the resolver's answer belongs to. -/
def perFamily (writer : Writer σ) (operation : Operation) (next : Family → Traced String) :
    Work σ String :=
  writer.withBackend fun backend => do next (← familyFor operation backend)

/-- The text that answers a request. -/
def write (writer : Writer σ) : Request → Work σ String
  | .backendName => writer.withBackend fun backend => pure backend.name
  | .identifier name => writer.withBackend fun backend => pure (backend.identifier name)
  | .literal kind value => settled (kind.literal value)
  | .groupConcat expression =>
    writer.perFamily .groupConcat fun family => pure (family.groupConcat expression)
  | .limit count => writer.perFamily .limit fun family => pure (family.limit count 0)
  | .limitOffset count offset => writer.perFamily .limit fun family => pure (family.limit count offset)
  | .foundRowsMarker => writer.withBackend fun backend => pure (Fragment.foundRowsMarker backend)
  | .countLastRows query =>
    writer.withBackend fun backend => pure (Fragment.countLastRows backend query)
  | .countRows query => settled (Fragment.countRows query)
  | .businessDate =>
    writer.perFamily .currentDate fun family => do
      let date ← writer.clock.businessDate
      return family.dateLiteral (← writer.formats.printDate date)
  | .tenantDate =>
    writer.perFamily .currentDate fun family => do
      return family.dateLiteral (← writer.formats.printDate writer.clock.tenantDate)
  | .tenantDateTime =>
    writer.perFamily .currentDateTime fun family => do
      return family.timestampLiteral (← writer.formats.printDateTime writer.clock.tenantTime)
  | .subtractDate date multiplier unit =>
    writer.perFamily .subtractDate fun family => pure (family.subtractDate date multiplier unit)
  | .dateDifference later earlier =>
    writer.perFamily .dateDifference fun family => pure (family.dateDifference later earlier)
  | .lastInsertId => writer.perFamily .lastInsertId fun family => pure family.lastInsertId
  | .castToCharacter expression =>
    writer.perFamily .castToCharacter fun family => pure (family.castToCharacter expression)
  | .castToInteger expression =>
    writer.perFamily .castToInteger fun family => pure (family.castToInteger expression)
  | .castToJson expression =>
    writer.perFamily .castToJson fun family => pure (family.castToJson expression)
  | .currentSchema => writer.perFamily .currentSchema fun family => pure family.currentSchema
  | .qualified field label => settled (Fragment.qualified field label)
  | .select fields label embedded =>
    if fields.isEmpty then settled ""
    else writer.withBackend fun backend =>
      pure (Fragment.clause "SELECT" embedded (Fragment.selectList backend fields label))
  | .table none _ _ => settled ""
  | .table (some definition) label embedded =>
    writer.withBackend fun backend =>
      pure (Fragment.clause "FROM" embedded (Fragment.tableReference backend definition label))
  | .join table label column otherLabel otherColumn kind =>
    writer.withBackend fun backend =>
      pure (Fragment.joinClause backend table label column otherLabel otherColumn kind)
  | .orderBy sorting label embedded =>
    if sorting.keys.isEmpty then settled ""
    else writer.withBackend fun backend =>
      pure (Fragment.clause "ORDER BY" embedded (Fragment.orderList backend sorting label))

end Writer

/-- The writer for the work in a scope at an instant. Its resolver does not change while it answers. -/
def Resolver.writer (resolver : Resolver) (clock : Clock) (formats : Formats) (bound : Option Scope)
    (instant : Instant) : Writer Unit where
  resolve _ := (resolver.backend bound, ())
  clock := clock.face bound instant
  formats := formats

/-- What is written, in a scope at an instant, for a request. -/
def Resolver.answer (resolver : Resolver) (clock : Clock) (formats : Formats) (bound : Option Scope)
    (instant : Instant) (request : Request) : Traced String :=
  ((resolver.writer clock formats bound instant).write request ()).1

end TenantSql
