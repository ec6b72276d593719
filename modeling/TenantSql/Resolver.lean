import TenantSql.Assoc
import TenantSql.Scope

/-!
Which backend the current work talks to. A fixed resolver always gives the same answer. A resolver for
tenants answers with the backend of the bound tenant: the tenant's own if it has one, else the registered
one, else none at all. Its default is only for work without a tenant.
-/

namespace TenantSql

/-- The tenants that are registered, and the backend of each. -/
structure Registry where
  entries : List (String × Backend) := []
  deriving Repr, DecidableEq

namespace Registry

/-- Nobody is registered. -/
def empty : Registry := ⟨[]⟩

/-- Puts a tenant on a backend, in the place of an earlier one. -/
def register (registry : Registry) (identifier : String) (backend : Backend) : Traced Registry :=
  ⟨[.registering identifier backend], .ok ⟨Assoc.put identifier backend registry.entries⟩⟩

/-- Removes a tenant; what was registered is given back. -/
def unregister (registry : Registry) (identifier : String) : Option Backend × Registry :=
  (registry.entries.lookup identifier, ⟨Assoc.remove identifier registry.entries⟩)

/-- The backend a tenant is registered on. -/
def backendFor (registry : Registry) (identifier : String) : Except Error Backend :=
  match registry.entries.lookup identifier with
  | some backend => .ok backend
  | none => .error (.unknownTenant identifier)

/-- The number of registered tenants. -/
def count (registry : Registry) : Nat := registry.entries.length

/-- The registered tenants. -/
def identifiers (registry : Registry) : List String := registry.entries.map (·.1)

end Registry

/-- The answer to the question which backend is meant. -/
inductive Resolver where
  | fixed (backend : Backend)
  | tenants (default : Backend) (registry : Registry)
  deriving Repr, DecidableEq

namespace Resolver

/-- The backend of the work in a scope. -/
def backend (resolver : Resolver) (bound : Option Scope) : Traced Backend :=
  match resolver with
  | fixed backend => pure backend
  | tenants default registry =>
    match bound.bind (·.tenant) with
    | none => pure default
    | some tenant =>
      match tenant.backend with
      | some backend => pure backend
      | none =>
        match registry.backendFor tenant.identifier with
        | .ok backend => pure backend
        | .error error => .failWith (.unregistered tenant.identifier) error

/-- Whether the work talks to MySQL or MariaDB. -/
def isMySql (resolver : Resolver) (bound : Option Scope) : Traced Bool :=
  return (← resolver.backend bound).isMySql

/-- Whether the work talks to PostgreSQL. -/
def isPostgres (resolver : Resolver) (bound : Option Scope) : Traced Bool :=
  return (← resolver.backend bound).isPostgres

end Resolver
end TenantSql
