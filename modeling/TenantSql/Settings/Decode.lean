import TenantSql.Document.Tree
import TenantSql.Settings.Basic
import TenantSql.Sorting

/-!
Reading settings, and what else comes in documents, from the shape of a document. A section that is left
out has its defaults, and so has a field; what is not known is passed over.
-/

namespace TenantSql

open TenantSql.Tree (Convention Mismatch)

namespace Backend

/-- Reads a backend by its name in documents. -/
def decode (convention : Convention) : Tree → Except Mismatch Backend :=
  Tree.asChoice convention documentNames

end Backend

namespace SortKey

/-- Reads a property with its direction, which is ascending if left out. -/
def decode (convention : Convention) (tree : Tree) : Except Mismatch SortKey := do
  let field ← tree.asRecord convention ["property", "direction"]
  let property ← Tree.required "property" Tree.asText (field "property")
  let direction ← Tree.defaulted .ascending (Tree.asChoice convention Direction.documentNames)
    (field "direction")
  return { property, direction }

end SortKey

namespace Sorting

/-- Reads a list of properties with their directions. -/
def decode (convention : Convention) (tree : Tree) : Except Mismatch Sorting := do
  return ⟨← (← tree.asList).mapM (SortKey.decode convention)⟩

end Sorting

namespace Settings

/-- Reads the section of the default database. -/
def decodeDatabase (convention : Convention) (tree : Tree) : Except Mismatch DatabaseSettings := do
  let field ← tree.asRecord convention ["backend", "url", "timezone"]
  let backend ← Tree.optional (Backend.decode convention) (field "backend")
  let url ← Tree.optional Tree.asText (field "url")
  let timezone ← Tree.defaulted "UTC" Tree.asText (field "timezone")
  return { backend, url, timezone }

/-- Reads the section of one tenant. -/
def decodeTenant (convention : Convention) (tree : Tree) : Except Mismatch TenantSettings := do
  let field ← tree.asRecord convention ["backend", "url", "timezone"]
  let backend ← Tree.optional (Backend.decode convention) (field "backend")
  let url ← Tree.optional Tree.asText (field "url")
  let timezone ← Tree.optional Tree.asText (field "timezone")
  return { backend, url, timezone }

/-- Reads the section of patterns. -/
def decodeFormats (convention : Convention) (tree : Tree) : Except Mismatch Formats := do
  let field ← tree.asRecord convention ["date", "date_time"]
  let date ← Tree.defaulted "%Y-%m-%d" Tree.asText (field "date")
  let dateTime ← Tree.defaulted "%Y-%m-%d %H:%M:%S" Tree.asText (field "date_time")
  return { date, dateTime }

/-- Reads settings. -/
def decode (convention : Convention) (tree : Tree) : Except Mismatch Settings := do
  let field ← tree.asRecord convention ["environment", "database", "tenants", "formats"]
  let environment ← Tree.defaulted .development
    (Tree.asChoice convention Environment.documentNames) (field "environment")
  let database ← Tree.defaulted {} (decodeDatabase convention) (field "database")
  let tenants ← Tree.defaulted ⟨[], List.nodup_nil⟩ (Tree.asMap (decodeTenant convention)) (field "tenants")
  let formats ← Tree.defaulted {} (decodeFormats convention) (field "formats")
  return { environment, database, tenants := tenants.1, distinct := tenants.2, formats }

end Settings
end TenantSql
