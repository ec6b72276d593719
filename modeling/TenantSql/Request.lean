import TenantSql.ColumnKind
import TenantSql.Join
import TenantSql.Sorting

/-!
The fragments of SQL that can be asked for, whatever the backend.
-/

namespace TenantSql

/-- A fragment that is asked for. An embedded clause is written without its keyword. -/
inductive Request where
  /-- The name of the backend itself. -/
  | backendName
  | identifier (name : String)
  | literal (kind : ColumnKind) (value : String)
  | groupConcat (expression : String)
  | limit (count : Nat)
  | limitOffset (count offset : Nat)
  | foundRowsMarker
  | countLastRows (query : String)
  | countRows (query : String)
  | businessDate
  | tenantDate
  | tenantDateTime
  | subtractDate (date multiplier unit : String)
  | dateDifference (later earlier : String)
  | lastInsertId
  | castToCharacter (expression : String)
  | castToInteger (expression : String)
  | castToJson (expression : String)
  | currentSchema
  | qualified (field : String) (label : Option String)
  | select (fields : List String) (label : Option String) (embedded : Bool)
  | table (definition : Option String) (label : Option String) (embedded : Bool)
  | join (table : String) (label : Option String) (column : String) (otherLabel : Option String)
      (otherColumn : String) (kind : Join)
  | orderBy (sorting : Sorting) (label : Option String) (embedded : Bool)
  deriving Repr, DecidableEq

end TenantSql
