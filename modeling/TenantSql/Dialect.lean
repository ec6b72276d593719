import TenantSql.Backend
import TenantSql.ColumnKind
import TenantSql.Join
import TenantSql.Sorting

/-!
The fragments of SQL as each family writes them. Texts are trusted: an identifier is put between the
quote characters of its family and a value between single quotes, and nothing in them is escaped.
-/

namespace TenantSql

/-- The character around identifiers. -/
def Family.quote : Family → String
  | .mysql => "`"
  | .postgres => "\""

/-- An identifier as the backend writes it; without a family it is left as it is. -/
def Backend.identifier (backend : Backend) (name : String) : String :=
  match backend.family with
  | some family => family.quote ++ name ++ family.quote
  | none => name

/-- A literal of a column, between single quotes if the column asks for them. -/
def ColumnKind.literal (kind : ColumnKind) (value : String) : String :=
  if kind.needsQuotes then "'" ++ value ++ "'" else value

namespace Family

/-- The values of a group, separated by commas. -/
def groupConcat (family : Family) (expression : String) : String :=
  match family with
  | mysql => "GROUP_CONCAT(" ++ expression ++ ")"
  | postgres => "STRING_AGG(" ++ expression ++ "::varchar, ',')"

/-- At most `count` rows after the first `offset`. -/
def limit (family : Family) (count offset : Nat) : String :=
  match family with
  | mysql => "LIMIT " ++ offset.repr ++ "," ++ count.repr
  | postgres => "LIMIT " ++ count.repr ++ " OFFSET " ++ offset.repr

/-- A date literal around a printed date. -/
def dateLiteral (family : Family) (printed : String) : String :=
  match family with
  | mysql => "DATE('" ++ printed ++ "')"
  | postgres => "DATE '" ++ printed ++ "'"

/-- A timestamp literal around a printed date-time. -/
def timestampLiteral (family : Family) (printed : String) : String :=
  match family with
  | mysql => "TIMESTAMP('" ++ printed ++ "')"
  | postgres => "TIMESTAMP '" ++ printed ++ "'"

/-- A date so many units earlier. -/
def subtractDate (family : Family) (date multiplier unit : String) : String :=
  match family with
  | mysql => "DATE_SUB(" ++ date ++ ", INTERVAL " ++ multiplier ++ " " ++ unit ++ ")"
  | postgres => "(" ++ date ++ "::TIMESTAMP - " ++ multiplier ++ " * INTERVAL '1 " ++ unit ++ "')"

/-- The whole days between two dates. -/
def dateDifference (family : Family) (later earlier : String) : String :=
  match family with
  | mysql => "DATEDIFF(" ++ later ++ ", " ++ earlier ++ ")"
  | postgres => "EXTRACT(DAY FROM (" ++ later ++ "::TIMESTAMP - " ++ earlier ++ "::TIMESTAMP))"

/-- The last key generated on the connection. -/
def lastInsertId : Family → String
  | mysql => "LAST_INSERT_ID()"
  | postgres => "LASTVAL()"

/-- An expression as text. -/
def castToCharacter (family : Family) (expression : String) : String :=
  match family with
  | mysql => "CAST(" ++ expression ++ " AS CHAR)"
  | postgres => expression ++ "::CHAR"

/-- An expression as a whole number. -/
def castToInteger (family : Family) (expression : String) : String :=
  match family with
  | mysql => "CAST(" ++ expression ++ " AS SIGNED INTEGER)"
  | postgres => expression ++ "::INTEGER"

/-- An expression as JSON; MySQL needs no cast. -/
def castToJson (family : Family) (expression : String) : String :=
  match family with
  | mysql => expression
  | postgres => expression ++ " ::json"

/-- The schema of the connection. -/
def currentSchema : Family → String
  | mysql => "SCHEMA()"
  | postgres => "CURRENT_SCHEMA()"

end Family

namespace Fragment

/-- The marker by which MySQL counts all rows of a limited query; others need none. -/
def foundRowsMarker (backend : Backend) : String :=
  if backend.isMySql then "SQL_CALC_FOUND_ROWS" else ""

/-- The number of rows a query returns. -/
def countRows (query : String) : String := "SELECT COUNT(*) FROM (" ++ query ++ ") AS temp"

/-- The number of rows the last query would have returned without its limit. -/
def countLastRows (backend : Backend) (query : String) : String :=
  if backend.isMySql then "SELECT FOUND_ROWS()" else countRows query

/-- An alias that is there: an empty one stands for none. -/
def given (label : Option String) : Option String := label.filter (!·.isEmpty)

/-- A field behind its alias, if there is one. -/
def qualified (field : String) (label : Option String) : String :=
  match given label with
  | some label => label ++ "." ++ field
  | none => field

/-- A clause with its keyword, unless it is to be embedded in a statement that has one. -/
def clause (keyword : String) (embedded : Bool) (body : String) : String :=
  if embedded then body else keyword ++ " " ++ body

/-- The quoted fields in order, each behind the alias. -/
def selectList (backend : Backend) (fields : List String) (label : Option String) : String :=
  Text.joined ", " (fields.map fun field => qualified (backend.identifier field) label)

/-- A quoted table with its alias. -/
def tableReference (backend : Backend) (table : String) (label : Option String) : String :=
  backend.identifier table ++
    (match given label with
      | some label => " " ++ label
      | none => "")

/-- A join of a table on the equality of one of its columns with a column of another. -/
def joinClause (backend : Backend) (table : String) (label : Option String) (column : String)
    (otherLabel : Option String) (otherColumn : String) (kind : Join) : String :=
  (match kind.keyword with
    | some keyword => keyword ++ " JOIN "
    | none => "JOIN ") ++
    tableReference backend table label ++ " ON " ++
    qualified (backend.identifier column) label ++ " = " ++
    qualified (backend.identifier otherColumn) otherLabel

/-- The quoted properties in order of weight, each behind the alias and before its direction. -/
def orderList (backend : Backend) (sorting : Sorting) (label : Option String) : String :=
  Text.joined ", " (sorting.keys.map fun key =>
    qualified (backend.identifier key.property) label ++ " " ++ key.direction.keyword)

end Fragment
end TenantSql
