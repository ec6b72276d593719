import TenantSql.Text.Blank
import TenantSql.Text.Case

/-!
The databases a tenant may run on. MySQL and MariaDB share one family of rules, PostgreSQL is a family
of its own, and SQLite belongs to neither: it is known by name so that asking it for another family's
syntax can be refused. A backend is named in three ways: by a person (`ofName?`), by the scheme of a
connection URL (`ofUrl?`) and in a document (`documentNames`).
-/

namespace TenantSql

/-- A database product. -/
inductive Backend where
  | postgres
  | mysql
  | mariadb
  | sqlite
  deriving Repr, DecidableEq, Inhabited

/-- Backends of one family understand the same fragments. -/
inductive Family where
  | mysql
  | postgres
  deriving Repr, DecidableEq

namespace Backend

/-- Every backend, in the order in which they are listed. -/
def all : List Backend := [.postgres, .mysql, .mariadb, .sqlite]

/-- The name a backend is shown under. -/
def name : Backend → String
  | .postgres => "postgres"
  | .mysql => "mysql"
  | .mariadb => "mariadb"
  | .sqlite => "sqlite"

/-- The family whose rules the backend follows, if it has one. -/
def family : Backend → Option Family
  | .postgres => some .postgres
  | .mysql => some .mysql
  | .mariadb => some .mysql
  | .sqlite => none

/-- Whether the backend follows the rules of MySQL. -/
def isMySql (backend : Backend) : Bool := backend.family == some .mysql

/-- Whether the backend follows the rules of PostgreSQL. -/
def isPostgres (backend : Backend) : Bool := backend.family == some .postgres

/-- The names documents use, one of them an alias. -/
def documentNames : List (String × Backend) :=
  [("postgres", .postgres), ("postgresql", .postgres), ("mysql", .mysql), ("mariadb", .mariadb),
    ("sqlite", .sqlite)]

/-- The names people use, in lower case. -/
def spokenNames : List (String × Backend) :=
  [("postgres", .postgres), ("postgresql", .postgres), ("pg", .postgres), ("mysql", .mysql),
    ("mariadb", .mariadb), ("sqlite", .sqlite), ("sqlite3", .sqlite)]

/-- The beginnings of connection URLs. A SQLite URL needs no slashes. -/
def schemes : List (String × Backend) :=
  [("postgresql://", .postgres), ("postgres://", .postgres), ("mysql://", .mysql),
    ("mariadb://", .mariadb), ("sqlite://", .sqlite), ("sqlite:", .sqlite)]

/-- A spoken name with surrounding blanks and letter case put aside. -/
def plainName (text : String) : String := String.ofList (Text.lower (Text.trim text.toList))

/-- The backend a person names, whatever the letter case and the blanks around the name. -/
def ofName? (text : String) : Option Backend := spokenNames.lookup (plainName text)

/-- The backend a connection URL leads to, told by its scheme alone. -/
def ofUrl? (url : String) : Option Backend :=
  (schemes.find? fun (scheme, _) => scheme.toList.isPrefixOf url.toList).map (·.2)

/-- Every backend can be named by the name it is shown under. -/
theorem documentNames_lookup_name (backend : Backend) :
    documentNames.lookup backend.name = some backend := by
  cases backend <;> decide

end Backend
end TenantSql
