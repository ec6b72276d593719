import TenantSql.Text.Blank
import TenantSql.Text.Case

/-!
The kinds of columns a literal may belong to. A kind only decides whether the literal is written
between quotes; `ofTypeName` reads the kind from the type name a database reports, putting aside letter
case, a length in parentheses and the word UNSIGNED.
-/

namespace TenantSql

/-- What a column holds. -/
inductive ColumnKind where
  | bit | boolean
  | tinyInt | smallInt | integer | bigInt | real | float | double | numeric | decimal
  | char | varchar | longVarchar | text | nChar | nVarchar | clob
  | date | time | timeWithTimezone | timestamp | timestampWithTimezone
  | binary | varbinary | blob
  | json | jsonb | uuid | other
  deriving Repr, DecidableEq, Inhabited

namespace ColumnKind

/-- Every kind. -/
def all : List ColumnKind :=
  [bit, boolean, tinyInt, smallInt, integer, bigInt, real, float, double, numeric, decimal,
    char, varchar, longVarchar, text, nChar, nVarchar, clob, date, time, timeWithTimezone,
    timestamp, timestampWithTimezone, binary, varbinary, blob, json, jsonb, uuid, other]

/-- The name of the kind in documents. -/
def name : ColumnKind → String
  | bit => "bit"
  | boolean => "boolean"
  | tinyInt => "tiny_int"
  | smallInt => "small_int"
  | integer => "integer"
  | bigInt => "big_int"
  | real => "real"
  | float => "float"
  | double => "double"
  | numeric => "numeric"
  | decimal => "decimal"
  | char => "char"
  | varchar => "varchar"
  | longVarchar => "long_varchar"
  | text => "text"
  | nChar => "n_char"
  | nVarchar => "n_varchar"
  | clob => "clob"
  | date => "date"
  | time => "time"
  | timeWithTimezone => "time_with_timezone"
  | timestamp => "timestamp"
  | timestampWithTimezone => "timestamp_with_timezone"
  | binary => "binary"
  | varbinary => "varbinary"
  | blob => "blob"
  | json => "json"
  | jsonb => "jsonb"
  | uuid => "uuid"
  | other => "other"

/-- Each kind under its name in documents. -/
def documentNames : List (String × ColumnKind) := all.map fun kind => (kind.name, kind)

/-- Columns of characters. -/
def isString : ColumnKind → Bool
  | char | varchar | longVarchar | text | nChar | nVarchar | clob => true
  | _ => false

/-- Columns of calendar days. -/
def isDate (kind : ColumnKind) : Bool := kind == date

/-- Columns of times of day, with or without zone. -/
def isTime : ColumnKind → Bool
  | time | timeWithTimezone => true
  | _ => false

/-- Columns of points in time, with or without zone. -/
def isTimestamp : ColumnKind → Bool
  | timestamp | timestampWithTimezone => true
  | _ => false

/-- Columns of days, times of day or points in time. -/
def isTemporal (kind : ColumnKind) : Bool := kind.isDate || kind.isTime || kind.isTimestamp

/-- Columns of numbers. A bit and a truth value are no numbers. -/
def isNumeric : ColumnKind → Bool
  | tinyInt | smallInt | integer | bigInt | real | float | double | numeric | decimal => true
  | _ => false

/-- Columns of bytes. -/
def isBinary : ColumnKind → Bool
  | binary | varbinary | blob => true
  | _ => false

/-- Literals of character and temporal columns are written between quotes. -/
def needsQuotes (kind : ColumnKind) : Bool := kind.isString || kind.isTemporal

/-- The type names databases report, in upper case and without a length. -/
def typeNames : List (String × ColumnKind) :=
  [("BIT", bit), ("BOOL", boolean), ("BOOLEAN", boolean), ("TINYINT", tinyInt),
    ("SMALLINT", smallInt), ("INT2", smallInt), ("SMALLSERIAL", smallInt),
    ("INT", integer), ("INTEGER", integer), ("INT4", integer), ("MEDIUMINT", integer),
    ("SERIAL", integer), ("BIGINT", bigInt), ("INT8", bigInt), ("BIGSERIAL", bigInt),
    ("REAL", real), ("FLOAT4", real), ("FLOAT", float), ("DOUBLE", double),
    ("DOUBLE PRECISION", double), ("FLOAT8", double), ("NUMERIC", numeric),
    ("DECIMAL", decimal), ("DEC", decimal), ("CHAR", char), ("CHARACTER", char), ("BPCHAR", char),
    ("VARCHAR", varchar), ("CHARACTER VARYING", varchar), ("NAME", varchar), ("ENUM", varchar),
    ("LONGVARCHAR", longVarchar), ("TEXT", text), ("TINYTEXT", text), ("MEDIUMTEXT", text),
    ("LONGTEXT", text), ("CITEXT", text), ("NCHAR", nChar), ("NVARCHAR", nVarchar), ("CLOB", clob),
    ("DATE", date), ("TIME", time), ("TIME WITHOUT TIME ZONE", time), ("TIMETZ", timeWithTimezone),
    ("TIME WITH TIME ZONE", timeWithTimezone), ("TIMESTAMP", timestamp), ("DATETIME", timestamp),
    ("TIMESTAMP WITHOUT TIME ZONE", timestamp), ("TIMESTAMPTZ", timestampWithTimezone),
    ("TIMESTAMP WITH TIME ZONE", timestampWithTimezone), ("BINARY", binary),
    ("VARBINARY", varbinary), ("BYTEA", varbinary), ("BLOB", blob), ("TINYBLOB", blob),
    ("MEDIUMBLOB", blob), ("LONGBLOB", blob), ("JSON", json), ("JSONB", jsonb), ("UUID", uuid)]

/-- What is left of a type name without blanks around it, letter case, the part from the first
parenthesis on, and any number of UNSIGNED at its end. -/
def baseName (typeName : List Char) : List Char :=
  Text.trim (Text.dropEndings " UNSIGNED".toList
    ((Text.upper (Text.trim typeName)).takeWhile (· ≠ '(')))

/-- The kind of a column whose type a database reports under this name. A name that is not known
belongs to an `other` kind. -/
def ofTypeName (typeName : String) : ColumnKind :=
  (typeNames.lookup (String.ofList (baseName typeName.toList))).getD other

end ColumnKind
end TenantSql
