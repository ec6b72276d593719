import TenantSql.Document.Tree

/-!
The values of a TOML document. `Value.tree` makes a document to be read out of one; a date-time becomes a
record with one reserved field, so that it can stand neither for a text nor for a number. A number without
a value, or beyond every range, is no fault of the document as long as nobody looks at it.
-/

namespace TenantSql

/-- A floating-point number, by what can be seen of it. -/
inductive FloatKind where
  | finite
  | infinite
  | nan
  /-- Decimal digits for a number beyond every finite one. -/
  | overflowing
  deriving Repr, DecidableEq

/-- A value of a TOML document. The entries of tables are in ascending order of keys. -/
inductive Value where
  | string (text : String)
  | integer (value : Int)
  | float (kind : FloatKind)
  | boolean (value : Bool)
  | datetime (text : String)
  | array (items : List Value)
  | table (entries : List (String × Value))
  /-- What looks like a whole number and is none. -/
  | unreadable
  deriving Repr, Inhabited

namespace Value

/-- The name of the type of a value. -/
def typeName : Value → String
  | string _ => "string"
  | integer _ => "integer"
  | float _ => "float"
  | boolean _ => "boolean"
  | datetime _ => "datetime"
  | array _ => "array"
  | table _ => "table"
  | unreadable => "integer"

/-- The field under which a date-time is kept in a document to be read. -/
def datetimeField : String := "$__toml_private_datetime"

/-- Whole numbers that can be looked at have 128 bits, with sign if they are negative. -/
def isInReach (value : Int) : Bool := -Int.pow 2 127 ≤ value && value < Int.pow 2 128

mutual
/-- The document to be read from a value, with `notFinite` for infinities and what is no number. -/
def tree (notFinite : Tree) : Value → Tree
  | string text => .text text
  | integer value => if isInReach value then .number else .unreadable
  | float .finite => .number
  | float .overflowing => .unreadable
  | float _ => notFinite
  | boolean value => .boolean value
  | datetime text => .record [(datetimeField, .text text)]
  | array items => .list (itemTrees notFinite items)
  | table entries => .record (entryTrees notFinite entries)
  | unreadable => .unreadable

/-- The documents of the items of an array. -/
def itemTrees (notFinite : Tree) : List Value → List Tree
  | [] => []
  | item :: rest => item.tree notFinite :: itemTrees notFinite rest

/-- The documents of the entries of a table. -/
def entryTrees (notFinite : Tree) : List (String × Value) → List (String × Tree)
  | [] => []
  | (key, value) :: rest => (key, value.tree notFinite) :: entryTrees notFinite rest
end

mutual
/-- Whether two values are the same. -/
def same : Value → Value → Bool
  | string one, string other => one == other
  | integer one, integer other => one == other
  | float one, float other => one == other
  | boolean one, boolean other => one == other
  | datetime one, datetime other => one == other
  | array one, array other => sameItems one other
  | table one, table other => sameEntries one other
  | unreadable, unreadable => true
  | _, _ => false

/-- Whether two arrays hold the same items. -/
def sameItems : List Value → List Value → Bool
  | [], [] => true
  | one :: rest, other :: others => one.same other && sameItems rest others
  | _, _ => false

/-- Whether two tables hold the same entries. -/
def sameEntries : List (String × Value) → List (String × Value) → Bool
  | [], [] => true
  | (key, one) :: rest, (name, other) :: others => key == name && one.same other && sameEntries rest others
  | _, _ => false
end

mutual
theorem same_iff : ∀ one other : Value, one.same other = true ↔ one = other
  | array one, other => by cases other <;> simp [same, sameItems_iff one]
  | table one, other => by cases other <;> simp [same, sameEntries_iff one]
  | string _, other | integer _, other | float _, other | boolean _, other | datetime _, other
  | unreadable, other => by cases other <;> simp [same]

theorem sameItems_iff : ∀ one other : List Value, sameItems one other = true ↔ one = other
  | [], other => by cases other <;> simp [sameItems]
  | one :: rest, other => by cases other <;> simp [sameItems, same_iff one, sameItems_iff rest]

theorem sameEntries_iff : ∀ one other : List (String × Value), sameEntries one other = true ↔ one = other
  | [], other => by cases other <;> simp [sameEntries]
  | (key, one) :: rest, other => by
    cases other <;> simp [sameEntries, Prod.ext_iff, same_iff one, sameEntries_iff rest, and_assoc]
end

instance : DecidableEq Value := fun one other => decidable_of_iff _ (same_iff one other)

end Value
end TenantSql
