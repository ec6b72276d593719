import TenantSql.Toml.Datetime
import TenantSql.Document.Value

/-!
Taking a document over as a value, to be worked on before anything is read from it. All of it is looked at,
so every number has to have a value within its range. A table whose first key is the reserved field of
date-times is taken for the date-time that stands there as a text, and the rest of that table is dropped
unseen.
-/

namespace TenantSql.Value

/-- Whole numbers that can be taken over have 64 bits with sign. -/
def isStorable (value : Int) : Bool := -Int.pow 2 63 ≤ value && value < Int.pow 2 63

/-- The date-time that a text stands for. -/
def datetimeIn? : Value → Option Value
  | string text => if Toml.isDatetime text.toList then some (datetime text) else none
  | _ => none

mutual
/-- The value that a document is taken over as, if it can be. -/
def kept? : Value → Option Value
  | integer value => if isStorable value then some (integer value) else none
  | float .overflowing => none
  | array items => (keptItems? items).map array
  | table ((key, value) :: rest) =>
    if key = datetimeField then value.datetimeIn? else do
      return table ((key, ← value.kept?) :: (← keptEntries? rest))
  | unreadable => none
  | other => some other

/-- The items of an array, taken over. -/
def keptItems? : List Value → Option (List Value)
  | [] => some []
  | item :: rest => do return (← item.kept?) :: (← keptItems? rest)

/-- The entries of a table, taken over. -/
def keptEntries? : List (String × Value) → Option (List (String × Value))
  | [] => some []
  | (key, value) :: rest => do return (key, ← value.kept?) :: (← keptEntries? rest)
end

end TenantSql.Value
