import TenantSql.Text.Blank
import TenantSql.Text.Case

/-!
The kinds of joins. `Join.ofText` recognises the keywords of SQL in any letter case; any other text is
kept as a keyword of its own. Blank text stands for a join without keyword.
-/

namespace TenantSql

/-- How two tables are joined. -/
inductive Join where
  | plain
  | inner
  | left
  | right
  | full
  | cross
  /-- Any other keyword, such as LEFT OUTER. -/
  | custom (text : String)
  deriving Repr, DecidableEq, Inhabited

namespace Join

/-- The keywords of SQL, and the empty one. -/
def keywords : List (String × Join) :=
  [("", plain), ("INNER", inner), ("LEFT", left), ("RIGHT", right), ("FULL", full),
    ("CROSS", cross)]

/-- What stands before JOIN, if anything does. It is never blank at an end. -/
def keyword : Join → Option String
  | plain => none
  | inner => some "INNER"
  | left => some "LEFT"
  | right => some "RIGHT"
  | full => some "FULL"
  | cross => some "CROSS"
  | custom text =>
    let trimmed := Text.trim text.toList
    if trimmed.isEmpty then none else some (String.ofList trimmed)

/-- The join a text asks for. A text that is no keyword of SQL is kept in its own letter case. -/
def ofText (text : String) : Join :=
  let trimmed := Text.trim text.toList
  (keywords.lookup (String.ofList (Text.upper trimmed))).getD (custom (String.ofList trimmed))

/-- The join an optional text asks for; none stands for a join without keyword. -/
def ofOptionalText (text : Option String) : Join := (text.map ofText).getD plain

end Join
end TenantSql
