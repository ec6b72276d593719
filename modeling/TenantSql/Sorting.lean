import TenantSql.Error

/-!
Orderings of query results: a list of properties, each ascending or descending, in order of weight.
`Sorting.parse` reads the text of a request: entries between commas, each of them `property`,
`-property` or `property direction`.
-/

namespace TenantSql

/-- The direction in which a property is ordered. -/
inductive Direction where
  | ascending
  | descending
  deriving Repr, DecidableEq, Inhabited

namespace Direction

/-- The keyword of the direction in SQL. -/
def keyword : Direction → String
  | ascending => "ASC"
  | descending => "DESC"

/-- The name of the direction in documents. -/
def name : Direction → String
  | ascending => "asc"
  | descending => "desc"

/-- The directions under their names in documents. -/
def documentNames : List (String × Direction) := [("asc", ascending), ("desc", descending)]

/-- The words people use for a direction, in lower case. -/
def spokenNames : List (String × Direction) :=
  [("asc", ascending), ("ascending", ascending), ("desc", descending), ("descending", descending)]

/-- The direction a word names, whatever its letter case and the blanks around it. An unknown word is
quoted in lower case. -/
def parse (text : String) : Except Error Direction :=
  let word := String.ofList (Text.lower (Text.trim text.toList))
  match spokenNames.lookup word with
  | some direction => .ok direction
  | none => .error (.invalidSort (.unknownDirection word))

end Direction

/-- A property and its direction. -/
structure SortKey where
  property : String
  direction : Direction := .ascending
  deriving Repr, DecidableEq, Inhabited

/-- Properties in order of weight, the heaviest first. -/
structure Sorting where
  keys : List SortKey := []
  deriving Repr, DecidableEq, Inhabited

namespace Sorting

/-- The ordering that leaves everything as it comes. -/
def unsorted : Sorting := ⟨[]⟩

/-- One property, ascending. -/
def ascending (property : String) : Sorting := ⟨[⟨property, .ascending⟩]⟩

/-- One property, descending. -/
def descending (property : String) : Sorting := ⟨[⟨property, .descending⟩]⟩

/-- The second ordering decides where the first does not. -/
def followedBy (first second : Sorting) : Sorting := ⟨first.keys ++ second.keys⟩

@[simp] theorem unsorted_followedBy (sorting : Sorting) : unsorted.followedBy sorting = sorting := rfl

@[simp] theorem followedBy_unsorted (sorting : Sorting) : sorting.followedBy unsorted = sorting :=
  congrArg Sorting.mk (List.append_nil sorting.keys)

/-- One more key, of less weight than all others. -/
def push (sorting : Sorting) (key : SortKey) : Sorting := ⟨sorting.keys ++ [key]⟩

/-- The property of an entry and the direction it has if no word names one: a leading dash stands
for descending and is no part of the property. -/
def leadingWord : List Char → List Char × Direction
  | '-' :: property => (property, .descending)
  | property => (property, .ascending)

/-- Reads one entry that is not blank. A word in the place of the direction that names none is reported
before the shape of the entry. -/
def parseEntry (entry : List Char) : Except Error SortKey :=
  let malformed : Except Error SortKey :=
    .error (.invalidSort (.malformedEntry (String.ofList entry)))
  match Text.words entry with
  | [] => malformed
  | first :: rest =>
    let (property, implied) := leadingWord first
    match rest with
    | [] => if property.isEmpty then malformed else .ok ⟨String.ofList property, implied⟩
    | word :: surplus => do
      let direction ← Direction.parse (String.ofList word)
      if property.isEmpty || !surplus.isEmpty then malformed
      else .ok ⟨String.ofList property, direction⟩

/-- The entries of a request text: what stands between commas, trimmed, and not blank. -/
def entries (text : List Char) : List (List Char) :=
  ((Text.pieces (· == ',') text).map Text.trim).filter (!·.isEmpty)

/-- Reads the text of a request. The first entry that cannot be read decides the error. -/
def parse (text : String) : Except Error Sorting := do
  return ⟨← (entries text.toList).mapM parseEntry⟩

end Sorting
end TenantSql
