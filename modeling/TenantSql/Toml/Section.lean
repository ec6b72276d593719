import TenantSql.Toml.Scalar

/-!
Tables while a document is being read. A table remembers how it came about, because that decides what may
still be added: a header may name a table that so far was only implied, once; a dotted key puts its value
into a table that dotted keys made, and goes there through no table that a header names; and what was
written as a value is complete.
-/

namespace TenantSql.Toml

/-- How a table came about. -/
inductive Origin where
  /-- A header names it. -/
  | header
  /-- A header names a table inside it. -/
  | implied
  /-- A dotted key leads through it. -/
  | dotted
  deriving Repr, DecidableEq

/-- What stands under a key. -/
inductive Node where
  /-- A value, complete as it is. -/
  | value (held : Value)
  | table (origin : Origin) (held : List (String × Node))
  /-- The tables that headers in double brackets have added so far. -/
  | rows (held : List (List (String × Node)))
  deriving Repr, Inhabited

/-- The entries of a table. -/
abbrev Section := List (String × Node)

namespace Node

mutual
/-- The value a node has come to. -/
def toValue : Node → Value
  | .value held => held
  | .table _ held => .table (entryValues held)
  | .rows held => .array (rowValues held)

/-- The values under the keys of a section. -/
def entryValues : List (String × Node) → List (String × Value)
  | [] => []
  | (key, node) :: rest => (key, node.toValue) :: entryValues rest

/-- The tables of an array of tables. -/
def rowValues : List (List (String × Node)) → List Value
  | [] => []
  | row :: rest => .table (entryValues row) :: rowValues rest
end

end Node

namespace Section

/-- Puts a value under a dotted key, relative to a table. Of an array of tables the key goes through the
last one. -/
def assign (value : Value) : List String → Section → Except Fault Section
  | [], _ => .error (.expected "a key")
  | [key], entries =>
    match entries.lookup key with
    | none => .ok (Assoc.put key (.value value) entries)
    | some _ => .error (.duplicateKey key)
  | key :: rest, entries =>
    match entries.lookup key with
    | none => do return Assoc.put key (.table .dotted (← assign value rest [])) entries
    | some (.table .dotted held) => do
      return Assoc.put key (.table .dotted (← assign value rest held)) entries
    | some (.table .implied held) =>
      if rest.length = 1 then .error (.notExtensible key)
      else do return Assoc.put key (.table .implied (← assign value rest held)) entries
    | some (.rows rows) =>
      if rest.length = 1 then .error (.notExtensible key)
      else do
        let last ← assign value rest (rows.getLast?.getD [])
        return Assoc.put key (.rows (rows.dropLast ++ [last])) entries
    | some _ => .error (.notExtensible key)

/-- Changes the table that a path of headers leads to. Of an array of tables it is the last one; a
table that is not there yet is implied. -/
def changeAt (change : Section → Except Fault Section) : List String → Section → Except Fault Section
  | [], entries => change entries
  | key :: rest, entries =>
    match entries.lookup key with
    | none => do return Assoc.put key (.table .implied (← changeAt change rest [])) entries
    | some (.table origin held) => do
      return Assoc.put key (.table origin (← changeAt change rest held)) entries
    | some (.rows rows) => do
      let last ← changeAt change rest (rows.getLast?.getD [])
      return Assoc.put key (.rows (rows.dropLast ++ [last])) entries
    | some (.value _) => .error (.notExtensible key)

/-- Opens the table under a key by a header of its own. -/
def openTable (key : String) (entries : Section) : Except Fault Section :=
  match entries.lookup key with
  | none => .ok (Assoc.put key (.table .header []) entries)
  | some (.table .implied held) => .ok (Assoc.put key (.table .header held) entries)
  | some _ => .error (.duplicateKey key)

/-- Adds a table to the array under a key. -/
def openRow (key : String) (entries : Section) : Except Fault Section :=
  match entries.lookup key with
  | none => .ok (Assoc.put key (.rows [[]]) entries)
  | some (.rows rows) => .ok (Assoc.put key (.rows (rows ++ [[]])) entries)
  | some _ => .error (.duplicateKey key)

/-- Changes the table under the last key of a path, in the table the others lead to. -/
def openAt (change : String → Section → Except Fault Section) (path : List String)
    (entries : Section) : Except Fault Section :=
  match path.getLast? with
  | some key => changeAt (change key) path.dropLast entries
  | none => .error (.expected "a key")

end Section
end TenantSql.Toml
