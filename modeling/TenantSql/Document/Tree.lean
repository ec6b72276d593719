import TenantSql.Assoc

/-!
Documents as they are read into records: texts, lists and records of fields, with everything a
configuration has no use for reduced to its kind. The decoders say what each shape may stand for. Where
formats differ in what they accept, a `Convention` says so.
-/

namespace TenantSql

/-- A document to be read. -/
inductive Tree where
  | null
  | boolean (value : Bool)
  /-- A number. No field is read from one, so its value is not kept. -/
  | number
  /-- A number that nobody may look at. -/
  | unreadable
  | text (text : String)
  | list (items : List Tree)
  | record (fields : List (String × Tree))
  deriving Repr, Inhabited

namespace Tree

/-- Why a document cannot be read. -/
inductive Mismatch where
  | expected (shape : String)
  | missing (field : String)
  | unknownChoice (name : String)
  | surplus (most : Nat)
  | unreadable (field : String)
  deriving Repr, DecidableEq

/-- The wording of a mismatch. -/
def Mismatch.message : Mismatch → String
  | expected shape => "expected " ++ shape
  | missing field => "missing field '" ++ field ++ "'"
  | unknownChoice name => "unknown variant '" ++ name ++ "'"
  | surplus most => "expected at most " ++ most.repr ++ " entries"
  | unreadable field => "number out of range in field '" ++ field ++ "'"

/-- What formats differ in. -/
structure Convention where
  /-- Whether the value beside the name of a choice says no more than the name. -/
  addsNothing : Tree → Bool
  /-- Whether a list that stands for a record may be longer than the record. -/
  allowsSurplus : Bool

/-- JSON writes nothing as null, and lists that stand for records must fit. -/
def Convention.json : Convention where
  addsNothing
    | .null => true
    | _ => false
  allowsSurplus := false

/-- TOML has no null, so an empty table or array says nothing; what a list holds beyond the fields of a
record is not looked at. -/
def Convention.toml : Convention where
  addsNothing
    | .record fields => fields.isEmpty
    | .list items => items.isEmpty
    | _ => false
  allowsSurplus := true

mutual
/-- Whether everything in a document can be looked at. -/
def isReadable : Tree → Bool
  | unreadable => false
  | list items => itemsReadable items
  | record fields => fieldsReadable fields
  | _ => true

/-- Whether every item of a list can be looked at. -/
def itemsReadable : List Tree → Bool
  | [] => true
  | item :: rest => item.isReadable && itemsReadable rest

/-- Whether every field of a record can be looked at. -/
def fieldsReadable : List (String × Tree) → Bool
  | [] => true
  | (_, field) :: rest => field.isReadable && fieldsReadable rest
end

/-- Reads a text. -/
def asText : Tree → Except Mismatch String
  | .text content => .ok content
  | _ => .error (.expected "a string")

/-- Reads a list. -/
def asList : Tree → Except Mismatch (List Tree)
  | .list items => .ok items
  | _ => .error (.expected "a list")

/-- Reads one of several named choices: its name, or a record of one field under its name that adds
nothing. -/
def asChoice {α : Type} (convention : Convention) (names : List (String × α)) : Tree → Except Mismatch α
  | .text name => named name
  | .record [(name, beside)] => do
    let choice ← named name
    if convention.addsNothing beside then .ok choice else .error (.expected "a name alone")
  | _ => .error (.expected "a name")
where
  named (name : String) : Except Mismatch α :=
    match names.lookup name with
    | some choice => .ok choice
    | none => .error (.unknownChoice name)

theorem asChoice.named_eq_ok {α : Type} {names : List (String × α)} {name : String} {choice : α} :
    asChoice.named names name = .ok choice ↔ names.lookup name = some choice := by
  unfold asChoice.named
  cases names.lookup name <;> simp

/-- Reads a record with these fields, in this order when a list stands for it. Other fields are looked at
and passed over; surplus items of a list are not even looked at. -/
def asRecord (convention : Convention) (names : List String) :
    Tree → Except Mismatch (String → Option Tree)
  | .record fields =>
    match fields.find? fun (name, field) => !names.contains name && !field.isReadable with
    | some (name, _) => .error (.unreadable name)
    | none => .ok fun name => fields.lookup name
  | .list items =>
    if items.length ≤ names.length || convention.allowsSurplus then
      .ok fun name => (names.zip items).lookup name
    else .error (.surplus names.length)
  | _ => .error (.expected "a table")

/-- Reads a record whose fields all have the same shape. Of fields of one name the last one stands. -/
def asMap {α : Type} (decode : Tree → Except Mismatch α) :
    Tree → Except Mismatch { map : List (String × α) // Assoc.Distinct map }
  | .record fields => do
    let pairs ← fields.mapM fun (name, field) => return (name, ← decode field)
    return ⟨Assoc.ofList pairs, (Assoc.ofList_ascending pairs).distinct⟩
  | _ => .error (.expected "a table")

/-- Reads a field that must be there. -/
def required {α : Type} (name : String) (decode : Tree → Except Mismatch α) :
    Option Tree → Except Mismatch α
  | some field => decode field
  | none => .error (.missing name)

/-- Reads a field with a default; null is no way to leave it out. -/
def defaulted {α : Type} (default : α) (decode : Tree → Except Mismatch α) :
    Option Tree → Except Mismatch α
  | some field => decode field
  | none => .ok default

/-- Reads a field that may be left out or null. -/
def optional {α : Type} (decode : Tree → Except Mismatch α) : Option Tree → Except Mismatch (Option α)
  | none => .ok none
  | some .null => .ok none
  | some field => return some (← decode field)

end Tree
end TenantSql
