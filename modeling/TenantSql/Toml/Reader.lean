import TenantSql.Toml.Section

/-!
Reading TOML documents, version 1.1. A document is a sequence of statements, one to a line: headers of
tables, headers of rows, and assignments. `read` scans the statements and carries them out one after the
other on an empty table. Scanning functions that repeat something take a bound on the number of
repetitions: one that the length of the text never reaches, or the limit that documents have to keep to.
-/

namespace TenantSql.Toml

/-- The levels of arrays and inline tables that may be nested in each other, and the keys that dots may
join. -/
def nestingLimit : Nat := 80

/-- Skips blanks, line breaks and comments. `inComment` tells that a comment has begun. -/
def skipGap (inComment : Bool) : List Char → Except Fault (List Char)
  | [] => .ok []
  | '\n' :: rest => skipGap false rest
  | '\r' :: '\n' :: rest => skipGap false rest
  | c :: rest =>
    if inComment then if isPlain c then skipGap true rest else .error .forbiddenCharacter
    else if isLineBlank c then skipGap false rest
    else if c = '#' then skipGap true rest
    else .ok (c :: rest)

/-- Skips what may follow a statement on its line, and the line break. -/
def skipLineEnd (text : List Char) : Except Fault (List Char) :=
  match skipBlanks text with
  | '#' :: rest =>
    let after := rest.dropWhile isPlain
    if after.isEmpty then .ok []
    else
      match afterLineBreak? after with
      | some next => .ok next
      | none => .error .forbiddenCharacter
  | [] => .ok []
  | rest =>
    match afterLineBreak? rest with
    | some next => .ok next
    | none => .error (.expected "a line break")

/-- The characters of keys that stand without quotes. -/
def isKeyChar (c : Char) : Bool := c.isAlphanum || c = '-' || c = '_'

/-- Scans one key. -/
def simpleKey : List Char → Scanned String
  | '"' :: rest => (basicString rest).map fun (key, rest) => (String.ofList key, rest)
  | '\'' :: rest => (literalString rest).map fun (key, rest) => (String.ofList key, rest)
  | text =>
    let key := text.takeWhile isKeyChar
    if key.isEmpty then .error (.expected "a key")
    else .ok (String.ofList key, text.drop key.length)

/-- Scans keys between dots, and the blanks around them. There may be at most as many as the bound. -/
def dottedKey : (bound : Nat) → List Char → Except Fault (List String × List Char)
  | 0, _ => .error .nestedTooDeeply
  | bound + 1, text => do
    let (key, rest) ← simpleKey (skipBlanks text)
    match skipBlanks rest with
    | '.' :: rest => do
      let (keys, rest) ← dottedKey bound rest
      return (key :: keys, rest)
    | rest => return ([key], rest)

/-- Scans a character that must come next. -/
def skipChar (c : Char) : List Char → Except Fault (List Char)
  | [] => .error (.expected c.toString)
  | d :: rest => if d = c then .ok rest else .error (.expected c.toString)

/-- Scans a dotted key, an equals sign and a value. What is skipped on both sides of the sign depends on
where the assignment stands. -/
def assignment (skip : List Char → Except Fault (List Char)) (value : List Char → Scanned Value)
    (text : List Char) : Except Fault ((List String × Value) × List Char) := do
  let (path, rest) ← dottedKey nestingLimit text
  let rest ← skipChar '=' (← skip rest)
  let (value, rest) ← value (← skip rest)
  return ((path, value), rest)

/-- Scans the items of an array after its opening bracket or a comma. -/
def items (value : List Char → Scanned Value) :
    (bound : Nat) → List Char → Except Fault (List Value × List Char)
  | 0, _ => .error (.expected "]")
  | bound + 1, text => do
    match ← skipGap false text with
    | ']' :: rest => return ([], rest)
    | start => do
      let (item, rest) ← value start
      match ← skipGap false rest with
      | ',' :: rest => do
        let (others, rest) ← items value bound rest
        return (item :: others, rest)
      | rest => return ([item], ← skipChar ']' rest)

/-- Scans the entries of an inline table after its opening brace or a comma. -/
def entries (value : List Char → Scanned Value) :
    (bound : Nat) → Section → List Char → Except Fault (Section × List Char)
  | 0, _, _ => .error (.expected "\x7d")
  | bound + 1, held, text => do
    match ← skipGap false text with
    | '\x7d' :: rest => return (held, rest)
    | start => do
      let ((path, value'), rest) ← assignment (skipGap false) value start
      let held ← Section.assign value' path held
      match ← skipGap false rest with
      | ',' :: rest => entries value bound held rest
      | rest => return (held, ← skipChar '\x7d' rest)

/-- Scans a value, in which arrays and inline tables may be nested to a depth. -/
def value : (depth : Nat) → List Char → Scanned Value
  | depth, text =>
    match text with
    | '"' :: '"' :: '"' :: rest => asString (basicLines (withoutLineBreak rest))
    | '"' :: rest => asString (basicString rest)
    | '\'' :: '\'' :: '\'' :: rest => asString (literalLines (withoutLineBreak rest))
    | '\'' :: rest => asString (literalString rest)
    | '[' :: rest =>
      match depth with
      | 0 => .error .nestedTooDeeply
      | depth + 1 => (items (value depth) (text.length + 1) rest).map fun (items, rest) =>
        (.array items, rest)
    | '\x7b' :: rest =>
      match depth with
      | 0 => .error .nestedTooDeeply
      | depth + 1 => (entries (value depth) (text.length + 1) [] rest).map fun (held, rest) =>
        (.table (Node.entryValues held), rest)
    | _ => scalar text
where
  asString (scanned : Scanned (List Char)) : Scanned Value :=
    scanned.map fun (text, rest) => (.string (String.ofList text), rest)

/-- One statement of a document. -/
inductive Statement where
  | table (path : List String)
  | row (path : List String)
  | entry (path : List String) (value : Value)

/-- Scans one statement. -/
def statement (text : List Char) : Except Fault (Statement × List Char) :=
  match text with
  | '[' :: '[' :: rest => do
    let (path, rest) ← dottedKey nestingLimit rest
    let rest ← skipChar ']' rest
    return (.row path, ← skipChar ']' rest)
  | '[' :: rest => do
    let (path, rest) ← dottedKey nestingLimit rest
    return (.table path, ← skipChar ']' rest)
  | _ => (assignment (.ok ∘ skipBlanks) (value nestingLimit) text).map fun ((path, value), rest) =>
    (.entry path value, rest)

/-- Scans statements up to the end of the text. -/
def statements : (bound : Nat) → List Char → Except Fault (List Statement)
  | 0, _ => .error (.expected "the end of the document")
  | bound + 1, text => do
    match ← skipGap false text with
    | [] => return []
    | start => do
      let (first, rest) ← statement start
      let rest ← skipLineEnd rest
      return first :: (← statements bound rest)

/-- A document that is being read: what it holds, and the path of the table that is open. -/
structure Draft where
  root : Section := []
  path : List String := []

/-- Carries out a statement. -/
def Draft.obey (draft : Draft) : Statement → Except Fault Draft
  | .table path => return ⟨← Section.openAt Section.openTable path draft.root, path⟩
  | .row path => return ⟨← Section.openAt Section.openRow path draft.root, path⟩
  | .entry path value =>
    return { draft with root := ← Section.changeAt (Section.assign value path) draft.path draft.root }

/-- The text without a byte order mark at its beginning. -/
def withoutMark : List Char → List Char
  | '\ufeff' :: rest => rest
  | text => text

/-- Reads a document. The answer is always a table. -/
def read (text : String) : Except Fault Value := do
  let text := withoutMark text.toList
  let draft ← (← statements (text.length + 1) text).foldlM Draft.obey {}
  return .table (Node.entryValues draft.root)

end TenantSql.Toml
