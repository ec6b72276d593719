/-!
The strings of TOML. A scanner takes the characters after an opening quote and gives the text together
with what follows the closing quote. Basic strings know escapes; literal strings show every character as
it is; both have a form of several lines.
-/

namespace TenantSql.Toml

/-- Why a text is no TOML document. -/
inductive Fault where
  | expected (what : String)
  | unterminated
  | forbiddenCharacter
  | invalidEscape
  | invalidScalar (text : String)
  | duplicateKey (key : String)
  | notExtensible (key : String)
  | nestedTooDeeply
  deriving Repr, DecidableEq

/-- The wording of a fault. -/
def Fault.message : Fault → String
  | expected what => "expected " ++ what
  | unterminated => "unterminated string"
  | forbiddenCharacter => "forbidden control character"
  | invalidEscape => "invalid escape sequence"
  | invalidScalar text => "invalid value " ++ text
  | duplicateKey key => "duplicate key " ++ key
  | notExtensible key => "cannot extend " ++ key
  | nestedTooDeeply => "nested too deeply"

/-- What a scanner makes of a text: a result, and the rest of the text. -/
abbrev Scanned (α : Type) := Except Fault (α × List Char)

/-- Characters that may stand on a line: all but controls, and tabs. -/
def isPlain (c : Char) : Bool := c = '\t' || (32 ≤ c.toNat && c.toNat ≠ 127)

/-- The blanks of TOML. Line breaks are none. -/
def isLineBlank (c : Char) : Bool := c = ' ' || c = '\t'

/-- The text without blanks at its beginning; line breaks are kept. -/
def skipBlanks (text : List Char) : List Char := text.dropWhile isLineBlank

/-- The value of a hexadecimal digit. -/
def hexDigit? (c : Char) : Option Nat :=
  if '0' ≤ c ∧ c ≤ '9' then some (c.toNat - '0'.toNat)
  else if 'a' ≤ c ∧ c ≤ 'f' then some (c.toNat - 'a'.toNat + 10)
  else if 'A' ≤ c ∧ c ≤ 'F' then some (c.toNat - 'A'.toNat + 10)
  else none

/-- The number digits spell in a base. -/
def numberOf (base : Nat) (digits : List Char) : Nat :=
  digits.foldl (fun number digit => base * number + (hexDigit? digit).getD 0) 0

/-- The character whose number the next hexadecimal digits spell, and the length of the escape. -/
def numberedChar (digits : Nat) (text : List Char) : Option (Char × Nat) := do
  let values ← (text.take digits).mapM hexDigit?
  let number := values.foldl (fun number value => 16 * number + value) 0
  if values.length = digits ∧ number.isValidChar then some (Char.ofNat number, digits + 1) else none

/-- The character that an escape after a backslash stands for, and the length of the escape. -/
def escape : List Char → Option (Char × Nat)
  | 'b' :: _ => some ('\x08', 1)
  | 't' :: _ => some ('\t', 1)
  | 'n' :: _ => some ('\n', 1)
  | 'f' :: _ => some ('\x0c', 1)
  | 'r' :: _ => some ('\r', 1)
  | 'e' :: _ => some ('\x1b', 1)
  | '"' :: _ => some ('"', 1)
  | '\\' :: _ => some ('\\', 1)
  | 'x' :: rest => numberedChar 2 rest
  | 'u' :: rest => numberedChar 4 rest
  | 'U' :: rest => numberedChar 8 rest
  | _ => none

/-- Puts a character before the text scanned after it. -/
def prepend (c : Char) (scanned : Scanned (List Char)) : Scanned (List Char) :=
  scanned.map fun (text, rest) => (c :: text, rest)

/-- A basic string on one line. -/
def basicString : List Char → Scanned (List Char)
  | [] => .error .unterminated
  | '"' :: rest => .ok ([], rest)
  | '\\' :: rest =>
    match escape rest with
    | some (c, length) => prepend c (basicString (rest.drop length))
    | none => .error .invalidEscape
  | c :: rest => if isPlain c then prepend c (basicString rest) else .error .forbiddenCharacter
termination_by text => text.length
decreasing_by all_goals simp only [List.length_cons, List.length_drop]; omega

/-- A literal string on one line. -/
def literalString : List Char → Scanned (List Char)
  | [] => .error .unterminated
  | '\'' :: rest => .ok ([], rest)
  | c :: rest => if isPlain c then prepend c (literalString rest) else .error .forbiddenCharacter

/-- The text after one line break, if it starts with one. -/
def afterLineBreak? : List Char → Option (List Char)
  | '\n' :: rest => some rest
  | '\r' :: '\n' :: rest => some rest
  | _ => none

/-- The text without the blanks and line breaks it starts with. -/
def skipLines : List Char → List Char
  | ' ' :: rest => skipLines rest
  | '\t' :: rest => skipLines rest
  | '\n' :: rest => skipLines rest
  | '\r' :: '\n' :: rest => skipLines rest
  | rest => rest

theorem length_skipLines_le (text : List Char) : (skipLines text).length ≤ text.length := by
  fun_induction skipLines text <;> simp <;> omega

/-- Whether the text goes on with a new line after blanks. -/
def endsLine (text : List Char) : Bool :=
  (afterLineBreak? (skipBlanks text)).isSome

/-- A basic string of several lines. Line breaks are kept as they are written, but a backslash at the end
of a line joins it to the next one that is not blank. Up to two quotes may stand before the three that
close the string. -/
def basicLines : List Char → Scanned (List Char)
  | [] => .error .unterminated
  | '"' :: '"' :: '"' :: '"' :: '"' :: rest => .ok (['"', '"'], rest)
  | '"' :: '"' :: '"' :: '"' :: rest => .ok (['"'], rest)
  | '"' :: '"' :: '"' :: rest => .ok ([], rest)
  | '\\' :: rest =>
    if endsLine rest then basicLines (skipLines rest)
    else
      match escape rest with
      | some (c, length) => prepend c (basicLines (rest.drop length))
      | none => .error .invalidEscape
  | '\r' :: '\n' :: rest => prepend '\r' (prepend '\n' (basicLines rest))
  | c :: rest =>
    if isPlain c || c = '\n' then prepend c (basicLines rest) else .error .forbiddenCharacter
termination_by text => text.length
decreasing_by
  all_goals simp only [List.length_cons, List.length_drop]
  all_goals first | omega | exact Nat.lt_succ_of_le (length_skipLines_le _)

/-- A literal string of several lines. Line breaks are kept as they are written. -/
def literalLines : List Char → Scanned (List Char)
  | [] => .error .unterminated
  | '\'' :: '\'' :: '\'' :: '\'' :: '\'' :: rest => .ok (['\'', '\''], rest)
  | '\'' :: '\'' :: '\'' :: '\'' :: rest => .ok (['\''], rest)
  | '\'' :: '\'' :: '\'' :: rest => .ok ([], rest)
  | '\r' :: '\n' :: rest => prepend '\r' (prepend '\n' (literalLines rest))
  | c :: rest =>
    if isPlain c || c = '\n' then prepend c (literalLines rest) else .error .forbiddenCharacter

/-- A line break right after three opening quotes is no part of the string. -/
def withoutLineBreak (text : List Char) : List Char := (afterLineBreak? text).getD text

end TenantSql.Toml
