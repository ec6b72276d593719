import TenantSql.Document.Value
import TenantSql.Toml.Datetime

/-!
The scalars of TOML that stand without quotes: truth values, whole numbers in four bases, floating-point
numbers, and dates and times. `word` cuts a scalar out of a text, and `scalar?` reads it. Words that look
like none of these are refused. Words that only look like whole numbers pass, but have no value: whoever
comes to look at one has to refuse it then.
-/

namespace TenantSql.Toml

/-- Digits in groups between single underscores, without the underscores. -/
def groupedDigits? (isDigit : Char → Bool) (text : List Char) : Option (List Char) :=
  let groups := Text.pieces (· == '_') text
  if groups.all fun group => !group.isEmpty && group.all isDigit then some groups.flatten else none

/-- The sign before a number, and the rest. -/
def signed : List Char → Bool × List Char
  | '+' :: rest => (false, rest)
  | '-' :: rest => (true, rest)
  | rest => (false, rest)

/-- A decimal number taken apart. Between a sign and the digits one underscore may stand; it allows zeros
before the other digits, which are not allowed otherwise. -/
structure Spelling where
  negative : Bool
  padded : Bool
  digits : List Char

/-- Takes a decimal number apart. -/
def Spelling.ofText : List Char → Spelling
  | '+' :: '_' :: digits => ⟨false, true, digits⟩
  | '-' :: '_' :: digits => ⟨true, true, digits⟩
  | text => ⟨(signed text).1, false, (signed text).2⟩

/-- Decimal digits of a whole number, which start with zero only if it is zero or they are padded. -/
def wholeDigits? (padded : Bool) (text : List Char) : Option (List Char) := do
  let digits ← groupedDigits? Char.isDigit text
  if !padded && digits.length ≠ 1 && digits.head? = some '0' then none else some digits

/-- A whole number: decimal with a sign or without, or hexadecimal, octal or binary without a sign. -/
def integer? : List Char → Option Int
  | '0' :: 'x' :: digits =>
    (groupedDigits? (fun c => (hexDigit? c).isSome) digits).map fun digits => numberOf 16 digits
  | '0' :: 'o' :: digits =>
    (groupedDigits? (fun c => '0' ≤ c && c ≤ '7') digits).map fun digits => numberOf 8 digits
  | '0' :: 'b' :: digits =>
    (groupedDigits? (fun c => c = '0' || c = '1') digits).map fun digits => numberOf 2 digits
  | text =>
    let spelling := Spelling.ofText text
    (wholeDigits? spelling.padded spelling.digits).map fun digits =>
      let number : Int := numberOf 10 digits
      if spelling.negative then -number else number

/-- Whether a word looks like a whole number from outside. The mark of a base alone does. So does a word
that has a decimal number before its first underscore, and after every underscore what starts like a number
in any base and, up to the next underscore, ends like one; in between may be anything but what tells a
floating-point number or a date. -/
def looksWhole (text : List Char) : Bool :=
  let isHex (c : Char) : Bool := (hexDigit? c).isSome
  let spelling := Spelling.ofText text
  let groups := Text.pieces (· == '_') spelling.digits
  [['0', 'x'], ['0', 'o'], ['0', 'b']].contains text ||
    (spelling.padded ||
      1 < groups.length && (groups.headD []).all Char.isDigit && spelling.digits.head? != some '0') &&
    groups.all (fun group => group.head?.any isHex) &&
    groups.dropLast.all (fun group => group.getLast?.any isHex) &&
    !spelling.digits.any [' ', '.', 'e', 'E'].contains

/-- The kind of the number `mantissa · 10 ^ exponent`: it overflows from the middle between the largest
finite double and the next power of two on. -/
def decimalKind (mantissa : Nat) (exponent : Int) : FloatKind :=
  let magnitude : Int := (Nat.toDigits 10 mantissa).length + exponent
  let limit : Nat := Nat.pow 2 1024 - Nat.pow 2 970
  if mantissa = 0 || magnitude < 309 then .finite
  else if 309 < magnitude then .overflowing
  else if limit * Nat.pow 10 (-exponent).toNat ≤ mantissa * Nat.pow 10 exponent.toNat then .overflowing
  else .finite

/-- The digits before and after the point of a mantissa. -/
def mantissa? (padded : Bool) (text : List Char) : Option (List Char × List Char) :=
  match Text.pieces (· == '.') text with
  | [whole] => do return (← wholeDigits? padded whole, [])
  | [whole, fraction] => do
    return (← wholeDigits? padded whole, ← groupedDigits? Char.isDigit fraction)
  | _ => none

/-- The power of ten after the letter of an exponent. -/
def exponent? (text : List Char) : Option Int :=
  let (negative, digits) := signed text
  (groupedDigits? Char.isDigit digits).map fun digits =>
    let number : Int := numberOf 10 digits
    if negative then -number else number

/-- A floating-point number: with a point, with an exponent, or one of the named ones. -/
def float? (text : List Char) : Option FloatKind :=
  match (signed text).2 with
  | ['i', 'n', 'f'] => some .infinite
  | ['n', 'a', 'n'] => some .nan
  | _ =>
    let spelling := Spelling.ofText text
    match Text.pieces (fun c => c == 'e' || c == 'E') spelling.digits with
    | [mantissa] => do
      let (whole, fraction) ← mantissa? spelling.padded mantissa
      if fraction.isEmpty then none
      else some (decimalKind (numberOf 10 (whole ++ fraction)) (-fraction.length))
    | [mantissa, power] => do
      let (whole, fraction) ← mantissa? spelling.padded mantissa
      let exponent ← exponent? power
      some (decimalKind (numberOf 10 (whole ++ fraction)) (exponent - fraction.length))
    | _ => none

/-- The value of a word that stands without quotes. -/
def scalar? (text : List Char) : Option Value :=
  if text = ['t', 'r', 'u', 'e'] then some (.boolean true)
  else if text = ['f', 'a', 'l', 's', 'e'] then some (.boolean false)
  else if isDatetime text then some (.datetime (String.ofList text))
  else
    match integer? text, float? text with
    | some value, _ => some (.integer value)
    | none, some kind => some (.float kind)
    | none, none => if looksWhole text then some .unreadable else none

/-- Whether the character belongs to a word, whatever the word says. A point does, too, but no word goes on
with one after blanks. -/
def isWordChar (c : Char) : Bool :=
  !(['=', ',', '[', ']', '\x7b', '\x7d', ' ', '\t', '#', '\r', '\n', '.'].contains c)

/-- Whether a word that was broken off by blanks goes on after them. A quote opens a string instead. -/
def goesOn (text : List Char) : Bool :=
  (skipBlanks text).head?.any fun c => isWordChar c && c ≠ '"' && c ≠ '\''

/-- The word a text starts with. Blanks inside belong to it, as those between a date and a time. -/
def word : List Char → List Char
  | [] => []
  | c :: rest =>
    if isWordChar c || c = '.' || isLineBlank c && goesOn rest then c :: word rest else []

/-- Scans a value that stands without quotes. -/
def scalar (text : List Char) : Scanned Value :=
  let word := word text
  match scalar? word with
  | some value => .ok (value, text.drop word.length)
  | none => .error (.invalidScalar (String.ofList word))

end TenantSql.Toml
