import TenantSql.Text.CaseTable
import TenantSql.Text.CasedTable

/-!
Upper and lower case of texts, after Unicode's full mappings: one character may become several, and a
capital sigma becomes a final sigma at the end of a word. Characters of ASCII are mapped without the
tables.
-/

namespace TenantSql.Text

/-- The number a run of the table gives the character, if one covers it. -/
def shifted (runs : List CaseRun) (n : Nat) : Option Nat :=
  (runs.find? (·.covers n)).map fun run => (n + run.shift : Int).toNat

/-- The characters a pair of tables gives for one character; one without an entry stays as it is. -/
def mapped (spellings : List (Nat × List Nat)) (runs : List CaseRun) (c : Char) : List Char :=
  match spellings.lookup c.toNat with
  | some spelling => spelling.map Char.ofNat
  | none => [((shifted runs c.toNat).map Char.ofNat).getD c]

/-- The upper case of one character. -/
def upperChar (c : Char) : List Char :=
  if c.toNat < 128 then [c.toUpper] else mapped upperSpellings upperRuns c

/-- The lower case of one character where no final sigma is asked for. -/
def lowerChar (c : Char) : List Char :=
  if c.toNat < 128 then [c.toLower] else mapped lowerSpellings lowerRuns c

/-- The upper case of a text. -/
def upper (text : List Char) : List Char := text.flatMap upperChar

/-- Whether the first character that is not case-ignorable is cased. -/
def meetsCased (text : List Char) : Bool :=
  match text.dropWhile (inRanges caseIgnorableRanges) with
  | [] => false
  | c :: _ => inRanges casedRanges c

/-- The lower case of a text that follows the reversed text `before`. A capital sigma after a cased
character and before none is final. -/
def lowerAfter (before : List Char) : List Char → List Char
  | [] => []
  | c :: rest =>
    (if c = 'Σ' then [if meetsCased before && !meetsCased rest then 'ς' else 'σ'] else lowerChar c)
      ++ lowerAfter (c :: before) rest

/-- The lower case of a text. -/
def lower (text : List Char) : List Char := lowerAfter [] text

theorem upper_append (left right : List Char) : upper (left ++ right) = upper left ++ upper right :=
  List.flatMap_append

end TenantSql.Text
