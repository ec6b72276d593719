/-!
Blank characters, and the cutting of text at characters. Blanks are those of Unicode's White_Space
property. A text is a list of characters here; `pieces` loses only the cut characters, and `words`
are the non-empty pieces between blanks.
-/

namespace TenantSql.Text

/-- The twenty-five characters of Unicode's White_Space property. -/
def isBlank (c : Char) : Bool :=
  let n := c.toNat
  (9 ≤ n && n ≤ 13) || n == 0x20 || n == 0x85 || n == 0xA0 || n == 0x1680 ||
    (0x2000 ≤ n && n ≤ 0x200A) || n == 0x2028 || n == 0x2029 || n == 0x202F || n == 0x205F ||
    n == 0x3000

/-- Leading blanks are dropped. -/
def trimStart (text : List Char) : List Char := text.dropWhile isBlank

/-- Trailing blanks are dropped. -/
def trimEnd (text : List Char) : List Char := (text.reverse.dropWhile isBlank).reverse

/-- Blanks are dropped at both ends and kept inside. -/
def trim (text : List Char) : List Char := trimEnd (trimStart text)

/-- Every `ending` is dropped from the end of the text, however often it is repeated. -/
def dropEndings (ending : List Char) (text : List Char) : List Char :=
  strip text.length text.reverse |>.reverse
where
  /-- At most `bound` endings are dropped from the reversed text. -/
  strip : Nat → List Char → List Char
    | 0, reversed => reversed
    | bound + 1, reversed =>
      if !ending.isEmpty && ending.reverse.isPrefixOf reversed then
        strip bound (reversed.drop ending.length)
      else reversed

/-- The text between the characters at which it is cut. There is always at least one piece. -/
def pieces (cut : Char → Bool) : List Char → List (List Char)
  | [] => [[]]
  | c :: rest =>
    if cut c then [] :: pieces cut rest
    else (pieces cut rest).modifyHead (c :: ·)

/-- The maximal runs of characters that are not blank. -/
def words (text : List Char) : List (List Char) :=
  (pieces isBlank text).filter (!·.isEmpty)

/-- The texts in order, with the separator between neighbours. -/
def joined (separator : String) : List String → String
  | [] => ""
  | [text] => text
  | text :: rest => text ++ separator ++ joined separator rest

theorem joined_cons {rest : List String} (more : rest ≠ []) (separator text : String) :
    joined separator (text :: rest) = text ++ separator ++ joined separator rest := by
  cases rest with
  | nil => exact absurd rfl more
  | cons next rest => rfl

/-- The separator stands between two lists as it stands in each of them. -/
theorem joined_append {left right : List String} (before : left ≠ []) (behind : right ≠ []) (separator : String) :
    joined separator (left ++ right) = joined separator left ++ separator ++ joined separator right := by
  induction left with
  | nil => exact absurd rfl before
  | cons text left ih =>
    cases left with
    | nil => exact joined_cons behind separator text
    | cons next left =>
      have more : next :: left ≠ [] := List.cons_ne_nil next left
      have all : next :: left ++ right ≠ [] := List.append_ne_nil_of_left_ne_nil more right
      rw [List.cons_append, joined_cons all, ih more, joined_cons more]
      simp only [String.append_assoc]

theorem pieces_ne_nil (cut : Char → Bool) (text : List Char) : pieces cut text ≠ [] := by
  induction text with
  | nil => simp [pieces]
  | cons c rest ih =>
    unfold pieces
    split
    · simp
    · intro empty
      exact ih (by simpa using congrArg List.length empty)

/-- Cutting at a character between two texts cuts each of them on its own. -/
theorem pieces_append_cons {cut : Char → Bool} {c : Char} (at_cut : cut c = true)
    (left right : List Char) : pieces cut (left ++ c :: right) = pieces cut left ++ pieces cut right := by
  induction left with
  | nil => simp [pieces, at_cut]
  | cons d rest ih =>
    simp only [List.cons_append, pieces]
    split
    · simp [ih]
    · rw [ih]
      cases shape : pieces cut rest with
      | nil => exact absurd shape (pieces_ne_nil cut rest)
      | cons head tail => rfl

end TenantSql.Text
