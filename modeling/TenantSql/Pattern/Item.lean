/-!
Patterns for dates and times, cut into items. A pattern is text in which a percent sign starts a
specifier; `items` cuts any pattern, and marks what is no specifier as `unknown`. A flag between the
percent sign and the letter chooses the padding of a specifier that prints one number, and is not allowed
on any other. A pattern is known when none of its items is unknown.
-/

namespace TenantSql.Pattern

/-- What fills a number up to its width. -/
inductive Padding where
  | none
  | zero
  | space
  deriving Repr, DecidableEq

/-- The numbers a specifier can print. -/
inductive Field where
  | year | century | yearOfCentury | weekYear | weekYearOfCentury | quarter | month | day
  | weekFromSunday | weekFromMonday | week | daysFromSunday | weekday | ordinal
  | hour | dialHour | minute | second | nano | epochSeconds
  deriving Repr, DecidableEq

/-- The names a specifier can print. -/
inductive Name where
  | shortMonth | longMonth | shortWeekday | longWeekday | lowerHalfDay | upperHalfDay
  deriving Repr, DecidableEq

/-- The places of a fraction of a second: as many as needed, or a fixed number after a point or without
one. -/
inductive Fraction where
  | shortest
  | fixed (point : Bool) (places : Nat)
  deriving Repr, DecidableEq

/-- One step of a pattern. -/
inductive Item where
  | literal (c : Char)
  | number (field : Field) (padding : Padding)
  | name (which : Name)
  | fraction (which : Fraction)
  /-- A part of the time zone, which neither dates nor local times have. -/
  | zone
  /-- Something after a percent sign that is no specifier. -/
  | unknown
  deriving Repr, DecidableEq

/-- A number padded with zeros. -/
def zeroed (field : Field) : Item := .number field .zero

/-- A number padded with blanks. -/
def spaced (field : Field) : Item := .number field .space

/-- The items of a month, a day and a year of the century between slashes. -/
def slashedDate : List Item :=
  [zeroed .month, .literal '/', zeroed .day, .literal '/', zeroed .yearOfCentury]

/-- The items of an hour, a minute and a second between colons. -/
def colonTime (hours : Field) : List Item :=
  [zeroed hours, .literal ':', zeroed .minute, .literal ':', zeroed .second]

/-- The items a letter stands for. -/
def ofLetter : Char → List Item
  | 'A' => [.name .longWeekday]
  | 'B' => [.name .longMonth]
  | 'C' => [zeroed .century]
  | 'D' => slashedDate
  | 'F' => [zeroed .year, .literal '-', zeroed .month, .literal '-', zeroed .day]
  | 'G' => [zeroed .weekYear]
  | 'H' => [zeroed .hour]
  | 'I' => [zeroed .dialHour]
  | 'M' => [zeroed .minute]
  | 'P' => [.name .lowerHalfDay]
  | 'R' => [zeroed .hour, .literal ':', zeroed .minute]
  | 'S' => [zeroed .second]
  | 'T' => colonTime .hour
  | 'U' => [zeroed .weekFromSunday]
  | 'V' => [zeroed .week]
  | 'W' => [zeroed .weekFromMonday]
  | 'X' => colonTime .hour
  | 'Y' => [zeroed .year]
  | 'Z' => [.zone]
  | 'a' => [.name .shortWeekday]
  | 'b' => [.name .shortMonth]
  | 'c' =>
    [.name .shortWeekday, .literal ' ', .name .shortMonth, .literal ' ', spaced .day, .literal ' ']
      ++ colonTime .hour ++ [.literal ' ', zeroed .year]
  | 'd' => [zeroed .day]
  | 'e' => [spaced .day]
  | 'f' => [zeroed .nano]
  | 'g' => [zeroed .weekYearOfCentury]
  | 'h' => [.name .shortMonth]
  | 'j' => [zeroed .ordinal]
  | 'k' => [spaced .hour]
  | 'l' => [spaced .dialHour]
  | 'm' => [zeroed .month]
  | 'n' => [.literal '\n']
  | 'p' => [.name .upperHalfDay]
  | 'q' => [.number .quarter .none]
  | 'r' => colonTime .dialHour ++ [.literal ' ', .name .upperHalfDay]
  | 's' => [.number .epochSeconds .none]
  | 't' => [.literal '\t']
  | 'u' => [.number .weekday .none]
  | 'v' => [spaced .day, .literal '-', .name .shortMonth, .literal '-', zeroed .year]
  | 'w' => [.number .daysFromSunday .none]
  | 'x' => slashedDate
  | 'y' => [zeroed .yearOfCentury]
  | 'z' => [.zone]
  | '+' => [.zone]
  | '%' => [.literal '%']
  | _ => [.unknown]

/-- The items of a specifier without flag, and the number of characters it takes up. -/
def ofSpecifier : List Char → List Item × Nat
  | [] => ([.unknown], 0)
  | '.' :: 'f' :: _ => ([.fraction .shortest], 2)
  | '.' :: '3' :: 'f' :: _ => ([.fraction (.fixed true 3)], 3)
  | '.' :: '6' :: 'f' :: _ => ([.fraction (.fixed true 6)], 3)
  | '.' :: '9' :: 'f' :: _ => ([.fraction (.fixed true 9)], 3)
  | '3' :: 'f' :: _ => ([.fraction (.fixed false 3)], 2)
  | '6' :: 'f' :: _ => ([.fraction (.fixed false 6)], 2)
  | '9' :: 'f' :: _ => ([.fraction (.fixed false 9)], 2)
  | ':' :: 'z' :: _ => ([.zone], 2)
  | ':' :: ':' :: 'z' :: _ => ([.zone], 3)
  | ':' :: ':' :: ':' :: 'z' :: _ => ([.zone], 4)
  | letter :: _ => (ofLetter letter, 1)

/-- The items with another padding. Only a single number can be padded. -/
def repadded (padding : Padding) : List Item → List Item
  | [.number field _] => [.number field padding]
  | _ => [.unknown]

/-- The items of what follows a percent sign, and the number of characters it takes up. The flag `#`
only goes with a zone. -/
def afterPercent : List Char → List Item × Nat
  | '-' :: rest => ((repadded .none (ofSpecifier rest).1), (ofSpecifier rest).2 + 1)
  | '0' :: rest => ((repadded .zero (ofSpecifier rest).1), (ofSpecifier rest).2 + 1)
  | '_' :: rest => ((repadded .space (ofSpecifier rest).1), (ofSpecifier rest).2 + 1)
  | '#' :: 'z' :: _ => ([.zone], 2)
  | '#' :: _ => ([.unknown], 1)
  | rest => ofSpecifier rest

/-- The items of a pattern, from left to right. -/
def items : List Char → List Item
  | [] => []
  | '%' :: rest => (afterPercent rest).1 ++ items (rest.drop (afterPercent rest).2)
  | c :: rest => .literal c :: items rest
termination_by pattern => pattern.length
decreasing_by all_goals simp only [List.length_cons, List.length_drop]; omega

/-- A letter that is no flag and begins no longer specifier stands for its own items. -/
theorem items_letter {letter : Char} (single : letter ∉ ['-', '0', '_', '#', '.', '3', '6', '9', ':'])
    (rest : List Char) : items ('%' :: letter :: rest) = ofLetter letter ++ items rest := by
  have cut : afterPercent (letter :: rest) = (ofLetter letter, 1) := by
    unfold afterPercent
    split <;> simp_all
    unfold ofSpecifier
    split <;> simp_all
  rw [items, cut]
  rfl

/-- Whether a pattern holds specifiers that are known, and no others. -/
def isKnown (pattern : String) : Bool := !(items pattern.toList).contains .unknown

end TenantSql.Pattern
