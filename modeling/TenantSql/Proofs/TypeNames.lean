import Mathlib.Data.List.TakeWhile
import TenantSql.ColumnKind
import TenantSql.Proofs.PlainLetters
import TenantSql.Proofs.SpacedWords
import TenantSql.Writer

/-! Type names with what databases put around them. Letter case is decided before
anything is cut off, no letter turns into a parenthesis, and endings are taken off as
often as they are there; so a name without a parenthesis is all that is left of a text
that shows it, whatever the name is and whatever it ends with itself. -/
namespace TenantSql.TypeNames
open Text ColumnKind

variable {name one other before after core text ending reversed : List Char} {c d : Char}

/-- Texts that differ at most in the case of letters of ASCII. -/
def SameLetters (one other : List Char) : Prop := one.map Char.toUpper = other.map Char.toUpper

instance (one other : List Char) : Decidable (SameLetters one other) := inferInstanceAs (Decidable (_ = _))

/-- The word for numbers without a sign, this many times. -/
def unsigned (count : Nat) : List Char := (List.replicate count " UNSIGNED".toList).flatten

/-- What may stand behind a type: blanks, or a parenthesis and any text. -/
inductive Tail : List Char → Prop where
  | blanks {after : List Char} (blanks : Blanks after) : Tail after
  | modifier (rest : List Char) : Tail ('(' :: rest)

/-- A text that shows a name: blanks, the name, the word for numbers without a sign any
number of times, and a tail, all with letters in any case. -/
def Shows (name text : List Char) : Prop :=
  ∃ before count after, Blanks before ∧ Tail after ∧ SameLetters text (before ++ name ++ unsigned count ++ after)

/-- A name that neither begins nor ends with a blank and has no parenthesis. -/
def Bare (name : List Char) : Prop :=
  '(' ∉ name ∧ (∀ c ∈ name.head?, isBlank c = false) ∧ ∀ c ∈ name.getLast?, isBlank c = false

/-! ### Letter case -/

/-- What holds of the first characters there are holds of each character of ASCII. -/
theorem of_plain (holds : Char → Prop) (each : ∀ n < 128, holds (Char.ofNat n)) (plain : c.toNat < 128) :
    holds c := by
  have one := each c.toNat plain
  rwa [Char.ofNat_toNat] at one

/-- What holds between the characters of ASCII and their capitals, and between a character
and itself, holds between each character and its capital. -/
theorem of_plain_toUpper (related : Char → Char → Prop)
    (each : ∀ n < 128, related (Char.ofNat n) (Char.ofNat n).toUpper) (self : related c c) :
    related c c.toUpper := by
  obtain plain | foreign := Nat.lt_or_ge c.toNat 128
  · exact of_plain (fun c => related c c.toUpper) each plain
  · rwa [toUpper_foreign c foreign]

theorem isBlank_toUpper (c : Char) : isBlank c.toUpper = isBlank c :=
  of_plain_toUpper (fun c capital => isBlank capital = isBlank c) (by decide) rfl

theorem upperChar_toUpper (c : Char) : upperChar c.toUpper = upperChar c :=
  of_plain_toUpper (fun c capital => upperChar capital = upperChar c) (by decide) rfl

theorem upper_map_toUpper (text : List Char) : upper (text.map Char.toUpper) = upper text := by
  simp only [upper, List.flatMap_map, upperChar_toUpper]

theorem trimStart_map_toUpper (text : List Char) :
    trimStart (text.map Char.toUpper) = (trimStart text).map Char.toUpper := by
  have blank : isBlank ∘ Char.toUpper = isBlank := funext isBlank_toUpper
  rw [trimStart, List.dropWhile_map, blank, trimStart]

theorem trim_map_toUpper (text : List Char) : trim (text.map Char.toUpper) = (trim text).map Char.toUpper := by
  have back : ∀ text, trimEnd (text.map Char.toUpper) = (trimEnd text).map Char.toUpper := by
    intro text
    have reversed := trimStart_map_toUpper text.reverse
    unfold trimStart at reversed
    rw [trimEnd, ← List.map_reverse, reversed, ← List.map_reverse, trimEnd]
  rw [trim, trimStart_map_toUpper, back, trim]

/-- What is left of a name does not depend on the case of its letters. -/
theorem baseName_congr (same : SameLetters one other) : baseName one = baseName other := by
  have capitals : ∀ text, upper (trim text) = upper (trim (text.map Char.toUpper)) := by
    intro text
    rw [trim_map_toUpper, upper_map_toUpper]
  have alike : upper (trim one) = upper (trim other) := by
    rw [capitals one, capitals other, same]
  rw [baseName, baseName, alike]

/-! ### Parentheses -/

theorem upperSpellings_plain : ∀ entry ∈ upperSpellings, ∀ n ∈ entry.2, Char.ofNat n ≠ '(' := by
  decide +kernel

/-- Only a parenthesis has a parenthesis in its upper case. -/
theorem eq_of_parenthesis (within : '(' ∈ upperChar c) : c = '(' := by
  obtain plain | foreign := Nat.lt_or_ge c.toNat 128
  · exact of_plain (fun c => '(' ∈ upperChar c → c = '(') (by decide) plain within
  · rw [upperChar, if_neg (by omega), mapped] at within
    split at within
    next spelling found =>
      obtain ⟨n, inside, same⟩ := List.mem_map.mp within
      exact absurd same (upperSpellings_plain _ (Assoc.mem_of_lookup found) n inside)
    next missing =>
      have same := List.mem_singleton.mp within
      unfold shifted at same
      cases found : upperRuns.find? (·.covers c.toNat) with
      | none =>
        rw [found] at same
        exact same.symm
      | some run =>
        have covered := List.find?_some found
        have image := (upperRuns_borrow run (List.mem_of_find?_eq_some found)).image covered
        rw [found] at same
        have spelled : '(' = Char.ofNat (c.toNat + run.shift : Int).toNat := same
        exact absurd (spelled ▸ image) (by decide)

theorem parenthesis_not_mem_upper (absent : '(' ∉ text) : '(' ∉ upper text := by
  intro within
  obtain ⟨c, inside, spelled⟩ := List.mem_flatMap.mp within
  exact absent (eq_of_parenthesis spelled ▸ inside)

/-- A text is read up to its first parenthesis. -/
theorem takeWhile_upper (absent : '(' ∉ core) (rest : List Char) :
    (upper (core ++ '(' :: rest)).takeWhile (· ≠ '(') = upper core := by
  have kept : ∀ c ∈ upper core, decide (c ≠ '(') = true := by
    intro c within
    exact decide_eq_true fun same => parenthesis_not_mem_upper absent (same ▸ within)
  have opening : upper ('(' :: rest) = '(' :: upper rest := rfl
  rw [upper_append, List.takeWhile_append_of_pos kept, opening]
  simp

theorem takeWhile_upper_self (absent : '(' ∉ core) : (upper core).takeWhile (· ≠ '(') = upper core := by
  refine List.takeWhile_eq_self_iff.mpr fun c within => ?_
  exact decide_eq_true fun same => parenthesis_not_mem_upper absent (same ▸ within)

/-! ### Endings -/

/-- As many steps as there are characters are enough to take off every ending. -/
theorem strip_of_enough {bound more : Nat} (filled : ending ≠ []) (enough : reversed.length ≤ bound)
    (enough' : reversed.length ≤ more) :
    dropEndings.strip ending bound reversed = dropEndings.strip ending more reversed := by
  have apart : ending.reverse.isPrefixOf [] = false := by
    cases shape : ending.reverse with
    | nil => exact absurd (List.reverse_eq_nil_iff.mp shape) filled
    | cons => rfl
  induction bound generalizing more reversed with
  | zero =>
    obtain rfl := List.length_eq_zero_iff.mp (Nat.le_zero.mp enough)
    cases more with
    | zero => rfl
    | succ more => simp [dropEndings.strip, apart]
  | succ bound ih =>
    cases more with
    | zero =>
      obtain rfl := List.length_eq_zero_iff.mp (Nat.le_zero.mp enough')
      simp [dropEndings.strip, apart]
    | succ more =>
      have some : 0 < ending.length := List.length_pos_iff.mpr filled
      simp only [dropEndings.strip]
      split
      · apply ih <;> rw [List.length_drop] <;> omega
      · rfl

theorem dropEndings_append (filled : ending ≠ []) (text : List Char) :
    dropEndings ending (text ++ ending) = dropEndings ending text := by
  have some : 0 < ending.length := List.length_pos_iff.mpr filled
  obtain ⟨bound, size⟩ : ∃ bound, (text ++ ending).length = bound + 1 :=
    ⟨(text ++ ending).length - 1, by rw [List.length_append]; omega⟩
  have ended : (!ending.isEmpty && ending.reverse.isPrefixOf (text ++ ending).reverse) = true := by
    simp [filled]
  have left : (text ++ ending).reverse.drop ending.length = text.reverse := by
    rw [List.reverse_append, List.drop_left' List.length_reverse]
  rw [dropEndings, size, dropEndings.strip, if_pos ended, left, dropEndings]
  rw [List.length_append] at size
  exact congrArg List.reverse (strip_of_enough filled (by rw [List.length_reverse]; omega) (by simp))

theorem unsigned_succ (count : Nat) : unsigned (count + 1) = " UNSIGNED".toList ++ unsigned count := by
  rw [unsigned, List.replicate_succ, List.flatten_cons, unsigned]

theorem unsigned_succ' (count : Nat) : unsigned (count + 1) = unsigned count ++ " UNSIGNED".toList := by
  rw [unsigned, List.replicate_succ', List.flatten_append, unsigned]
  rfl

theorem upper_unsigned (count : Nat) : upper (unsigned count) = unsigned count := by
  induction count with
  | zero => rfl
  | succ count ih =>
    have word : upper " UNSIGNED".toList = " UNSIGNED".toList := by decide
    rw [unsigned_succ, upper_append, word, ih]

theorem parenthesis_not_mem_unsigned (count : Nat) : '(' ∉ unsigned count := by
  intro within
  obtain ⟨word, listed, inside⟩ := List.mem_flatten.mp within
  rw [List.eq_of_mem_replicate listed] at inside
  exact absurd inside (by decide)

theorem dropEndings_unsigned (text : List Char) (count : Nat) :
    dropEndings " UNSIGNED".toList (text ++ unsigned count) = dropEndings " UNSIGNED".toList text := by
  induction count with
  | zero => rw [unsigned, List.replicate_zero, List.flatten_nil, List.append_nil]
  | succ count ih => rw [unsigned_succ', ← List.append_assoc, dropEndings_append (by decide), ih]

/-! ### Names -/

theorem trimmed_unsigned (trimmed : Trimmed name) (count : Nat) : Trimmed (name ++ unsigned count) := by
  obtain ⟨filled, first, last⟩ := trimmed
  refine ⟨List.append_ne_nil_of_left_ne_nil filled _, ?_, ?_⟩
  · rwa [List.head?_append_of_ne_nil _ filled]
  · cases count with
    | zero => simpa [unsigned] using last
    | succ count =>
      have closed : (" UNSIGNED".toList).getLast? = some 'D' := by decide
      rw [unsigned_succ', ← List.append_assoc, List.getLast?_append_of_ne_nil _ (by decide), closed]
      rintro _ ⟨⟩
      decide

/-- What stands before a parenthesis is not touched when blanks are dropped. -/
theorem trim_modifier (front : Blanks before) (first : ∀ c ∈ core.head?, isBlank c = false) (rest : List Char) :
    ∃ kept, trim (before ++ core ++ '(' :: rest) = core ++ '(' :: kept := by
  obtain ⟨blanks, left, split, back, last⟩ := exists_front isBlank rest.reverse
  have parted : rest = left.reverse ++ blanks.reverse := by
    rw [← List.reverse_append, ← split, List.reverse_reverse]
  have trimmed : Trimmed (core ++ '(' :: left.reverse) := by
    refine ⟨List.append_ne_nil_of_right_ne_nil _ (List.cons_ne_nil _ _), ?_, ?_⟩
    · cases core with
      | nil => simp [isBlank]
      | cons c core => exact first
    · rw [List.getLast?_append_of_ne_nil _ (List.cons_ne_nil _ _)]
      cases left with
      | nil => simp [isBlank]
      | cons c left => simpa [List.getLast?_cons] using last
  refine ⟨left.reverse, ?_⟩
  rw [parted, ← trim_around front (blanks_reverse.mpr back) trimmed]
  simp only [List.append_assoc, List.cons_append]

/-- Of a text that shows something with a tail, the upper case of what it shows counts. -/
theorem head_of_shown (front : Blanks before) (tail : Tail after) (trimmed : Trimmed core) (absent : '(' ∉ core) :
    (upper (trim (before ++ core ++ after))).takeWhile (· ≠ '(') = upper core := by
  cases tail with
  | blanks back => rw [trim_around front back trimmed, takeWhile_upper_self absent]
  | modifier rest =>
    obtain ⟨kept, same⟩ := trim_modifier front trimmed.2.1 rest
    rw [same, takeWhile_upper absent]

/-- A name without a parenthesis is what is left of each text that shows it. -/
theorem baseName_shown (trimmed : Trimmed name) (absent : '(' ∉ name) (shown : Shows name text) :
    baseName text = baseName name := by
  obtain ⟨before, count, after, front, tail, same⟩ := shown
  have whole : '(' ∉ name ++ unsigned count := fun within =>
    (List.mem_append.mp within).elim absent (parenthesis_not_mem_unsigned count)
  have dressed := head_of_shown front tail (trimmed_unsigned trimmed count) whole
  have plain := head_of_shown blanks_nil (.blanks blanks_nil) trimmed absent
  rw [List.nil_append, List.append_nil] at plain
  rw [baseName_congr same, baseName, List.append_assoc before, dressed, upper_append, upper_unsigned,
    dropEndings_unsigned, baseName, plain]

/-- Of a text that shows no name at all, nothing is left, or one word for numbers
without a sign. -/
theorem baseName_unnamed (shown : Shows [] text) : baseName text = [] ∨ baseName text = "UNSIGNED".toList := by
  obtain ⟨before, count, after, front, tail, same⟩ := shown
  cases count with
  | zero =>
    left
    rw [baseName_congr same, baseName]
    cases tail with
    | blanks back =>
      have blank : trim (before ++ [] ++ unsigned 0 ++ after) = [] := by
        refine trim_blanks ?_
        simpa [unsigned, Blanks, or_imp, forall_and] using ⟨front, back⟩
      rw [blank]
      rfl
    | modifier rest =>
      have none : ∀ c ∈ ([] : List Char).head?, isBlank c = false := by simp
      obtain ⟨kept, cut⟩ := trim_modifier front none rest
      have opened : trim (before ++ [] ++ unsigned 0 ++ '(' :: rest) = '(' :: kept := by
        simpa [unsigned] using cut
      rw [opened]
      rfl
  | succ count =>
    -- The blank before the first of these words is one in front of the text.
    right
    have word : Shows "UNSIGNED".toList text := by
      refine ⟨before ++ [' '], count, after, ?_, tail, ?_⟩
      · exact List.forall_mem_append.mpr ⟨front, List.forall_mem_singleton.mpr rfl⟩
      · rw [unsigned_succ] at same
        simpa using same
    have solid : Solid "UNSIGNED".toList := by decide
    have left : baseName "UNSIGNED".toList = "UNSIGNED".toList := by decide +kernel
    rw [baseName_shown solid.trimmed (by decide) word, left]

/-- Whatever a name is, known or not, the texts that show it are of its kind. -/
theorem ofTypeName_shown {name text : String} (bare : Bare name.toList) (shown : Shows name.toList text.toList) :
    ofTypeName text = ofTypeName name := by
  obtain ⟨absent, first, last⟩ := bare
  by_cases filled : name.toList = []
  · rw [filled] at shown
    have unknown : ofTypeName name = .other := by
      rw [ofTypeName, filled]
      decide
    rw [unknown, ofTypeName]
    obtain none | word := baseName_unnamed shown
    · rw [none]
      decide
    · rw [word]
      decide
  · rw [ofTypeName, baseName_shown ⟨filled, first, last⟩ absent shown, ofTypeName]

theorem typeNames_of_kind : ∀ entry ∈ typeNames, ofTypeName entry.1 = entry.2 := by decide +kernel

/-- Every text that shows a name is of the kind of the name, however often numbers
without a sign are spoken of, whatever stands in parentheses behind it, and in any
letter case; so its literals are quoted alike and written alike. If the name is one of
those databases report, it is the kind that goes with it. -/
theorem dress_changes_no_kind {name text : String} (bare : Bare name.toList)
    (shown : Shows name.toList text.toList) :
    ofTypeName text = ofTypeName name ∧
    (ofTypeName text).needsQuotes = (ofTypeName name).needsQuotes ∧
    (∀ {σ : Type} (writer : Writer σ) (value : String),
      writer.write (.literal (ofTypeName text) value) = writer.write (.literal (ofTypeName name) value)) ∧
    ∀ entry ∈ typeNames, SameLetters name.toList entry.1.toList → ofTypeName text = entry.2 := by
  have same := ofTypeName_shown bare shown
  refine ⟨same, congrArg needsQuotes same, fun writer value => by rw [same], fun entry listed letters => ?_⟩
  have known : ofTypeName name = ofTypeName entry.1 := by
    rw [ofTypeName, baseName_congr letters, ofTypeName]
  rw [same, known, typeNames_of_kind entry listed]

/-- A name that ends with the word itself, shown in mixed letters, with the word again
and a width that is not closed. -/
theorem unsigned_int_shown :
    Bare "int unsigned".toList ∧ Shows "int unsigned".toList "\tInT Unsigned UNSIGNED(11 zerofill".toList ∧
      ofTypeName "\tInT Unsigned UNSIGNED(11 zerofill" = ofTypeName "int unsigned" := by
  have bare : Bare "int unsigned".toList := by
    refine ⟨by decide, ?_, ?_⟩
    · rintro _ ⟨⟩
      rfl
    · rintro _ ⟨⟩
      rfl
  have shown : Shows "int unsigned".toList "\tInT Unsigned UNSIGNED(11 zerofill".toList :=
    ⟨['\t'], 1, "(11 zerofill".toList, List.forall_mem_singleton.mpr rfl, .modifier _, by decide⟩
  exact ⟨bare, shown, (dress_changes_no_kind bare shown).1⟩

end TenantSql.TypeNames
