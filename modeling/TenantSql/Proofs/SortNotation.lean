import Mathlib.Data.List.Forall2
import TenantSql.Proofs.PlainLetters
import TenantSql.Proofs.SortEntries

/-! Which request texts name an ordering. The notation is given by how it is written:
entries between commas, each a property, a property after a dash, or a property before
a word for its direction. The reader takes a word after a dashed property as well, and
the word overrules the dash. So it reads what the notation says wherever a text keeps
to it, and beyond the notation exactly the entries with both marks. -/
namespace TenantSql.SortNotation
open Text Sorting SortEntries

variable {text stretch entry name gap word first : List Char} {found : List (List Char)}
  {direction : Direction} {key : SortKey} {keys : List SortKey}

/-- The words for a direction. -/
def wordsFor : Direction → List String
  | .ascending => ["asc", "ascending"]
  | .descending => ["desc", "descending"]

/-- The word names the direction in some letter case of ASCII. -/
def Names (direction : Direction) (word : List Char) : Prop :=
  String.ofList (word.map Char.toLower) ∈ wordsFor direction

instance (direction : Direction) (word : List Char) : Decidable (Names direction word) :=
  inferInstanceAs (Decidable (_ ∈ _))

/-- What an entry asks for in the notation: a property ascending, a property after a
dash descending, or a property in the direction of a word after it. -/
inductive Says : List Char → SortKey → Prop
  | plain {name : List Char} (solid : Solid name) (undashed : name.head? ≠ some '-') :
    Says name ⟨String.ofList name, .ascending⟩
  | dashed {name : List Char} (solid : Solid name) : Says ('-' :: name) ⟨String.ofList name, .descending⟩
  | directed {name gap word : List Char} {direction : Direction} (solid : Solid name)
    (undashed : name.head? ≠ some '-') (apart : gap ≠ []) (blanks : Blanks gap)
    (names : Names direction word) : Says (name ++ gap ++ word) ⟨String.ofList name, direction⟩

/-- An entry with a dash before its property and a word after it, which the notation
does not have. -/
inductive Overrules : List Char → SortKey → Prop
  | intro {name gap word : List Char} {direction : Direction} (solid : Solid name) (apart : gap ≠ [])
    (blanks : Blanks gap) (names : Names direction word) :
    Overrules ('-' :: name ++ gap ++ word) ⟨String.ofList name, direction⟩

/-- What a stretch without commas holds: blanks alone, or an entry with blanks around. -/
inductive Holds : List Char → List (List Char) → Prop
  | nothing {stretch : List Char} (blanks : Blanks stretch) : Holds stretch []
  | entry {before entry after : List Char} (front : Blanks before) (back : Blanks after)
    (trimmed : Trimmed entry) : Holds (before ++ entry ++ after) [entry]

/-- The entries of a text in order, over its stretches between commas. -/
inductive Lists : List Char → List (List Char) → Prop
  | last {stretch : List Char} {found : List (List Char)} (whole : ',' ∉ stretch)
    (holds : Holds stretch found) : Lists stretch found
  | more {stretch rest : List Char} {found later : List (List Char)} (whole : ',' ∉ stretch)
    (holds : Holds stretch found) (lists : Lists rest later) :
    Lists (stretch ++ ',' :: rest) (found ++ later)

/-- The text asks for these keys, one for each of its entries. -/
def Asks (Entry : List Char → SortKey → Prop) (text : List Char) (keys : List SortKey) : Prop :=
  ∃ found, Lists text found ∧ List.Forall₂ Entry found keys

/-- What the reader makes of an entry: what the notation says, or a word over a dash. -/
def Reads (entry : List Char) (key : SortKey) : Prop := Says entry key ∨ Overrules entry key

/-- Some entry of a text that can be read has both marks. -/
def Overruled (text : String) : Prop :=
  ∃ found keys, Lists text.toList found ∧ List.Forall₂ Reads found keys ∧
    ∃ entry ∈ found, ∃ key, Overrules entry key

/-- The reader takes from the text what its entries say in the notation, and nothing of
a text with an entry that says nothing. -/
def ReadAsDocumented (text : String) : Prop :=
  ∀ sorting, parse text = .ok sorting ↔ Asks Says text.toList sorting.keys

/-! ### Entries between commas -/

theorem entries_stretch (whole : ',' ∉ stretch) (holds : Holds stretch found) : entries stretch = found := by
  cases holds with
  | nothing blanks => exact entries_blanks blanks
  | entry front back trimmed =>
    rw [entries_uncut whole, trim_around front back trimmed]
    simp [trimmed.1]

theorem exists_holds (stretch : List Char) : ∃ found, Holds stretch found := by
  obtain blanks | ⟨before, entry, after, rfl, front, back, trimmed⟩ := blanks_or_around stretch
  · exact ⟨[], .nothing blanks⟩
  · exact ⟨[entry], .entry front back trimmed⟩

theorem exists_lists (text : List Char) : ∃ found, Lists text found := by
  by_cases comma : ',' ∈ text
  · obtain ⟨stretch, rest, split, whole⟩ := List.eq_append_cons_of_mem comma
    have shorter : rest.length < text.length := by
      rw [split, List.length_append, List.length_cons]
      omega
    obtain ⟨found, holds⟩ := exists_holds stretch
    obtain ⟨later, lists⟩ := exists_lists rest
    exact ⟨found ++ later, split ▸ .more whole holds lists⟩
  · obtain ⟨found, holds⟩ := exists_holds text
    exact ⟨found, .last comma holds⟩
termination_by text.length

theorem Lists.entries_eq (lists : Lists text found) : entries text = found := by
  induction lists with
  | last whole holds => exact entries_stretch whole holds
  | more whole holds lists ih => rw [entries_append_comma, entries_stretch whole holds, ih]

theorem Lists.trimmed (lists : Lists text found) : ∀ entry ∈ found, Trimmed entry := by
  have held : ∀ {stretch found}, Holds stretch found → ∀ entry ∈ found, Trimmed entry := by
    rintro _ _ (blanks | ⟨front, back, trimmed⟩)
    · exact List.forall_mem_nil _
    · exact List.forall_mem_singleton.mpr trimmed
  induction lists with
  | last whole holds => exact held holds
  | more whole holds lists ih => exact List.forall_mem_append.mpr ⟨held holds, ih⟩

/-- What is read between commas is what stands there. -/
theorem lists_iff : Lists text found ↔ entries text = found := by
  refine ⟨Lists.entries_eq, ?_⟩
  rintro rfl
  obtain ⟨found, lists⟩ := exists_lists text
  exact lists.entries_eq ▸ lists

/-! ### Directions -/

theorem spoken_iff {name : String} :
    Direction.spokenNames.lookup name = some direction ↔ name ∈ wordsFor direction := by
  constructor
  · intro found
    have listed : (name, direction) ∈ Direction.spokenNames := Assoc.mem_of_lookup found
    cases direction <;> simpa [Direction.spokenNames, wordsFor] using listed
  · intro named
    cases direction with
    | ascending => obtain rfl | rfl := List.mem_pair.mp named <;> rfl
    | descending => obtain rfl | rfl := List.mem_pair.mp named <;> rfl

/-- No word for a direction has a letter that lower case borrows, nor a blank. -/
theorem wordsFor_plain (direction : Direction) : ∀ word ∈ wordsFor direction, ∀ c ∈ word.toList,
    ¬ Borrowed smallsBorrowed c ∧ isBlank c = false := by
  cases direction <;> simp [wordsFor, Borrowed, smallsBorrowed, isBlank]

theorem wordsFor_filled : ∀ direction, "" ∉ wordsFor direction
  | .ascending | .descending => by decide

theorem Names.solid (names : Names direction word) : Solid word := by
  have plain := wordsFor_plain direction _ names
  rw [String.toList_ofList] at plain
  refine ⟨?_, fun c within => Bool.eq_false_iff.mpr fun blank => ?_⟩
  · rintro rfl
    exact wordsFor_filled direction names
  · have shown : c ∈ word.map Char.toLower := (caseless_blank blank).1 ▸ List.mem_map_of_mem within
    exact absurd blank (by simp [(plain c shown).2])

/-- A word is read for the direction it names. -/
theorem direction_iff (solid : Solid word) :
    Direction.parse (String.ofList word) = .ok direction ↔ Names direction word := by
  have lowered : ∀ target ∈ wordsFor direction,
      String.ofList (lower word) = target ↔ String.ofList (word.map Char.toLower) = target := by
    intro target listed
    have unborrowed : ∀ d ∈ target.toList, ¬ Borrowed smallsBorrowed d := fun d within =>
      (wordsFor_plain direction target listed d within).1
    rw [← String.toList_inj, ← String.toList_inj, String.toList_ofList, String.toList_ofList]
    exact lower_eq_iff unborrowed
  have read : Direction.parse (String.ofList word) = .ok direction ↔
      Direction.spokenNames.lookup (String.ofList (lower word)) = some direction := by
    rw [Direction.parse, String.toList_ofList, trim_solid solid]
    cases Direction.spokenNames.lookup (String.ofList (lower word)) <;> simp
  rw [read, spoken_iff, Names]
  constructor
  · intro named
    rwa [(lowered _ named).mp rfl]
  · intro named
    rwa [(lowered _ named).mpr rfl]

/-! ### The reader -/

theorem leadingWord_undashed (undashed : name.head? ≠ some '-') : leadingWord name = (name, .ascending) := by
  unfold leadingWord
  split
  · exact absurd rfl undashed
  · rfl

theorem undashed_or_dashed (word : List Char) : word.head? ≠ some '-' ∨ ∃ name, word = '-' :: name := by
  by_cases dashed : word.head? = some '-'
  · exact .inr (List.head?_eq_some_iff.mp dashed)
  · exact .inl dashed

theorem solid_dashed (solid : Solid name) : Solid ('-' :: name) :=
  ⟨List.cons_ne_nil _ _, List.forall_mem_cons.mpr ⟨by decide, solid.2⟩⟩

theorem words_ne_nil (trimmed : Trimmed entry) : words entry ≠ [] := by
  obtain solid | ⟨word, gap, rest, rfl, solid, apart, blanks, -⟩ := trimmed.solid_or_gap
  · rw [words_solid solid]
    exact List.cons_ne_nil _ _
  · rw [words_gap solid blanks apart]
    exact List.cons_ne_nil _ _

/-- An entry of one word is a property, with or without a dash. -/
theorem parseEntry_one (read : words entry = [word]) :
    parseEntry entry = .ok key ↔ (leadingWord word).1 ≠ [] ∧
      key = ⟨String.ofList (leadingWord word).1, (leadingWord word).2⟩ := by
  simp only [parseEntry, read]
  cases (leadingWord word).1 with
  | nil => simp
  | cons c name => simp [eq_comm]

/-- An entry of more words is a property and a direction, with or without a dash, and
has no third word. -/
theorem parseEntry_more {surplus : List (List Char)} (read : words entry = first :: word :: surplus) :
    parseEntry entry = .ok key ↔ (leadingWord first).1 ≠ [] ∧ surplus = [] ∧
      ∃ direction, Direction.parse (String.ofList word) = .ok direction ∧
        key = ⟨String.ofList (leadingWord first).1, direction⟩ := by
  simp only [parseEntry, read, Outcomes.bind_eq_ok]
  cases (leadingWord first).1 with
  | nil => simp
  | cons c name => cases surplus <;> simp [eq_comm]

/-- What the reader takes an entry for is what the notation says, or a word over a dash. -/
theorem parseEntry_iff (trimmed : Trimmed entry) : parseEntry entry = .ok key ↔ Reads entry key := by
  constructor
  · intro read
    obtain solid | ⟨first, gap, rest, rfl, solid, apart, blanks, ended⟩ := trimmed.solid_or_gap
    · obtain ⟨filled, rfl⟩ := (parseEntry_one (words_solid solid)).mp read
      obtain undashed | ⟨name, rfl⟩ := undashed_or_dashed entry
      · rw [leadingWord_undashed undashed]
        exact .inl (.plain solid undashed)
      · exact .inl (.dashed ⟨filled, (List.forall_mem_cons.mp solid.2).2⟩)
    · have shown := words_gap solid blanks apart rest
      obtain named | ⟨second, between, more, rfl, solid', apart', blanks', ended'⟩ := ended.solid_or_gap
      · rw [words_solid named] at shown
        obtain ⟨filled, -, direction, told, rfl⟩ := (parseEntry_more shown).mp read
        have names : Names direction rest := (direction_iff named).mp told
        obtain undashed | ⟨name, rfl⟩ := undashed_or_dashed first
        · rw [leadingWord_undashed undashed]
          exact .inl (.directed solid undashed apart blanks names)
        · exact .inr (.intro ⟨filled, (List.forall_mem_cons.mp solid.2).2⟩ apart blanks names)
      · rw [words_gap solid' blanks' apart'] at shown
        obtain ⟨-, none, -⟩ := (parseEntry_more shown).mp read
        exact absurd none (words_ne_nil ended')
  · rintro (said | ⟨solid, apart, blanks, names⟩)
    · cases said with
      | plain solid undashed =>
        refine (parseEntry_one (words_solid solid)).mpr ?_
        rw [leadingWord_undashed undashed]
        exact ⟨solid.1, rfl⟩
      | dashed solid => exact (parseEntry_one (words_solid (solid_dashed solid))).mpr ⟨solid.1, rfl⟩
      | @directed name gap word direction solid undashed apart blanks names =>
        have shown := words_gap solid blanks apart word
        rw [words_solid names.solid] at shown
        refine (parseEntry_more shown).mpr ?_
        rw [leadingWord_undashed undashed]
        exact ⟨solid.1, rfl, direction, (direction_iff names.solid).mpr names, rfl⟩
    · rename_i name gap word direction
      have shown := words_gap (solid_dashed solid) blanks apart word
      rw [words_solid names.solid] at shown
      exact (parseEntry_more shown).mpr
        ⟨solid.1, rfl, direction, (direction_iff names.solid).mpr names, rfl⟩

/-! ### What is read, and what is said -/

/-- Every text is read for what its entries are. -/
theorem parse_iff {text : String} {sorting : Sorting} :
    parse text = .ok sorting ↔ Asks Reads text.toList sorting.keys := by
  obtain ⟨found, lists⟩ := exists_lists text.toList
  have read : parse text = .ok sorting ↔
      List.Forall₂ (fun entry key => parseEntry entry = .ok key) found sorting.keys := by
    rw [parse, lists.entries_eq, Outcomes.bind_eq_ok, ← Outcomes.mapM_eq_ok]
    simp only [Outcomes.pure_eq_ok]
    constructor
    · rintro ⟨keys, read, rfl⟩
      exact read
    · intro read
      exact ⟨sorting.keys, read, rfl⟩
  rw [read]
  constructor
  · intro all
    refine ⟨found, lists, ((List.forall₂_and_left _ _).mpr ⟨lists.trimmed, all⟩).imp ?_⟩
    rintro entry key ⟨trimmed, read⟩
    exact (parseEntry_iff trimmed).mp read
  · rintro ⟨other, others, all⟩
    obtain rfl : found = other := lists.entries_eq.symm.trans others.entries_eq
    refine ((List.forall₂_and_left _ _).mpr ⟨lists.trimmed, all⟩).imp ?_
    rintro entry key ⟨trimmed, reads⟩
    exact (parseEntry_iff trimmed).mpr reads

/-- A word holds no gap. -/
theorem not_solid_of_gap (apart : gap ≠ []) (blanks : Blanks gap) : ¬ Solid (name ++ gap ++ word) := by
  rintro ⟨-, letters⟩
  obtain ⟨c, within⟩ := List.exists_mem_of_ne_nil gap apart
  have letter := letters c (List.mem_append_left _ (List.mem_append_right _ within))
  exact absurd (blanks c within) (by simp [letter])

/-- An entry with both marks says nothing in the notation. -/
theorem Overrules.silent {other : SortKey} (overrules : Overrules entry key) : ¬ Says entry other := by
  obtain @⟨name, gap, word, direction, solid, apart, blanks, -⟩ := overrules
  intro said
  generalize shape : '-' :: name ++ gap ++ word = entry at said
  cases said with
  | plain whole undashed =>
    rw [← shape] at undashed
    exact undashed rfl
  | dashed whole =>
    have rest := (List.cons.inj shape).2
    exact not_solid_of_gap apart blanks (rest ▸ whole)
  | @directed property _ _ _ whole undashed =>
    cases property with
    | nil => exact whole.1 rfl
    | cons c property =>
      have dash : '-' = c := (List.cons.inj shape).1
      exact undashed (dash ▸ rfl)

/-! ### The notation is kept wherever no word overrules a dash -/

/-- A text is read exactly if each of its entries says something in the notation or has
a word over a dash, and it is read for what they say, with the word's direction where
there are both. So the reader keeps to the notation on a text unless it can be read and
an entry of it has both a dash and a word. -/
theorem read_as_documented_unless_overruled (text : String) :
    (∀ sorting, parse text = .ok sorting ↔ Asks Reads text.toList sorting.keys) ∧
    (ReadAsDocumented text ↔ ¬ Overruled text) := by
  refine ⟨fun sorting => parse_iff, ?_, ?_⟩
  · rintro documented ⟨found, keys, lists, all, entry, within, key, overrules⟩
    have taken : parse text = .ok ⟨keys⟩ := parse_iff.mpr ⟨found, lists, all⟩
    obtain ⟨other, others, said⟩ := (documented ⟨keys⟩).mp taken
    obtain rfl : found = other := lists.entries_eq.symm.trans others.entries_eq
    have each : ∀ entry ∈ found, ∃ key, Says entry key :=
      ((List.forall₂_and_left _ _).mp (said.imp fun entry key saying => ⟨⟨key, saying⟩, saying⟩)).1
    obtain ⟨other, saying⟩ := each entry within
    exact overrules.silent saying
  · intro tidy sorting
    rw [parse_iff]
    constructor
    · rintro ⟨found, lists, all⟩
      have none : ∀ entry ∈ found, ∀ key, ¬ Overrules entry key := fun entry within key overrules =>
        tidy ⟨found, sorting.keys, lists, all, entry, within, key, overrules⟩
      refine ⟨found, lists, ((List.forall₂_and_left _ _).mpr ⟨none, all⟩).imp ?_⟩
      rintro entry key ⟨marked, said | overrules⟩
      · exact said
      · exact absurd overrules (marked key)
    · rintro ⟨found, lists, all⟩
      exact ⟨found, lists, all.imp fun entry key => .inl⟩

/-- A property after a dash and before a word goes by the word, against the notation. -/
theorem word_after_dash_accepted :
    parse "-age asc" = .ok ⟨[⟨"age", .ascending⟩]⟩ ∧ (∀ keys, ¬ Asks Says "-age asc".toList keys) ∧
      ¬ ReadAsDocumented "-age asc" := by
  have names : Names .ascending ['a', 's', 'c'] := by decide
  have overrules : Overrules ('-' :: ['a', 'g', 'e'] ++ [' '] ++ ['a', 's', 'c']) ⟨"age", .ascending⟩ :=
    .intro (by decide) (by decide) (by decide) names
  have lists : Lists "-age asc".toList ['-' :: ['a', 'g', 'e'] ++ [' '] ++ ['a', 's', 'c']] :=
    lists_iff.mpr (by decide)
  have taken : parse "-age asc" = .ok ⟨[⟨"age", .ascending⟩]⟩ :=
    parse_iff.mpr ⟨_, lists, .cons (.inr overrules) .nil⟩
  have silent : ∀ keys, ¬ Asks Says "-age asc".toList keys := by
    rintro keys ⟨found, others, all⟩
    obtain rfl := lists.entries_eq.symm.trans others.entries_eq
    obtain ⟨key, others, said, -, -⟩ := List.forall₂_cons_left_iff.mp all
    exact overrules.silent said
  exact ⟨taken, silent, fun documented => silent _ ((documented _).mp taken)⟩

end TenantSql.SortNotation
