import Mathlib.Data.List.Basic
import TenantSql.Text.Blank

/-! Blanks around texts and between words. A text that is not blank is one without
blanks at its ends, with blanks around it, and such a text is a word, or a word, a gap
and again such a text. -/
namespace TenantSql.Text

variable {text before after word gap rest : List Char} {c : Char}

/-- Nothing but blanks. -/
def Blanks (text : List Char) : Prop := ∀ c ∈ text, isBlank c = true

/-- Something, and no blank in it. -/
def Solid (text : List Char) : Prop := text ≠ [] ∧ ∀ c ∈ text, isBlank c = false

/-- Something that neither begins nor ends with a blank. -/
def Trimmed (text : List Char) : Prop :=
  text ≠ [] ∧ (∀ c ∈ text.head?, isBlank c = false) ∧ ∀ c ∈ text.getLast?, isBlank c = false

-- The characters of the text are checked, never all characters there are.
instance (text : List Char) : Decidable (Blanks text) := List.decidableBAll (isBlank · = true) text

instance (text : List Char) : Decidable (Solid text) :=
  letI := List.decidableBAll (isBlank · = false) text
  inferInstanceAs (Decidable (_ ∧ _))

theorem Solid.trimmed (solid : Solid text) : Trimmed text :=
  ⟨solid.1, fun c first => solid.2 c (List.mem_of_mem_head? first),
    fun c last => solid.2 c (List.mem_of_mem_getLast? last)⟩

theorem blanks_reverse : Blanks text.reverse ↔ Blanks text := by
  simp only [Blanks, List.mem_reverse]

/-! ### Blanks at the ends -/

/-- Blanks in front are dropped up to a character that is none. -/
theorem trimStart_blanks (blanks : Blanks before) (first : ∀ c ∈ text.head?, isBlank c = false) :
    trimStart (before ++ text) = text := by
  rw [trimStart, List.dropWhile_append_of_pos blanks]
  cases text with
  | nil => rfl
  | cons c rest =>
    have kept : ¬ isBlank c = true := by simp [first c rfl]
    exact List.dropWhile_cons_of_neg kept

/-- Blanks behind are dropped down to a character that is none. -/
theorem trimEnd_blanks (blanks : Blanks after) (last : ∀ c ∈ text.getLast?, isBlank c = false) :
    trimEnd (text ++ after) = text := by
  have ended : ∀ c ∈ text.reverse.head?, isBlank c = false := by rwa [List.head?_reverse]
  have dropped := trimStart_blanks (blanks_reverse.mpr blanks) ended
  rw [trimEnd, List.reverse_append]
  unfold trimStart at dropped
  rw [dropped, List.reverse_reverse]

theorem trim_around (front : Blanks before) (back : Blanks after) (trimmed : Trimmed text) :
    trim (before ++ text ++ after) = text := by
  obtain ⟨filled, first, last⟩ := trimmed
  have begun : ∀ c ∈ (text ++ after).head?, isBlank c = false := by
    rwa [List.head?_append_of_ne_nil text filled]
  rw [trim, List.append_assoc, trimStart_blanks front begun, trimEnd_blanks back last]

theorem blanks_nil : Blanks [] := List.forall_mem_nil _

theorem trim_trimmed (trimmed : Trimmed text) : trim text = text := by
  have around := trim_around blanks_nil blanks_nil trimmed
  rwa [List.nil_append, List.append_nil] at around

theorem trim_solid (solid : Solid text) : trim text = text := trim_trimmed solid.trimmed

theorem trim_blanks (blanks : Blanks text) : trim text = [] := by
  have dropped : trimStart (text ++ []) = [] := trimStart_blanks blanks (by simp)
  rw [List.append_nil] at dropped
  rw [trim, dropped]
  rfl

/-- A text is cut where a property of its characters ends. -/
theorem exists_front (p : Char → Bool) (text : List Char) :
    ∃ front rest, text = front ++ rest ∧ (∀ c ∈ front, p c = true) ∧ ∀ c ∈ rest.head?, p c = false := by
  induction text with
  | nil => exact ⟨[], [], rfl, List.forall_mem_nil _, by simp⟩
  | cons c text ih =>
    cases holds : p c with
    | false => exact ⟨[], c :: text, rfl, List.forall_mem_nil _, by simpa using holds⟩
    | true =>
      obtain ⟨front, rest, split, inside, outside⟩ := ih
      exact ⟨c :: front, rest, congrArg (c :: ·) split, List.forall_mem_cons.mpr ⟨holds, inside⟩, outside⟩

/-- A text is blank, or has blanks around something that neither begins nor ends with one. -/
theorem blanks_or_around (text : List Char) :
    Blanks text ∨ ∃ before core after, text = before ++ core ++ after ∧ Blanks before ∧ Blanks after ∧
      Trimmed core := by
  obtain ⟨before, rest, rfl, front, first⟩ := exists_front isBlank text
  obtain ⟨after, core, split, back, last⟩ := exists_front isBlank rest.reverse
  have parted : rest = core.reverse ++ after.reverse := by
    rw [← List.reverse_append, ← split, List.reverse_reverse]
  by_cases empty : core = []
  · refine .inl (List.forall_mem_append.mpr ⟨front, ?_⟩)
    rw [parted, empty]
    exact blanks_reverse.mpr back
  · have filled : core.reverse ≠ [] := by simpa using empty
    rw [parted, List.head?_append_of_ne_nil _ filled] at first
    rw [← List.getLast?_reverse] at last
    refine .inr ⟨before, core.reverse, after.reverse, ?_, front, blanks_reverse.mpr back, filled, first, last⟩
    rw [parted, List.append_assoc]

/-- Without the blanks around it a text is empty, or neither begins nor ends with a blank. -/
theorem trim_cases (text : List Char) : trim text = [] ∨ Trimmed (trim text) := by
  obtain blanks | ⟨before, core, after, rfl, front, back, trimmed⟩ := blanks_or_around text
  · exact .inl (trim_blanks blanks)
  · right
    rwa [trim_around front back trimmed]

theorem trim_trim (text : List Char) : trim (trim text) = trim text := by
  obtain empty | trimmed := trim_cases text
  · rw [empty]
    exact trim_blanks blanks_nil
  · exact trim_trimmed trimmed

/-! ### Words -/

/-- A text that is cut nowhere is one piece. -/
theorem pieces_uncut {cut : Char → Bool} (whole : ∀ c ∈ text, cut c = false) : pieces cut text = [text] := by
  induction text with
  | nil => rfl
  | cons c rest ih =>
    obtain ⟨head, tail⟩ := List.forall_mem_cons.mp whole
    simp [pieces, head, ih tail]

theorem words_append_blank (blank : isBlank c = true) (left right : List Char) :
    words (left ++ c :: right) = words left ++ words right := by
  rw [words, pieces_append_cons blank, List.filter_append, words, words]

theorem words_solid (solid : Solid word) : words word = [word] := by
  simp [words, pieces_uncut solid.2, solid.1]

/-- Blanks in front belong to no word. -/
theorem words_blanks_append (blanks : Blanks gap) (rest : List Char) : words (gap ++ rest) = words rest := by
  induction gap with
  | nil => rfl
  | cons c gap ih =>
    obtain ⟨blank, blanks⟩ := List.forall_mem_cons.mp blanks
    have parted := words_append_blank blank [] (gap ++ rest)
    rw [List.nil_append] at parted
    rw [List.cons_append, parted, ih blanks]
    rfl

/-- A word before a gap is the first of the words. -/
theorem words_gap (solid : Solid word) (blanks : Blanks gap) (apart : gap ≠ []) (rest : List Char) :
    words (word ++ gap ++ rest) = word :: words rest := by
  cases gap with
  | nil => exact absurd rfl apart
  | cons c gap =>
    obtain ⟨blank, blanks⟩ := List.forall_mem_cons.mp blanks
    rw [List.append_assoc, List.cons_append, words_append_blank blank, words_solid solid,
      words_blanks_append blanks, List.singleton_append]

/-- A word and what follows it after a gap neither begin nor end with a blank. -/
theorem Solid.trimmed_append (solid : Solid word) (trimmed : Trimmed rest) : Trimmed (word ++ gap ++ rest) := by
  obtain ⟨filled, first, -⟩ := solid.trimmed
  obtain ⟨ended, -, last⟩ := trimmed
  refine ⟨List.append_ne_nil_of_right_ne_nil _ ended, ?_, ?_⟩
  · rwa [List.append_assoc, List.head?_append_of_ne_nil _ filled]
  · rwa [List.getLast?_append_of_ne_nil _ ended]

/-- What neither begins nor ends with a blank is a word, or goes on after a word and a gap. -/
theorem Trimmed.solid_or_gap (trimmed : Trimmed text) :
    Solid text ∨ ∃ word gap rest, text = word ++ gap ++ rest ∧ Solid word ∧ gap ≠ [] ∧ Blanks gap ∧
      Trimmed rest := by
  obtain ⟨filled, first, last⟩ := trimmed
  obtain ⟨word, tail, rfl, inside, next⟩ := exists_front (fun c => !isBlank c) text
  obtain ⟨gap, rest, rfl, blanks, begun⟩ := exists_front isBlank tail
  have letters : ∀ c ∈ word, isBlank c = false := by simpa using inside
  cases gap with
  | nil =>
    cases rest with
    | nil => exact .inl ⟨filled, by simpa using letters⟩
    | cons c rest =>
      have blank : isBlank c = true := by simpa using next
      exact absurd blank (by simpa using begun)
  | cons c gap =>
    have blank : isBlank c = true := blanks c List.mem_cons_self
    have solid : Solid word := by
      refine ⟨?_, letters⟩
      rintro rfl
      exact absurd blank (by simpa using first)
    have ended : rest ≠ [] := by
      rintro rfl
      have closing : ∃ d, (word ++ (c :: gap ++ [])).getLast? = some d ∧ d ∈ c :: gap := by
        refine ⟨(c :: gap).getLast (List.cons_ne_nil c gap), ?_, List.getLast_mem _⟩
        rw [List.append_nil, List.getLast?_append_of_ne_nil _ (List.cons_ne_nil c gap),
          List.getLast?_eq_some_getLast]
      obtain ⟨d, closes, within⟩ := closing
      exact absurd (blanks d within) (by simp [last d closes])
    rw [← List.append_assoc, List.getLast?_append_of_ne_nil _ ended] at last
    exact .inr ⟨word, c :: gap, rest, (List.append_assoc ..).symm, solid, List.cons_ne_nil c gap, blanks,
      ended, begun, last⟩

end TenantSql.Text
