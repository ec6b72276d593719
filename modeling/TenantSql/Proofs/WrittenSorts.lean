import TenantSql.Proofs.SortNotation

/-! Orderings as requests write them. A key is a property with or without a dash, or a
property before the word for its direction, and keys stand between commas with any
blanks around. What is so written is read back, and no reading gives a property that
could not be written. -/
namespace TenantSql.WrittenSorts
open Text Sorting SortEntries SortNotation

variable {key : SortKey} {keys : List SortKey} {text piece : String} {pieces : List String}
  {entry : List Char} {found : List (List Char)} {sorting : Sorting}

/-- The property can stand in a request text: it is one word, and no comma parts it. -/
def Writable (property : String) : Prop := Solid property.toList ∧ ',' ∉ property.toList

instance (property : String) : Decidable (Writable property) := inferInstanceAs (Decidable (_ ∧ _))

/-- The property, after a dash if it is descending. -/
def marked (key : SortKey) : List Char :=
  match key.direction with
  | .ascending => key.property.toList
  | .descending => '-' :: key.property.toList

/-- An entry shows a key in one of the two styles: by a dash or none before the
property, or by the word for the direction behind it, in any letter case of ASCII. -/
inductive Shows (key : SortKey) : List Char → Prop
  | byMark : Shows key (marked key)
  | byWord {gap word : List Char} (apart : gap ≠ []) (blanks : Blanks gap)
    (named : word.map Char.toLower = key.direction.name.toList) :
    Shows key (key.property.toList ++ gap ++ word)

/-- What stands between two commas shows the key, with any blanks around. -/
def Stands (key : SortKey) (piece : String) : Prop :=
  ∃ before entry after, piece.toList = before ++ entry ++ after ∧ Blanks before ∧ Blanks after ∧
    Shows key entry

/-! ### What is written is read -/

theorem names_of_name {direction : Direction} {word : List Char}
    (named : word.map Char.toLower = direction.name.toList) : Names direction word := by
  rw [Names, named, String.ofList_toList]
  cases direction <;> decide

/-- Each style is one of the notation. -/
theorem Shows.said (writable : Writable key.property) (undashed : key.property.toList.head? ≠ some '-')
    (shows : Shows key entry) : Says entry key := by
  obtain ⟨property, direction⟩ := key
  cases shows with
  | byMark =>
    cases direction with
    | ascending => simpa [marked] using Says.plain writable.1 undashed
    | descending => simpa [marked] using Says.dashed writable.1
  | byWord apart blanks named =>
    simpa using Says.directed writable.1 undashed apart blanks (names_of_name named)

/-- No comma is written within a key. -/
theorem Shows.whole (writable : Writable key.property) (shows : Shows key entry) : ',' ∉ entry := by
  cases shows with
  | byMark =>
    unfold marked
    split
    · exact writable.2
    · exact List.not_mem_cons_of_ne_of_not_mem (by decide) writable.2
  | @byWord gap word apart blanks named =>
    have lettered : ',' ∉ word := by
      intro within
      have kept : ',' ∈ key.direction.name.toList := named ▸ List.mem_map_of_mem within
      revert kept
      cases key.direction <;> decide
    simp [writable.2, comma_not_mem blanks, lettered]

/-- What says something in the notation has no blanks at its ends. -/
theorem trimmed_of_saying (said : Says entry key) : Trimmed entry := by
  cases said with
  | plain solid undashed => exact solid.trimmed
  | dashed solid => exact (solid_dashed solid).trimmed
  | directed solid undashed apart blanks names => exact solid.trimmed_append names.solid.trimmed

/-- One key is read back. -/
theorem parse_one (writable : Writable key.property) (undashed : key.property.toList.head? ≠ some '-')
    (stands : Stands key piece) : parse piece = .ok ⟨[key]⟩ := by
  obtain ⟨before, entry, after, split, front, back, shows⟩ := stands
  have said := shows.said writable undashed
  have whole : ',' ∉ piece.toList := by
    simp [split, comma_not_mem front, shows.whole writable, comma_not_mem back]
  have holds : Holds piece.toList [entry] := split ▸ .entry front back (trimmed_of_saying said)
  exact parse_iff.mpr ⟨[entry], .last whole holds, .cons (.inl said) .nil⟩

/-! ### What is read can be written -/

/-- No comma is within an entry. -/
theorem whole_of_lists {text : List Char} (lists : Lists text found) : ∀ entry ∈ found, ',' ∉ entry := by
  have held : ∀ {stretch found}, ',' ∉ stretch → Holds stretch found → ∀ entry ∈ found, ',' ∉ entry := by
    rintro _ _ whole (blanks | ⟨front, back, trimmed⟩)
    · exact List.forall_mem_nil _
    · refine List.forall_mem_singleton.mpr fun within => whole ?_
      exact List.mem_append_left _ (List.mem_append_right _ within)
  induction lists with
  | last whole holds => exact held whole holds
  | more whole holds lists ih => exact List.forall_mem_append.mpr ⟨held whole holds, ih⟩

/-- The property that an entry is read for is one word of it, without the dash. -/
theorem writable_of_reads (whole : ',' ∉ entry) (reads : Reads entry key) : Writable key.property := by
  have inside : Solid key.property.toList ∧ key.property.toList ⊆ entry := by
    obtain said | overrules := reads
    · cases said with
      | plain solid undashed => simpa using solid
      | dashed solid => exact ⟨by simpa using solid, by simp⟩
      | directed solid undashed apart blanks names => exact ⟨by simpa using solid, by simp⟩
    · obtain ⟨solid, apart, blanks, names⟩ := overrules
      exact ⟨by simpa using solid, by simp⟩
  exact ⟨inside.1, fun within => whole (inside.2 within)⟩

/-- Keys in either style, or in both mixed, with commas between them and any blanks
around, are read for exactly these keys in their order. The properties of what any
text is read for are words without commas. -/
theorem written_sorting_read_back :
    (∀ sorting pieces,
      (∀ key ∈ sorting.keys, Writable key.property ∧ key.property.toList.head? ≠ some '-') →
      List.Forall₂ Stands sorting.keys pieces → parse (joined "," pieces) = .ok sorting) ∧
    ∀ text sorting, parse text = .ok sorting → ∀ key ∈ sorting.keys, Writable key.property := by
  constructor
  · rintro ⟨keys⟩ pieces writable stand
    dsimp only at writable stand
    induction stand with
    | nil => rfl
    | @cons key piece keys pieces stands rest ih =>
      obtain ⟨⟨first, undashed⟩, others⟩ := List.forall_mem_cons.mp writable
      have one := parse_one first undashed stands
      cases rest with
      | nil => exact one
      | cons second rest =>
        rw [joined_cons (List.cons_ne_nil _ _), parse_append_comma, one, ih others]
        rfl
  · intro text sorting read key member
    obtain ⟨found, lists, all⟩ := parse_iff.mp read
    have each : List.Forall₂ (fun key entry => Writable key.property ∧ Reads entry key) sorting.keys found := by
      refine (((List.forall₂_and_left _ _).mpr ⟨whole_of_lists lists, all⟩).imp ?_).flip
      rintro entry key ⟨whole, reads⟩
      exact ⟨writable_of_reads whole reads, reads⟩
    exact ((List.forall₂_and_left _ _).mp each).1 key member

/-- Properties that look like directions, in either style and among blanks of any kind. -/
theorem confusable_keys_read_back :
    let sorting : Sorting := ⟨[⟨"desc", .descending⟩, ⟨"due-on", .ascending⟩, ⟨"asc", .descending⟩]⟩
    let pieces : List String := ["-desc ", "\tdue-on\u2003Asc", " asc DESC"]
    (∀ key ∈ sorting.keys, Writable key.property ∧ key.property.toList.head? ≠ some '-') ∧
      List.Forall₂ Stands sorting.keys pieces ∧ parse (joined "," pieces) = .ok sorting := by
  intro sorting pieces
  have writable : ∀ key ∈ sorting.keys, Writable key.property ∧ key.property.toList.head? ≠ some '-' := by
    decide
  have stand : List.Forall₂ Stands sorting.keys pieces := by
    refine .cons ?_ (.cons ?_ (.cons ?_ .nil))
    · exact ⟨[], _, [' '], rfl, by decide, by decide, .byMark⟩
    · have named : "Asc".toList.map Char.toLower = Direction.ascending.name.toList := by decide
      exact ⟨['\t'], _, [], rfl, by decide, by decide,
        @Shows.byWord _ ['\u2003'] _ (List.cons_ne_nil _ _) (by decide) named⟩
    · have named : "DESC".toList.map Char.toLower = Direction.descending.name.toList := by decide
      exact ⟨[' '], _, [], rfl, by decide, by decide,
        @Shows.byWord _ [' '] _ (List.cons_ne_nil _ _) (by decide) named⟩
  exact ⟨writable, stand, written_sorting_read_back.1 sorting pieces writable stand⟩

end TenantSql.WrittenSorts
