import TenantSql.Sorting
import TenantSql.Proofs.Outcomes
import TenantSql.Proofs.SpacedWords

/-! The entries of a request text. Nothing is carried from one entry to the next, so a
comma between two texts keeps them apart: what is read of the whole, an ordering or an
error, is told by what is read of each. -/
namespace TenantSql.SortEntries
open Text Sorting

variable {stretch : List Char} {sorting : Sorting} {error : Error}

theorem entries_append_comma (left right : List Char) :
    entries (left ++ ',' :: right) = entries left ++ entries right := by
  have parted := @pieces_append_cons (· == ',') ',' rfl left right
  rw [entries, parted, List.map_append, List.filter_append, entries, entries]

/-- What stands between commas is one piece. -/
theorem entries_uncut (whole : ',' ∉ stretch) :
    entries stretch = [trim stretch].filter (!·.isEmpty) := by
  have uncut : ∀ c ∈ stretch, (c == ',') = false := fun c within =>
    beq_eq_false_iff_ne.mpr fun comma => whole (comma ▸ within)
  rw [entries, pieces_uncut uncut, List.map_singleton]

theorem comma_not_mem (blanks : Blanks stretch) : ',' ∉ stretch :=
  fun within => absurd (blanks ',' within) (by decide)

/-- Blanks hold no entry. -/
theorem entries_blanks (blanks : Blanks stretch) : entries stretch = [] := by
  rw [entries_uncut (comma_not_mem blanks), trim_blanks blanks]
  rfl

/-- The texts on both sides of a comma are read one after the other. -/
theorem parse_append_comma (first second : String) :
    parse (first ++ "," ++ second) = do
      let one ← parse first
      let other ← parse second
      return one.followedBy other := by
  have parted : (first ++ "," ++ second).toList = first.toList ++ ',' :: second.toList := by
    simp [String.toList_append]
  rw [parse, parted, entries_append_comma, List.mapM_append, parse, parse]
  simp only [bind_assoc, pure_bind]
  rfl

theorem parse_blanks {text : String} (blanks : Blanks text.toList) : parse text = .ok unsorted := by
  rw [parse, entries_blanks blanks]
  rfl

/-- Reading two texts with a comma between them is reading both. The whole is an
ordering if each of them is, by the first before the second. The first of them that
cannot be read decides the error. A blank text on either side changes nothing. -/
theorem comma_keeps_texts_apart (first second : String) :
    (∀ sorting, parse (first ++ "," ++ second) = .ok sorting ↔
      ∃ one other, parse first = .ok one ∧ parse second = .ok other ∧ sorting = one.followedBy other) ∧
    (∀ error, parse (first ++ "," ++ second) = .error error ↔
      parse first = .error error ∨ (∃ one, parse first = .ok one) ∧ parse second = .error error) ∧
    ∀ blank : String, Blanks blank.toList →
      parse blank = .ok unsorted ∧ parse (blank ++ "," ++ first) = parse first ∧
        parse (first ++ "," ++ blank) = parse first := by
  refine ⟨fun sorting => ?_, fun error => ?_, fun blank blanks => ?_⟩
  · rw [parse_append_comma]
    simp only [Outcomes.bind_eq_ok, Outcomes.pure_eq_ok]
    constructor
    · rintro ⟨one, read, other, readOther, rfl⟩
      exact ⟨one, other, read, readOther, rfl⟩
    · rintro ⟨one, other, read, readOther, rfl⟩
      exact ⟨one, read, other, readOther, rfl⟩
  · rw [parse_append_comma]
    simp only [Outcomes.bind_eq_error]
    constructor
    · rintro (failed | ⟨one, read, failed | ⟨other, -, ⟨⟩⟩⟩)
      · exact .inl failed
      · exact .inr ⟨⟨one, read⟩, failed⟩
    · rintro (failed | ⟨⟨one, read⟩, failed⟩)
      · exact .inl failed
      · exact .inr ⟨one, read, .inl failed⟩
  · have read := parse_blanks blanks
    refine ⟨read, ?_, ?_⟩
    · rw [parse_append_comma, read]
      exact bind_pure (parse first)
    · simp only [parse_append_comma, read]
      cases parse first with
      | error error => rfl
      | ok one => exact congrArg Except.ok (followedBy_unsorted one)

/-- A blank half of a text keeps what the other half is read for. -/
theorem blank_half_keeps_text :
    Blanks " \t".toList ∧ parse " \t" = .ok unsorted ∧ parse (" \t" ++ "," ++ "-age, name") = parse "-age, name" ∧
      parse ("-age, name" ++ "," ++ " \t") = parse "-age, name" := by
  have blanks : Blanks " \t".toList := by decide
  obtain ⟨-, -, neutral⟩ := comma_keeps_texts_apart "-age, name" ""
  exact ⟨blanks, neutral " \t" blanks⟩

end TenantSql.SortEntries
