import TenantSql.Proofs.CheckedOffset
import TenantSql.Proofs.OffsetNotation
import TenantSql.Proofs.SpacedWords

/-! The offsets that texts name are the whole minutes up to eighteen hours and fifty-nine
to either side. Each of them is read from every way of spelling it, and whatever text is
given, the reading ends with one of them or with the text refused. -/
namespace TenantSql.WholeMinutes
open Offset OffsetNotation Text Decimal

variable {seconds : Int} {body lead : List Char} {hours minutes : Nat}

/-- Whole minutes, at most eighteen hours and fifty-nine of them to either side. -/
def IsWholeMinutes (seconds : Int) : Prop := 60 ∣ seconds ∧ -68340 ≤ seconds ∧ seconds ≤ 68340

instance (seconds : Int) : Decidable (IsWholeMinutes seconds) := inferInstanceAs (Decidable (_ ∧ _))

/-- How a distance is spelled behind its sign: hours and minutes in two digits each, with
a colon or without, or hours alone if there are no minutes. -/
def bodies (distance : Nat) : List (List Char) :=
  let hours := twoDigits (distance / 3600)
  let minutes := twoDigits (distance / 60 % 60)
  [hours ++ ':' :: minutes, hours ++ minutes] ++ if distance % 3600 = 0 then [hours] else []

/-- A way of spelling an offset: blanks, UTC or GMT or neither in any letter case, a sign,
the distance, and blanks. -/
structure Spelling (seconds : Int) where
  before : List Char
  lead : List Char
  sign : Char
  body : List Char
  after : List Char
  front : Blanks before
  named : lead.map Char.toUpper ∈ leads
  side : sign = '+' ∧ 0 ≤ seconds ∨ sign = '-' ∧ seconds ≤ 0
  spelled : body ∈ bodies seconds.natAbs
  back : Blanks after

/-- The text that is spelled. -/
def Spelling.text (spelling : Spelling seconds) : String :=
  String.ofList (spelling.before ++ (spelling.lead ++ spelling.sign :: spelling.body) ++ spelling.after)

/-! ### Every spelling is read -/

theorem lead_not_blank (named : lead.map Char.toUpper ∈ leads) : ∀ c ∈ lead, isBlank c = false := by
  have plain : ∀ name ∈ leads, ∀ c ∈ name, isBlank c = false := by simp [leads, isBlank]
  intro c within
  refine Bool.eq_false_iff.mpr fun blank => ?_
  have shown : c ∈ lead.map Char.toUpper := (caseless_blank blank).2 ▸ List.mem_map_of_mem within
  exact absurd blank (by simp [plain _ named c shown])

/-- Digits and colons are no blanks, and are capitals already. -/
theorem body_plain (written : Clock hours minutes body) : ∀ c ∈ body, isBlank c = false ∧ c.toUpper = c := by
  have plain : ∀ d < 10, isBlank d.digitChar = false ∧ d.digitChar.toUpper = d.digitChar := by decide
  intro c within
  by_cases colon : c = ':'
  · rw [colon]
    decide
  · have left : c ∈ colonless body := List.mem_filter.mpr ⟨within, decide_eq_true colon⟩
    obtain ⟨d, single, rfl⟩ := exists_digit (written.toDigits.isDigit c left)
    exact plain d single

/-- A distance is spelled by its hours and minutes. -/
theorem clock_of_bodies {distance : Nat} (few : distance ≤ 68340) (whole : distance % 60 = 0)
    (spelled : body ∈ bodies distance) :
    Clock (distance / 3600) (distance / 60 % 60) body := by
  have day : distance / 3600 ≤ 18 := by omega
  have hour : distance / 60 % 60 < 60 := by omega
  simp only [bodies, List.mem_append, List.mem_cons, List.not_mem_nil, or_false] at spelled
  obtain (rfl | rfl) | alone := spelled
  · exact .parted day hour
  · exact .plain (.both day hour)
  · split at alone
    next even =>
      have none : distance / 60 % 60 = 0 := by omega
      rw [List.mem_singleton.mp alone, none]
      exact .plain (.hours day)
    next => exact absurd alone List.not_mem_nil

theorem Spelling.clock (spelling : Spelling seconds) (whole : IsWholeMinutes seconds) :
    Clock (seconds.natAbs / 3600) (seconds.natAbs / 60 % 60) spelling.body := by
  obtain ⟨even, west, east⟩ := whole
  exact clock_of_bodies (by omega) (by omega) spelling.spelled

/-- The blanks are put aside, and what is left has no others. -/
theorem capitals_spelling (whole : IsWholeMinutes seconds) (spelling : Spelling seconds) :
    capitals spelling.text = spelling.lead.map Char.toUpper ++ spelling.sign :: spelling.body := by
  have plain := body_plain (spelling.clock whole)
  have sign : isBlank spelling.sign = false ∧ spelling.sign.toUpper = spelling.sign := by
    obtain ⟨side, -⟩ | ⟨side, -⟩ := spelling.side <;> rw [side] <;> decide
  have solid : Solid (spelling.lead ++ spelling.sign :: spelling.body) := by
    refine ⟨List.append_ne_nil_of_right_ne_nil _ (List.cons_ne_nil _ _), ?_⟩
    refine List.forall_mem_append.mpr ⟨lead_not_blank spelling.named, ?_⟩
    exact List.forall_mem_cons.mpr ⟨sign.1, fun c within => (plain c within).1⟩
  have kept : spelling.body.map Char.toUpper = spelling.body :=
    (List.map_congr_left fun c within => (plain c within).2).trans (List.map_id _)
  rw [capitals, Spelling.text, String.toList_ofList, trim_around spelling.front spelling.back solid.trimmed,
    List.map_append, List.map_cons, sign.2, kept]

/-- A spelling says the offset it spells. -/
theorem says_spelling (whole : IsWholeMinutes seconds) (spelling : Spelling seconds) : Says spelling.text seconds := by
  refine .inr ⟨_, spelling.named, spelling.sign, spelling.body, _, _, capitals_spelling whole spelling,
    spelling.clock whole, ?_⟩
  obtain ⟨even, west, east⟩ := whole
  generalize told : 3600 * ((seconds.natAbs / 3600 : Nat) : Int) +
    60 * ((seconds.natAbs / 60 % 60 : Nat) : Int) = distance
  obtain ⟨side, positive⟩ | ⟨side, negative⟩ := spelling.side
  · have same : distance = seconds := by omega
    rw [side, same]
    exact .east
  · have same : seconds = -distance := by omega
    rw [side, same]
    exact .west

/-! ### Nothing else is read -/

theorem whole_of_digits {digits : List Char} {sign : Char} (written : Digits hours minutes digits)
    (signed : Signed (3600 * hours + 60 * minutes) sign seconds) : IsWholeMinutes seconds := by
  obtain ⟨-, day, hour⟩ := read_of_digits written
  unfold IsWholeMinutes
  cases signed <;> omega

theorem whole_of_parse {text : String} {offset : Offset} (read : parse text = .ok offset) :
    IsWholeMinutes offset.seconds := by
  obtain (⟨-, none⟩ | said) | strays := parse_iff.mp ⟨offset, read, rfl⟩
  · rw [none]
    decide
  · obtain ⟨lead, named, sign, body, hours, minutes, split, written, signed⟩ := said
    exact whole_of_digits written.toDigits signed
  · obtain ⟨lead, named, sign, body, hours, minutes, split, ⟨written, -, -⟩, signed⟩ := strays
    exact whole_of_digits written signed

/-- The plainest spelling: a sign, and hours and minutes with a colon between. -/
def plainSpelling (seconds : Int) : Spelling seconds where
  before := []
  lead := []
  sign := if 0 ≤ seconds then '+' else '-'
  body := twoDigits (seconds.natAbs / 3600) ++ ':' :: twoDigits (seconds.natAbs / 60 % 60)
  after := []
  front := blanks_nil
  named := by decide
  side := by
    split
    · exact .inl ⟨rfl, ‹_›⟩
    · exact .inr ⟨rfl, by omega⟩
  spelled := by simp [bodies]
  back := blanks_nil

/-- Every whole minute up to eighteen hours and fifty-nine is read from each of its
spellings, and nothing else is ever read: the values of the reading are these. Any text
is read for one of them or refused with itself. And no step of a reading that works
with bytes and numbers of 32 bits fails on any text: no cut falls into a character, all
digits that are counted off are a number, and no distance is a day or more. -/
theorem offsets_are_whole_minutes :
    (∀ seconds, IsWholeMinutes seconds → ∀ spelling : Spelling seconds,
      ∃ offset, parse spelling.text = .ok offset ∧ offset.seconds = seconds) ∧
    (∀ seconds, (∃ text offset, parse text = .ok offset ∧ offset.seconds = seconds) ↔ IsWholeMinutes seconds) ∧
    ∀ text,
      ((∃ offset, parse text = .ok offset ∧ IsWholeMinutes offset.seconds) ∨
        parse text = .error (.invalidTimezone (String.ofList (trim text.toList)))) ∧
      CheckedOffset.read text = .ok (parse text).toOption := by
  have each : ∀ seconds, IsWholeMinutes seconds → ∀ spelling : Spelling seconds,
      ∃ offset, parse spelling.text = .ok offset ∧ offset.seconds = seconds :=
    fun seconds whole spelling => parse_iff.mpr (.inl (says_spelling whole spelling))
  refine ⟨each, fun seconds => ⟨?_, fun whole => ?_⟩, fun text => ⟨?_, CheckedOffset.read_eq text⟩⟩
  · rintro ⟨text, offset, read, rfl⟩
    exact whole_of_parse read
  · obtain ⟨offset, read, same⟩ := each seconds whole (plainSpelling seconds)
    exact ⟨_, offset, read, same⟩
  · cases read : ofUpper? (capitals text) with
    | none =>
      right
      rw [parse_eq, read]
    | some offset =>
      have taken : parse text = .ok offset := by rw [parse_eq, read]
      exact .inl ⟨offset, taken, whole_of_parse taken⟩

/-- Half an hour to the west, among blanks and behind a name in mixed letters. -/
theorem half_hour_west_read :
    IsWholeMinutes (-1800) ∧ ∃ offset, parse "\u3000gMt-0030\t" = .ok offset ∧ offset.seconds = -1800 := by
  have whole : IsWholeMinutes (-1800) := by decide
  have named : ['g', 'M', 't'].map Char.toUpper ∈ leads := by decide
  have side : '-' = '+' ∧ 0 ≤ (-1800 : Int) ∨ '-' = '-' ∧ (-1800 : Int) ≤ 0 := .inr ⟨rfl, by decide⟩
  have spelled : ['0', '0', '3', '0'] ∈ bodies (-1800 : Int).natAbs := by decide
  let spelling : Spelling (-1800) :=
    ⟨['\u3000'], ['g', 'M', 't'], '-', ['0', '0', '3', '0'], ['\t'], by decide, named, side, spelled, by decide⟩
  exact ⟨whole, offsets_are_whole_minutes.1 (-1800) whole spelling⟩

end TenantSql.WholeMinutes
