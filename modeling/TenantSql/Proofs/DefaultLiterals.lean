import TenantSql.Proofs.BusinessDates
import TenantSql.Proofs.PrintedDates

/-! What the literals of dates say. A writer with the default patterns writes a date so
that it can be read back from the literal, whatever year it is in, and a date-time so that
all but the fraction of its second can. So different dates have different literals, and
for the years of four digits the literals of a family are in the order of the dates. -/
namespace TenantSql.DefaultLiterals
open Writer FirstCause PrintedDates CalendarOrder Decimal

variable {σ : Type} {writer : Writer σ} {state : σ} {request : Request} {family family' : Family}
  {date one other : Date} {point : DateTime} {literal text text' : String} {inner : List Char}

/-- What stands before the text in a literal of a family. -/
def opening (keyword : String) : Family → List Char
  | .mysql => keyword.toList ++ ['(', '\'']
  | .postgres => keyword.toList ++ [' ', '\'']

/-- What stands behind the text in a literal of a family. -/
def closing : Family → List Char
  | .mysql => ['\'', ')']
  | .postgres => ['\'']

/-- The text in a literal of a family. -/
def inside? (keyword : String) (family : Family) (literal : String) : Option (List Char) := do
  let rest ← (opening keyword family).isPrefixOf? literal.toList
  (closing family).isSuffixOf? rest

/-- The date in a literal. -/
def readDate? (family : Family) (literal : String) : Option Date := (inside? "DATE" family literal).bind date?

/-- The date and the time of day in a literal. -/
def readDateTime? (family : Family) (literal : String) : Option Shown :=
  (inside? "TIMESTAMP" family literal).bind shown?

/-- A writer with the default patterns, for a backend of a family. -/
structure Default (writer : Writer σ) (state : σ) (family : Family) : Prop where
  patterns : writer.formats = {}
  resolved : ∃ backend, (writer.resolve state).1.result = .ok backend ∧ backend.family = some family

/-- The requests for a date, and the date that a clock has for them. -/
inductive Dated (clock : ClockFace) : Request → Date → Prop
  | business {date : Date} (known : clock.businessDate.result = .ok date) : Dated clock .businessDate date
  | tenant : Dated clock .tenantDate clock.tenantDate

/-- The literal of a date, as some such writer writes it for one of these requests. -/
def DateWritten (family : Family) (date : Date) (literal : String) : Prop :=
  ∃ (σ : Type) (writer : Writer σ) (state : σ) (request : Request), Default writer state family ∧
    Dated writer.clock request date ∧ (writer.write request state).1.result = .ok literal

/-- The literal of a point in time, as some such writer writes it. -/
def DateTimeWritten (family : Family) (point : DateTime) (literal : String) : Prop :=
  ∃ (σ : Type) (writer : Writer σ) (state : σ), Default writer state family ∧
    writer.clock.tenantTime = point ∧ (writer.write .tenantDateTime state).1.result = .ok literal

/-! ### The text in a literal -/

theorem isPrefixOf?_append (front rest : List Char) : front.isPrefixOf? (front ++ rest) = some rest := by
  induction front with
  | nil => rfl
  | cons c front ih => simp [List.isPrefixOf?, ih]

theorem isSuffixOf?_append (front rest : List Char) : rest.isSuffixOf? (front ++ rest) = some front := by
  rw [List.isSuffixOf?, List.reverse_append, isPrefixOf?_append, Option.map_some, List.reverse_reverse]

theorem dateLiteral_toList (family : Family) (inner : List Char) :
    (family.dateLiteral (String.ofList inner)).toList = opening "DATE" family ++ (inner ++ closing family) := by
  cases family <;> simp [Family.dateLiteral, opening, closing]

theorem timestampLiteral_toList (family : Family) (inner : List Char) :
    (family.timestampLiteral (String.ofList inner)).toList =
      opening "TIMESTAMP" family ++ (inner ++ closing family) := by
  cases family <;> simp [Family.timestampLiteral, opening, closing]

theorem inside_of_toList {keyword : String}
    (shape : literal.toList = opening keyword family ++ (inner ++ closing family)) :
    inside? keyword family literal = some inner := by
  rw [inside?, shape, isPrefixOf?_append]
  exact isSuffixOf?_append inner (closing family)

theorem readDate_written (family : Family) (date : Date) :
    readDate? family (family.dateLiteral (String.ofList (dateText date))) = some date := by
  rw [readDate?, inside_of_toList (dateLiteral_toList family _), Option.bind_some, date_read]

theorem readDateTime_written (family : Family) (shown : Shown) :
    readDateTime? family (family.timestampLiteral (String.ofList shown.text)) = some shown := by
  rw [readDateTime?, inside_of_toList (timestampLiteral_toList family _), Option.bind_some, shown_read]

/-- A literal tells its family by what stands behind the keyword. -/
theorem family_of_opening {keyword : String} {rest rest' : List Char}
    (same : opening keyword family ++ rest = opening keyword family' ++ rest') : family = family' := by
  cases family <;> cases family'
  · rfl
  · simp [opening] at same
  · simp [opening] at same
  · rfl

/-- Literals are the same exactly if family and text are. -/
theorem literal_inj {keyword : String} {inner' : List Char}
    (shape : text.toList = opening keyword family ++ (inner ++ closing family))
    (shape' : text'.toList = opening keyword family' ++ (inner' ++ closing family')) :
    text = text' ↔ family = family' ∧ inner = inner' := by
  rw [← String.toList_inj, shape, shape']
  constructor
  · intro same
    obtain rfl := family_of_opening same
    exact ⟨rfl, List.append_cancel_right (List.append_cancel_left same)⟩
  · rintro ⟨rfl, rfl⟩
    rfl

/-! ### What is written -/

theorem write_date (default : Default writer state family) (dated : Dated writer.clock request date) :
    (writer.write request state).1.result = .ok (family.dateLiteral (String.ofList (dateText date))) := by
  obtain ⟨patterns, backend, found, member⟩ := default
  cases dated with
  | business known =>
    rw [BusinessDates.write_businessDate found member, known, patterns]
    show (({} : Formats).printDate date).map family.dateLiteral = _
    rw [printDate_default]
    rfl
  | tenant =>
    rw [Writer.write, perFamily_of_some found member, patterns, printDate_default]
    rfl

theorem write_dateTime (default : Default writer state family) :
    (writer.write .tenantDateTime state).1.result =
      .ok (family.timestampLiteral (String.ofList (Shown.of writer.clock.tenantTime).text)) := by
  obtain ⟨patterns, backend, found, member⟩ := default
  rw [Writer.write, perFamily_of_some found member, patterns, printDateTime_default]
  rfl

theorem DateWritten.literal_eq (written : DateWritten family date literal) :
    literal = family.dateLiteral (String.ofList (dateText date)) := by
  obtain ⟨σ, writer, state, request, default, dated, result⟩ := written
  rw [write_date default dated] at result
  exact (Except.ok.inj result).symm

theorem DateTimeWritten.literal_eq (written : DateTimeWritten family point literal) :
    literal = family.timestampLiteral (String.ofList (Shown.of point).text) := by
  obtain ⟨σ, writer, state, default, rfl, result⟩ := written
  rw [write_dateTime default] at result
  exact (Except.ok.inj result).symm

/-! ### Literals and their values -/

/-- Literals of one family are in the order of their dates. -/
theorem dateLiteral_lt_iff (plain : IsPlainYear one.year) (plain' : IsPlainYear other.year) :
    family.dateLiteral (String.ofList (dateText one)) < family.dateLiteral (String.ofList (dateText other)) ↔
      one.dayNumber < other.dayNumber := by
  have long : (dateText one).length = (dateText other).length := by
    rw [length_dateText plain, length_dateText plain']
  rw [String.lt_iff, dateLiteral_toList, dateLiteral_toList, append_lt_append_iff rfl, append_lt_append_iff long,
    dateText_lt_iff plain plain', dayNumber_lt_iff]
  simp only [List.lt_irrefl, and_false, or_false, false_or, true_and]

theorem second_sixty_iff (point : DateTime) :
    (Shown.of point).second = 60 ↔ nanosPerSecond ≤ point.time.nano := by
  obtain ⟨-, -, seconds, nanos, leap⟩ := point.time.exists_time
  simp only [Shown.of, Time.shownSecond]
  unfold nanosPerSecond at *
  omega

/-- A point in time is told by what is shown of it and the fraction of its second. -/
theorem eq_of_shown {one other : DateTime} (same : Shown.of one = Shown.of other)
    (fraction : one.time.shownNano = other.time.shownNano) : one = other := by
  obtain ⟨date, hour, minute, second, nano, _, _, seconds, nanos, leap⟩ := one
  obtain ⟨date', hour', minute', second', nano', _, _, seconds', nanos', leap'⟩ := other
  simp only [Shown.of, Time.shownSecond, Shown.mk.injEq] at same
  simp only [Time.shownNano] at fraction
  obtain ⟨rfl, rfl, rfl, shown⟩ := same
  unfold nanosPerSecond at *
  -- the second and the carry make up what is shown; the carry is one only behind the second 59
  obtain ⟨rfl, rfl⟩ : second = second' ∧ nano = nano' := by omega
  rfl

/-- For every writer with the default patterns whose backend has a family. The literal it
writes for the business date or the tenant's date is there and is read back to that date,
whatever its year, and the one for the tenant's date and time to all that a clock shows of
it. Literals of dates are the same exactly if family and date are, and for years from zero
to 9999 the literals of a family are in the order of the dates. Literals of date-times are
the same exactly if the family and what is shown are: with the second sixty for a leap
second, and without the fraction, which is all that is missing from the point in time. -/
theorem default_literals_tell_their_values :
    (∀ {σ : Type} (writer : Writer σ) (state : σ) (family : Family), Default writer state family →
      (∀ request date, Dated writer.clock request date →
        ∃ literal, (writer.write request state).1.result = .ok literal ∧ readDate? family literal = some date) ∧
      ∃ literal, (writer.write .tenantDateTime state).1.result = .ok literal ∧
        readDateTime? family literal = some (.of writer.clock.tenantTime)) ∧
    (∀ family family' one other text text', DateWritten family one text → DateWritten family' other text' →
      (text = text' ↔ family = family' ∧ one = other)) ∧
    (∀ family one other text text', DateWritten family one text → DateWritten family other text' →
      IsPlainYear one.year → IsPlainYear other.year → (text < text' ↔ one.dayNumber < other.dayNumber)) ∧
    (∀ family family' one other text text', DateTimeWritten family one text → DateTimeWritten family' other text' →
      (text = text' ↔ family = family' ∧ Shown.of one = Shown.of other)) ∧
    ∀ point : DateTime, ((Shown.of point).second = 60 ↔ nanosPerSecond ≤ point.time.nano) ∧
      ∀ other, Shown.of point = Shown.of other → point.time.shownNano = other.time.shownNano → point = other := by
  refine ⟨fun writer state family default => ⟨fun request date dated => ?_, ?_⟩, ?_, ?_, ?_, ?_⟩
  · exact ⟨_, write_date default dated, readDate_written family date⟩
  · exact ⟨_, write_dateTime default, readDateTime_written family _⟩
  · intro family family' one other text text' first second
    rw [first.literal_eq, second.literal_eq, literal_inj (dateLiteral_toList ..) (dateLiteral_toList ..), dateText_inj]
  · intro family one other text text' first second plain plain'
    rw [first.literal_eq, second.literal_eq, dateLiteral_lt_iff plain plain']
  · intro family family' one other text text' first second
    rw [first.literal_eq, second.literal_eq, literal_inj (timestampLiteral_toList ..) (timestampLiteral_toList ..),
      Shown.text_inj]
  · exact fun point => ⟨second_sixty_iff point, fun other same fraction => eq_of_shown same fraction⟩

/-- On Postgres: a date before year zero and a leap second are read back, the last day of
the first thousand years is written before the day after it, and the leap second is not
written as the second before it. -/
theorem millennium_and_leap_second_written :
    let ides : Date := ⟨-44, 3, 15, by decide⟩
    let eve : Date := ⟨999, 12, 31, by decide⟩
    let morrow : Date := ⟨1000, 1, 1, by decide⟩
    let last : DateTime := ⟨ides, 23, 59, 59, 999999999, by decide⟩
    let leap : DateTime := ⟨ides, 23, 59, 59, 1000000000, by decide⟩
    let writer := fun business point => (Resolver.fixed .postgres).writer (.fixed business point) {} none .epoch
    (∀ business point, Default (writer business point) () .postgres) ∧
      (∃ literal, ((writer ides leap).write .businessDate ()).1.result = .ok literal ∧
        readDate? .postgres literal = some ides) ∧
      (∃ literal, ((writer ides leap).write .tenantDateTime ()).1.result = .ok literal ∧
        readDateTime? .postgres literal = some ⟨ides, 23, 59, 60⟩) ∧
      (DateWritten .postgres eve "DATE '0999-12-31'" ∧ DateWritten .postgres morrow "DATE '1000-01-01'" ∧
        "DATE '0999-12-31'" < "DATE '1000-01-01'") ∧
      DateTimeWritten .postgres last "TIMESTAMP '-0044-03-15 23:59:59'" ∧
        DateTimeWritten .postgres leap "TIMESTAMP '-0044-03-15 23:59:60'" ∧
        "TIMESTAMP '-0044-03-15 23:59:59'" ≠ "TIMESTAMP '-0044-03-15 23:59:60'" := by
  intro ides eve morrow last leap writer
  have default : ∀ business point, Default (writer business point) () .postgres :=
    fun business point => ⟨rfl, .postgres, rfl, rfl⟩
  have dated : ∀ business text, Family.postgres.dateLiteral (String.ofList (dateText business)) = text →
      DateWritten .postgres business text := by
    rintro business _ rfl
    have written := write_date (default business leap) (.business rfl)
    exact ⟨Unit, writer business leap, (), .businessDate, default _ _, .business rfl, written⟩
  have timed : ∀ point text, Family.postgres.timestampLiteral (String.ofList (Shown.of point).text) = text →
      DateTimeWritten .postgres point text := by
    rintro point _ rfl
    exact ⟨Unit, writer ides point, (), default _ _, rfl, write_dateTime (default _ _)⟩
  obtain ⟨read, apart, ordered, shown, -⟩ := default_literals_tell_their_values
  obtain ⟨date, dateTime⟩ := read (writer ides leap) () .postgres (default ides leap)
  have sixty : Shown.of leap = ⟨ides, 23, 59, 60⟩ := by decide
  have before := dated eve "DATE '0999-12-31'" (by decide)
  have after := dated morrow "DATE '1000-01-01'" (by decide)
  have plain := timed last "TIMESTAMP '-0044-03-15 23:59:59'" (by decide)
  have doubled := timed leap "TIMESTAMP '-0044-03-15 23:59:60'" (by decide)
  refine ⟨default, date .businessDate ides (.business rfl), ?_, ⟨before, after, ?_⟩, plain, doubled, ?_⟩
  · rw [← sixty]
    exact dateTime
  · exact (ordered _ _ _ _ _ before after ⟨by decide, by decide⟩ ⟨by decide, by decide⟩).mpr (by decide)
  · exact mt (shown _ _ _ _ _ _ plain doubled).mp (by decide)

end TenantSql.DefaultLiterals
