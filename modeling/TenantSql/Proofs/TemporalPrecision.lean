import TenantSql.Proofs.TypeNames

/-! Temporal types whose names say how many digits a second has. The digits stand in the
middle of the name, and what stands behind them is passed over with them: without a zone
nothing is lost, and with a zone the zone is. No literal shows it, since all temporal
types are quoted. -/
namespace TenantSql.TemporalPrecision
open Text ColumnKind TypeNames

variable {name text head rest : List Char}

/-- What a temporal type measures. -/
inductive Measure where
  | time
  | timestamp
  deriving Repr, DecidableEq

/-- Whether a temporal type goes with a zone. -/
inductive Zoning where
  | withZone
  | withoutZone
  deriving Repr, DecidableEq

/-- The word a temporal type begins with. -/
def Measure.word : Measure → List Char
  | time => "time".toList
  | timestamp => "timestamp".toList

/-- The words a temporal type ends with. -/
def Zoning.words : Zoning → List Char
  | withZone => " with time zone".toList
  | withoutZone => " without time zone".toList

/-- The kind that measures this, with the zone or without. -/
def kindOf : Measure → Zoning → ColumnKind
  | .time, .withZone => .timeWithTimezone
  | .time, .withoutZone => .time
  | .timestamp, .withZone => .timestampWithTimezone
  | .timestamp, .withoutZone => .timestamp

/-- The name of a temporal type without a precision. -/
def plainName (measure : Measure) (zoning : Zoning) : List Char := measure.word ++ zoning.words

/-- The name with a precision between parentheses. -/
def preciseName (measure : Measure) (zoning : Zoning) (precision : List Char) : List Char :=
  measure.word ++ '(' :: (precision ++ ')' :: zoning.words)

/-- A text that is a name in any letter case, with blanks around it. -/
def Written (name text : List Char) : Prop :=
  ∃ before after, Blanks before ∧ Blanks after ∧ SameLetters text (before ++ name ++ after)

theorem Written.shows (written : Written name text) : Shows name text := by
  obtain ⟨before, after, front, back, same⟩ := written
  exact ⟨before, 0, after, front, .blanks back, by simpa [unsigned] using same⟩

/-- With a parenthesis in it, a text shows what stands before the parenthesis. -/
theorem Written.shows_head (written : Written (head ++ '(' :: rest) text) : Shows head text := by
  obtain ⟨before, after, front, back, same⟩ := written
  exact ⟨before, 0, '(' :: (rest ++ after), front, .modifier _, by simpa [unsigned] using same⟩

theorem word_bare (measure : Measure) : Bare measure.word := by
  cases measure <;> exact ⟨by decide, by rintro _ ⟨⟩; rfl, by rintro _ ⟨⟩; rfl⟩

theorem plainName_bare (measure : Measure) (zoning : Zoning) : Bare (plainName measure zoning) := by
  cases measure <;> cases zoning <;> exact ⟨by decide, by rintro _ ⟨⟩; rfl, by rintro _ ⟨⟩; rfl⟩

theorem ofTypeName_word (measure : Measure) :
    ofTypeName (String.ofList measure.word) = kindOf measure .withoutZone := by
  cases measure <;> decide +kernel

theorem ofTypeName_plainName (measure : Measure) (zoning : Zoning) :
    ofTypeName (String.ofList (plainName measure zoning)) = kindOf measure zoning := by
  cases measure <;> cases zoning <;> decide +kernel

theorem kindOf_inj {measure : Measure} {one other : Zoning} : kindOf measure one = kindOf measure other ↔ one = other := by
  cases measure <;> cases one <;> cases other <;> decide

theorem literal_kindOf (measure : Measure) (one other : Zoning) (value : String) :
    (kindOf measure one).literal value = (kindOf measure other).literal value := by
  cases measure <;> cases one <;> cases other <;> rfl

/-- Whatever the precision is, it changes the kind of a temporal type exactly if the
type has a zone: then the kind is the one without. Literals of both are the same. -/
theorem precision_changes_zoned_alone (measure : Measure) (zoning : Zoning) (precision : List Char)
    {precise plain : String} (written : Written (preciseName measure zoning precision) precise.toList)
    (written' : Written (plainName measure zoning) plain.toList) :
    (ofTypeName precise = ofTypeName plain ↔ zoning = .withoutZone) ∧
    ofTypeName precise = kindOf measure .withoutZone ∧ ofTypeName plain = kindOf measure zoning ∧
    ∀ {σ : Type} (writer : Writer σ) (value : String),
      writer.write (.literal (ofTypeName precise) value) = writer.write (.literal (ofTypeName plain) value) := by
  have cut : ofTypeName precise = kindOf measure .withoutZone := by
    rw [← ofTypeName_word]
    apply ofTypeName_shown <;> rw [String.toList_ofList]
    · exact word_bare measure
    · exact written.shows_head
  have whole : ofTypeName plain = kindOf measure zoning := by
    rw [← ofTypeName_plainName]
    apply ofTypeName_shown <;> rw [String.toList_ofList]
    · exact plainName_bare measure zoning
    · exact written'.shows
  refine ⟨?_, cut, whole, fun writer value => ?_⟩
  · rw [cut, whole, kindOf_inj, eq_comm]
  · have same := literal_kindOf measure .withoutZone zoning value
    rw [cut, whole]
    simp only [Writer.write, same]

/-- Milliseconds with a zone, in mixed letters and among blanks. -/
theorem zoned_milliseconds_shown :
    Written (preciseName .timestamp .withZone ['3']) " TimeStamp(3) With Time Zone\u3000".toList ∧
    Written (plainName .timestamp .withZone) "TIMESTAMP with time zone".toList ∧
    ofTypeName " TimeStamp(3) With Time Zone\u3000" = .timestamp ∧
    ofTypeName "TIMESTAMP with time zone" = .timestampWithTimezone := by
  have precise : Written (preciseName .timestamp .withZone ['3']) " TimeStamp(3) With Time Zone\u3000".toList :=
    ⟨[' '], ['\u3000'], List.forall_mem_singleton.mpr rfl, List.forall_mem_singleton.mpr rfl, by decide⟩
  have plain : Written (plainName .timestamp .withZone) "TIMESTAMP with time zone".toList :=
    ⟨[], [], blanks_nil, blanks_nil, by decide⟩
  obtain ⟨-, cut, whole, -⟩ := precision_changes_zoned_alone .timestamp .withZone ['3'] precise plain
  exact ⟨precise, plain, cut, whole⟩

/-- A type with a zone is taken for one without when its precision is told. -/
theorem zone_behind_precision_lost :
    ofTypeName "timestamp(3) with time zone" ≠ ofTypeName "timestamp with time zone" ∧
      ofTypeName "time(3) with time zone" ≠ ofTypeName "time with time zone" := by
  decide +kernel

end TenantSql.TemporalPrecision
