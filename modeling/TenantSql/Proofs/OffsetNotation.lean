import Mathlib.Tactic.Ring
import TenantSql.Calendar.Timezone
import TenantSql.Proofs.DecimalDigits
import TenantSql.Proofs.PlainLetters

/-! Which texts name an offset. The notation is given by how it is written: universal
time by its names, or a sign and hours of one or two digits, or hours and minutes of
two digits each with or without a colon between them. The reader puts every colon
aside before it counts digits. So it reads what the notation says wherever the text
keeps to it, and beyond the notation exactly the texts with stray colons. -/
namespace TenantSql.OffsetNotation
open Offset Decimal

variable {text body digits : List Char} {hours minutes : Nat} {seconds : Int}

/-- A number below a hundred in two digits. -/
def twoDigits (n : Nat) : List Char := [(n / 10).digitChar, (n % 10).digitChar]

/-- Hours and minutes in digits alone: at most eighteen hours in one or two digits, or
with them less than sixty minutes in two. -/
inductive Digits : Nat → Nat → List Char → Prop
  | hour {hours : Nat} (single : hours < 10) : Digits hours 0 [hours.digitChar]
  | hours {hours : Nat} (day : hours ≤ 18) : Digits hours 0 (twoDigits hours)
  | both {hours minutes : Nat} (day : hours ≤ 18) (hour : minutes < 60) :
    Digits hours minutes (twoDigits hours ++ twoDigits minutes)

/-- Hours and minutes as the notation writes them: in digits alone, or with a colon
between two digits of hours and two of minutes. -/
inductive Clock : Nat → Nat → List Char → Prop
  | plain {hours minutes : Nat} {body : List Char} (digits : Digits hours minutes body) :
    Clock hours minutes body
  | parted {hours minutes : Nat} (day : hours ≤ 18) (hour : minutes < 60) :
    Clock hours minutes (twoDigits hours ++ ':' :: twoDigits minutes)

/-- The text with every colon put aside. -/
def colonless (body : List Char) : List Char := body.filter (· ≠ ':')

/-- Digits of hours and minutes with a colon, but not the one colon of the notation. -/
def Strewn (hours minutes : Nat) (body : List Char) : Prop :=
  Digits hours minutes (colonless body) ∧ ':' ∈ body ∧
    body ≠ twoDigits hours ++ ':' :: twoDigits minutes

/-- What a sign makes of a distance. -/
inductive Signed (distance : Int) : Char → Int → Prop
  | east : Signed distance '+' distance
  | west : Signed distance '-' (-distance)

/-- The names that may stand before a sign. -/
def leads : List (List Char) := [[], ['U', 'T', 'C'], ['G', 'M', 'T']]

/-- The names of universal time. -/
def universal : List (List Char) := [['U', 'T', 'C'], ['G', 'M', 'T'], ['Z']]

/-- The text is a signed distance whose hours and minutes are written in a given way. -/
def Distance (Written : Nat → Nat → List Char → Prop) (text : List Char) (seconds : Int) : Prop :=
  ∃ lead ∈ leads, ∃ sign body hours minutes, text = lead ++ sign :: body ∧
    Written hours minutes body ∧ Signed (3600 * hours + 60 * minutes) sign seconds

/-- What is read of a text: it without the blanks around it and in capitals, where only
the letters of ASCII have any. -/
def capitals (text : String) : List Char := (Text.trim text.toList).map Char.toUpper

/-- The text names the offset of so many seconds in the notation. -/
def Says (text : String) (seconds : Int) : Prop :=
  capitals text ∈ universal ∧ seconds = 0 ∨ Distance Clock (capitals text) seconds

/-- The text would name the offset, but for stray colons. -/
def Strays (text : String) (seconds : Int) : Prop := Distance Strewn (capitals text) seconds

/-- The reader takes from the text what it says in the notation, and refuses a text that
says nothing with the text itself. -/
def ReadAsWritten (text : String) : Prop :=
  (∀ seconds, (∃ offset, parse text = .ok offset ∧ offset.seconds = seconds) ↔ Says text seconds) ∧
  ((∀ seconds, ¬ Says text seconds) →
    parse text = .error (.invalidTimezone (String.ofList (Text.trim text.toList))))

/-! ### Digits -/

theorem ofDigits_one {d : Nat} (small : d < 10) : ofDigits [d.digitChar] = d := by
  simp [ofDigits, Nat.toNat_digitChar_of_lt_ten small]

theorem ofDigits_two {d e : Nat} (first : d < 10) (second : e < 10) :
    ofDigits [d.digitChar, e.digitChar] = 10 * d + e := by
  simp [ofDigits, Nat.toNat_digitChar_of_lt_ten first, Nat.toNat_digitChar_of_lt_ten second]

/-- Any two digits write a number. -/
theorem exists_twoDigits {c d : Char} (tens : c.isDigit = true) (ones : d.isDigit = true) :
    ∃ n < 100, [c, d] = twoDigits n := by
  obtain ⟨m, first, rfl⟩ := exists_digit tens
  obtain ⟨n, second, rfl⟩ := exists_digit ones
  refine ⟨10 * m + n, by omega, ?_⟩
  have upper : (10 * m + n) / 10 = m := by omega
  have lower : (10 * m + n) % 10 = n := by omega
  rw [twoDigits, upper, lower]

theorem ofDigits_twoDigits {n : Nat} (small : n < 100) : ofDigits (twoDigits n) = n := by
  rw [twoDigits, ofDigits_two (by omega) (by omega)]
  omega

theorem twoDigits_isDigit {n : Nat} (small : n < 100) : ∀ c ∈ twoDigits n, c.isDigit = true := by
  intro c within
  obtain rfl | rfl := List.mem_pair.mp within
  · exact digit_isDigit (by omega)
  · exact digit_isDigit (by omega)

theorem Digits.isDigit (written : Digits hours minutes digits) : ∀ c ∈ digits, c.isDigit = true := by
  cases written with
  | hour single => exact List.forall_mem_singleton.mpr (digit_isDigit single)
  | hours day => exact twoDigits_isDigit (by omega)
  | both day hour =>
    exact List.forall_mem_append.mpr ⟨twoDigits_isDigit (by omega), twoDigits_isDigit (by omega)⟩

/-- What hours and minutes are read from writes them. -/
theorem digits_of_read (read : hoursAndMinutes? digits = some (hours, minutes)) (day : hours ≤ 18)
    (hour : minutes < 60) : Digits hours minutes digits := by
  unfold hoursAndMinutes? at read
  split at read
  next all =>
    have digit : ∀ c ∈ digits, c.isDigit = true := List.all_eq_true.mp all
    -- any other number of digits is refused, so that `read` leaves these three
    match digits, digit, read with
    | [c], digit, rfl =>
      obtain ⟨d, single, rfl⟩ := exists_digit (digit c (by simp))
      rw [ofDigits_one single]
      exact .hour single
    | [c, d], digit, rfl =>
      obtain ⟨n, small, written⟩ := exists_twoDigits (digit c (by simp)) (digit d (by simp))
      rw [written, ofDigits_twoDigits small] at day ⊢
      exact .hours day
    | [c, d, e, f], digit, rfl =>
      obtain ⟨m, first, upper⟩ := exists_twoDigits (digit c (by simp)) (digit d (by simp))
      obtain ⟨n, second, lower⟩ := exists_twoDigits (digit e (by simp)) (digit f (by simp))
      have parts : [c, d, e, f] = twoDigits m ++ twoDigits n := by rw [← upper, ← lower]; rfl
      have hoursRead : ofDigits ([c, d, e, f].take 2) = m := by
        rw [← ofDigits_twoDigits first, ← upper]
        rfl
      have minutesRead : ofDigits ([c, d, e, f].drop 2) = n := by
        rw [← ofDigits_twoDigits second, ← lower]
        rfl
      rw [hoursRead] at day ⊢
      rw [minutesRead] at hour ⊢
      exact parts ▸ .both day hour
  next => cases read

/-- Digits are read for the hours and minutes that they write. -/
theorem read_of_digits (written : Digits hours minutes digits) :
    hoursAndMinutes? digits = some (hours, minutes) ∧ hours ≤ 18 ∧ minutes < 60 := by
  have all : digits.all Char.isDigit = true := List.all_eq_true.mpr written.isDigit
  rw [hoursAndMinutes?, if_pos all]
  cases written with
  | hour single =>
    refine ⟨?_, by omega, by omega⟩
    show some (ofDigits [hours.digitChar], 0) = some (hours, 0)
    rw [ofDigits_one single]
  | hours day =>
    refine ⟨?_, day, by omega⟩
    show some (ofDigits (twoDigits hours), 0) = some (hours, 0)
    rw [ofDigits_twoDigits (by omega)]
  | both day hour =>
    refine ⟨?_, day, hour⟩
    show some (ofDigits (twoDigits hours), ofDigits (twoDigits minutes)) = some (hours, minutes)
    rw [ofDigits_twoDigits (by omega), ofDigits_twoDigits (by omega)]

/-! ### Colons -/

theorem colonless_of_not_mem (absent : ':' ∉ body) : colonless body = body :=
  List.filter_eq_self.mpr fun _ within => decide_eq_true fun colon => absent (colon ▸ within)

theorem colon_not_mem (digit : ∀ c ∈ body, c.isDigit = true) : ':' ∉ body :=
  fun within => absurd (digit ':' within) (by decide)

theorem Clock.toDigits (written : Clock hours minutes body) : Digits hours minutes (colonless body) := by
  cases written with
  | plain digits => rwa [colonless_of_not_mem (colon_not_mem digits.isDigit)]
  | parted day hour =>
    have aside : colonless (twoDigits hours ++ ':' :: twoDigits minutes) =
        twoDigits hours ++ twoDigits minutes := by
      have first := colonless_of_not_mem (colon_not_mem (twoDigits_isDigit (n := hours) (by omega)))
      have second := colonless_of_not_mem (colon_not_mem (twoDigits_isDigit (n := minutes) (by omega)))
      unfold colonless at first second ⊢
      rw [List.filter_append, first, List.filter_cons_of_neg (by decide), second]
    exact aside ▸ .both day hour

/-- With the colons put aside digits are left exactly of what the notation writes and of
what has stray colons. -/
theorem digits_colonless_iff :
    Digits hours minutes (colonless body) ↔ Clock hours minutes body ∨ Strewn hours minutes body := by
  constructor
  · intro written
    by_cases colon : ':' ∈ body
    · by_cases parted : body = twoDigits hours ++ ':' :: twoDigits minutes
      · obtain ⟨-, day, hour⟩ := read_of_digits written
        exact .inl (parted ▸ .parted day hour)
      · exact .inr ⟨written, colon, parted⟩
    · rw [colonless_of_not_mem colon] at written
      exact .inl (.plain written)
  · rintro (written | ⟨written, -, -⟩)
    · exact written.toDigits
    · exact written

/-- What has stray colons is nothing that the notation writes. -/
theorem Strewn.not_clock {hours' minutes' : Nat} (strewn : Strewn hours minutes body) :
    ¬ Clock hours' minutes' body := by
  intro written
  obtain ⟨left, colon, other⟩ := strewn
  have same : (hours', minutes') = (hours, minutes) :=
    Option.some.inj ((read_of_digits written.toDigits).1.symm.trans (read_of_digits left).1)
  obtain ⟨rfl, rfl⟩ := Prod.mk.inj same
  cases written with
  | plain digits => exact colon_not_mem digits.isDigit colon
  | parted day hour => exact other rfl

/-! ### Signs and names -/

theorem withoutZoneName_lead {lead : List Char} {sign : Char} {distance : Int} (named : lead ∈ leads)
    (signed : Signed distance sign seconds) : withoutZoneName (lead ++ sign :: body) = sign :: body := by
  simp only [leads, List.mem_cons, List.not_mem_nil, or_false] at named
  obtain rfl | rfl | rfl := named
  · cases signed <;> rfl
  · rfl
  · rfl

theorem exists_lead (text : List Char) : ∃ lead ∈ leads, text = lead ++ withoutZoneName text := by
  unfold withoutZoneName
  split
  · exact ⟨['U', 'T', 'C'], by simp [leads], rfl⟩
  · exact ⟨['G', 'M', 'T'], by simp [leads], rfl⟩
  · exact ⟨[], by simp [leads], rfl⟩

/-- There is only one way to take a distance apart. -/
theorem distance_iff {Written : Nat → Nat → List Char → Prop} :
    Distance Written text seconds ↔ ∃ sign body hours minutes, withoutZoneName text = sign :: body ∧
      Written hours minutes body ∧ Signed (3600 * hours + 60 * minutes) sign seconds := by
  constructor
  · rintro ⟨lead, named, sign, body, hours, minutes, rfl, written, signed⟩
    exact ⟨sign, body, hours, minutes, withoutZoneName_lead named signed, written, signed⟩
  · rintro ⟨sign, body, hours, minutes, parted, written, signed⟩
    obtain ⟨lead, named, whole⟩ := exists_lead text
    exact ⟨lead, named, sign, body, hours, minutes, parted ▸ whole, written, signed⟩

theorem not_distance_of_universal {Written : Nat → Nat → List Char → Prop} (named : text ∈ universal) :
    ¬ Distance Written text seconds := by
  rw [distance_iff]
  rintro ⟨sign, body, hours, minutes, parted, -, signed⟩
  simp only [universal, List.mem_cons, List.not_mem_nil, or_false] at named
  obtain rfl | rfl | rfl := named
  · cases parted
  · cases parted
  · cases parted
    cases signed

/-! ### The reader -/

theorem ofSeconds_iff {offset : Offset} : ofSeconds? seconds = some offset ↔ offset.seconds = seconds := by
  unfold ofSeconds?
  split
  next range =>
    constructor
    · rintro ⟨⟩
      rfl
    · rintro rfl
      rfl
  next range =>
    constructor
    · rintro ⟨⟩
    · rintro rfl
      exact absurd offset.less_than_day range

theorem signed_iff (negative : Bool) {distance : Int} :
    Signed distance (if negative then '-' else '+') seconds ↔
      seconds = if negative then -distance else distance := by
  cases negative with
  | false => exact ⟨fun | .east => rfl, fun same => same ▸ .east⟩
  | true => exact ⟨fun | .west => rfl, fun same => same ▸ .west⟩

/-- What the reader makes of what stands after a sign. -/
theorem read_distance (negative : Bool) :
    (∃ offset, distance? negative body = some offset ∧ offset.seconds = seconds) ↔
      ∃ hours minutes, Digits hours minutes (colonless body) ∧
        Signed (3600 * hours + 60 * minutes) (if negative then '-' else '+') seconds := by
  simp only [signed_iff]
  unfold distance?
  constructor
  · rintro ⟨offset, read, rfl⟩
    obtain ⟨⟨hours, minutes⟩, times, read⟩ := Option.bind_eq_some_iff.mp read
    dsimp only at read
    split at read
    next range =>
      refine ⟨hours, minutes, digits_of_read times range.1 range.2, ?_⟩
      rw [ofSeconds_iff.mp read]
      split <;> ring
    next => cases read
  · rintro ⟨hours, minutes, written, rfl⟩
    obtain ⟨times, day, hour⟩ := read_of_digits written
    unfold colonless at times
    simp only [times, Option.bind_eq_bind, Option.bind_some, day, hour, and_self, if_true]
    let seconds : Int := if negative then -(3600 * hours + 60 * minutes) else 3600 * hours + 60 * minutes
    have range : -86400 < seconds ∧ seconds < 86400 := by
      simp only [seconds]
      split <;> omega
    refine ⟨⟨seconds, range⟩, ofSeconds_iff.mpr ?_, rfl⟩
    simp only [seconds]
    split <;> ring

/-- The reader takes the names of universal time, and signed distances whatever colons
there are in them. -/
theorem read_upper :
    (∃ offset, ofUpper? text = some offset ∧ offset.seconds = seconds) ↔
      text ∈ universal ∧ seconds = 0 ∨
        Distance (fun hours minutes body => Digits hours minutes (colonless body)) text seconds := by
  unfold ofUpper?
  split
  next named =>
    have named : text ∈ universal := by simpa [universal] using named
    constructor
    · rintro ⟨offset, read, rfl⟩
      cases read
      exact .inl ⟨named, rfl⟩
    · rintro (⟨-, rfl⟩ | distance)
      · exact ⟨utc, rfl, rfl⟩
      · exact absurd distance (not_distance_of_universal named)
  next unnamed =>
    have unnamed : text ∉ universal := by simpa [universal] using unnamed
    rw [distance_iff, or_iff_right (fun both => unnamed both.1)]
    split
    next rest parted =>
      rw [read_distance false, parted]
      constructor
      · rintro ⟨hours, minutes, written, signed⟩
        exact ⟨'+', rest, hours, minutes, rfl, written, signed⟩
      · rintro ⟨sign, body, hours, minutes, ⟨⟩, written, signed⟩
        exact ⟨hours, minutes, written, signed⟩
    next rest parted =>
      rw [read_distance true, parted]
      constructor
      · rintro ⟨hours, minutes, written, signed⟩
        exact ⟨'-', rest, hours, minutes, rfl, written, signed⟩
      · rintro ⟨sign, body, hours, minutes, ⟨⟩, written, signed⟩
        exact ⟨hours, minutes, written, signed⟩
    next unsigned unsigned' =>
      constructor
      · rintro ⟨offset, read, -⟩
        cases read
      · rintro ⟨sign, body, hours, minutes, same, -, signed⟩
        cases signed with
        | east => exact absurd same (unsigned body)
        | west => exact absurd same (unsigned' body)

theorem Signed.unborrowed {sign : Char} {distance : Int} (signed : Signed distance sign seconds) :
    ¬ Text.Borrowed Text.capitalsBorrowed sign := by
  cases signed <;> decide

/-- A text that the reader takes is written without any letter that upper case borrows. -/
theorem unborrowed_of_read {offset : Offset} (read : ofUpper? text = some offset) :
    ∀ c ∈ text, ¬ Text.Borrowed Text.capitalsBorrowed c := by
  obtain ⟨named, -⟩ | ⟨lead, named, sign, body, hours, minutes, rfl, written, signed⟩ :=
    read_upper.mp ⟨offset, read, rfl⟩
  · have names : ∀ name ∈ universal, ∀ c ∈ name, ¬ Text.Borrowed Text.capitalsBorrowed c := by
      simp [universal, Text.Borrowed, Text.capitalsBorrowed]
    exact names text named
  · intro c within
    obtain inLead | rfl | inBody := List.mem_append.mp within |>.imp_right List.mem_cons.mp
    · have names : ∀ name ∈ leads, ∀ c ∈ name, ¬ Text.Borrowed Text.capitalsBorrowed c := by
        simp [leads, Text.Borrowed, Text.capitalsBorrowed]
      exact names lead named c inLead
    · exact signed.unborrowed
    · by_cases colon : c = ':'
      · rw [colon]
        decide
      · have left : c ∈ colonless body := List.mem_filter.mpr ⟨inBody, decide_eq_true colon⟩
        obtain ⟨d, single, rfl⟩ := exists_digit (written.isDigit c left)
        have digits : ∀ d < 10, ¬ Text.Borrowed Text.capitalsBorrowed d.digitChar := by
          decide
        exact digits d single

/-- To the reader it is all the same whether letters beyond ASCII have capitals. -/
theorem read_capitals (text : List Char) : ofUpper? (Text.upper text) = ofUpper? (text.map Char.toUpper) := by
  by_cases plain : ∀ c ∈ text, c.toNat < 128
  · rw [Text.upper_plain plain]
  · have upper : ofUpper? (Text.upper text) = none :=
      Option.eq_none_iff_forall_ne_some.mpr fun offset read =>
        plain (Text.plain_of_upper (unborrowed_of_read read))
    have mapped : ofUpper? (text.map Char.toUpper) = none :=
      Option.eq_none_iff_forall_ne_some.mpr fun offset read =>
        plain (Text.plain_of_map Text.toUpper_foreign (unborrowed_of_read read))
    rw [upper, mapped]

/-! ### What is read, and what is said -/

theorem distance_split :
    Distance (fun hours minutes body => Digits hours minutes (colonless body)) text seconds ↔
      Distance Clock text seconds ∨ Distance Strewn text seconds := by
  simp only [distance_iff, digits_colonless_iff]
  constructor
  · rintro ⟨sign, body, hours, minutes, parted, written | strewn, signed⟩
    · exact .inl ⟨sign, body, hours, minutes, parted, written, signed⟩
    · exact .inr ⟨sign, body, hours, minutes, parted, strewn, signed⟩
  · rintro (⟨sign, body, hours, minutes, parted, written, signed⟩ |
      ⟨sign, body, hours, minutes, parted, strewn, signed⟩)
    · exact ⟨sign, body, hours, minutes, parted, .inl written, signed⟩
    · exact ⟨sign, body, hours, minutes, parted, .inr strewn, signed⟩

theorem parse_eq (text : String) :
    parse text = match ofUpper? (capitals text) with
      | some offset => .ok offset
      | none => .error (.invalidTimezone (String.ofList (Text.trim text.toList))) := by
  rw [capitals, ← read_capitals]
  rfl

/-- What is read of a text is what it says or what it would say but for stray colons. -/
theorem parse_iff {text : String} :
    (∃ offset, parse text = .ok offset ∧ offset.seconds = seconds) ↔
      Says text seconds ∨ Strays text seconds := by
  have taken : (∃ offset, parse text = .ok offset ∧ offset.seconds = seconds) ↔
      ∃ offset, ofUpper? (capitals text) = some offset ∧ offset.seconds = seconds := by
    rw [parse_eq]
    cases ofUpper? (capitals text) <;> simp
  rw [taken, read_upper, distance_split, Says, Strays, or_assoc]

/-- Every other text is refused with itself. -/
theorem parse_refused {text : String} (silent : ∀ seconds, ¬ Says text seconds)
    (tidy : ∀ seconds, ¬ Strays text seconds) :
    parse text = .error (.invalidTimezone (String.ofList (Text.trim text.toList))) := by
  cases read : ofUpper? (capitals text) with
  | none => rw [parse_eq, read]
  | some offset =>
    have taken : parse text = .ok offset := by rw [parse_eq, read]
    obtain said | strayed := parse_iff.mp ⟨offset, taken, rfl⟩
    · exact absurd said (silent offset.seconds)
    · exact absurd strayed (tidy offset.seconds)

/-- A text with stray colons says nothing. -/
theorem Strays.silent {text : String} (strays : Strays text seconds) (other : Int) : ¬ Says text other := by
  rintro (⟨named, -⟩ | distance)
  · exact not_distance_of_universal named strays
  · obtain ⟨sign, body, hours, minutes, parted, strewn, -⟩ := distance_iff.mp strays
    obtain ⟨sign', body', hours', minutes', parted', written, -⟩ := distance_iff.mp distance
    obtain ⟨rfl, rfl⟩ := List.cons.inj (parted.symm.trans parted')
    exact strewn.not_clock written

/-! ### The notation is kept wherever no colon is astray -/

/-- A text is read for what it says in the notation or for what it would say but for
stray colons, and every other text is refused with itself. So the reader keeps to the
notation on a text exactly if no colon of it is astray. -/
theorem read_as_written_unless_strewn (text : String) :
    (∀ seconds, (∃ offset, parse text = .ok offset ∧ offset.seconds = seconds) ↔
      Says text seconds ∨ Strays text seconds) ∧
    ((∀ seconds, ¬ Says text seconds ∧ ¬ Strays text seconds) →
      parse text = .error (.invalidTimezone (String.ofList (Text.trim text.toList)))) ∧
    (ReadAsWritten text ↔ ∀ seconds, ¬ Strays text seconds) := by
  refine ⟨fun seconds => parse_iff, fun unread => ?_, ?_, ?_⟩
  · exact parse_refused (fun seconds => (unread seconds).1) fun seconds => (unread seconds).2
  · rintro ⟨kept, -⟩ seconds strays
    have said : Says text seconds := (kept seconds).mp (parse_iff.mpr (.inr strays))
    exact strays.silent seconds said
  · intro tidy
    refine ⟨fun seconds => ?_, fun silent => parse_refused silent tidy⟩
    rw [parse_iff, or_iff_left (tidy seconds)]

/-- An hour and a minute of one digit each are read as twelve hours. -/
theorem single_digits_about_colon :
    (∃ offset, parse "+1:2" = .ok offset ∧ offset.seconds = 43200) ∧
    (∀ seconds, ¬ Says "+1:2" seconds) ∧ ¬ ReadAsWritten "+1:2" := by
  have strewn : Strewn 12 0 ['1', ':', '2'] := ⟨.hours (by decide), by decide, by decide⟩
  have strays : Strays "+1:2" 43200 :=
    ⟨[], by decide, '+', ['1', ':', '2'], 12, 0, by decide, strewn, .east⟩
  have read := parse_iff.mpr (.inr strays)
  exact ⟨read, strays.silent, fun kept => strays.silent 43200 ((kept.1 43200).mp read)⟩

end TenantSql.OffsetNotation
