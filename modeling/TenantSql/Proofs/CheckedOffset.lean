import TenantSql.Proofs.DecimalDigits

/-! Reading an offset with every step that could go wrong made to fail on its own: a text
is cut at a byte, digits become a number of 32 bits, a distance has to be less than a
day. None of these steps ever fails, whatever the text, and the reading is the same. -/
namespace TenantSql.CheckedOffset
open Offset Decimal

variable {text front back digits : List Char} {bytes : Nat}

/-- What could end the reading of an offset, other than that the text names none. -/
inductive Fault where
  /-- A cut that falls into a character or behind the end. -/
  | cut (bytes : Nat) (text : List Char)
  /-- Digits that are no number of 32 bits. -/
  | number (digits : List Char)
  /-- A distance of a day or more. -/
  | distance (seconds : Int)

/-- The number of bytes a text takes up. -/
def byteSize (text : List Char) : Nat := (text.map Char.utf8Size).sum

/-- What stands before so many bytes and what stands behind them. -/
def cutAt? : Nat → List Char → Option (List Char × List Char)
  | 0, text => some ([], text)
  | _ + 1, [] => none
  | bytes + 1, c :: rest =>
    if c.utf8Size ≤ bytes + 1 then
      (cutAt? (bytes + 1 - c.utf8Size) rest).map fun (front, back) => (c :: front, back)
    else none

/-- The number of 32 bits that a text spells, with a sign or without. -/
def int32? (text : List Char) : Option Int :=
  let (negative, digits) := splitSign text
  let number : Int := if negative then -ofDigits digits else ofDigits digits
  if digits ≠ [] ∧ digits.all Char.isDigit ∧ -2 ^ 31 ≤ number ∧ number < 2 ^ 31 then some number else none

/-- A step that has to give something. -/
def orFault {α : Type} (fault : Fault) : Option α → Except Fault α
  | some value => .ok value
  | none => .error fault

/-- Cuts a text behind so many bytes. -/
def cut (bytes : Nat) (text : List Char) : Except Fault (List Char × List Char) :=
  orFault (.cut bytes text) (cutAt? bytes text)

/-- Reads digits as a number of 32 bits. -/
def number (digits : List Char) : Except Fault Int := orFault (.number digits) (int32? digits)

/-- Hours and minutes from the digits of a distance, by their number of bytes. -/
def hoursAndMinutes (digits : List Char) : Except Fault (Option (Int × Int)) :=
  if digits.all Char.isDigit then
    match byteSize digits with
    | 1 | 2 => do return some (← number digits, 0)
    | 4 => do
      let (hours, minutes) ← cut 2 digits
      return some (← number hours, ← number minutes)
    | _ => return none
  else return none

/-- The distance of hours and minutes to one side, if they are few enough. -/
def signed (negative : Bool) (hours minutes : Int) : Except Fault (Option Offset) :=
  if hours ≤ 18 ∧ minutes < 60 then
    let seconds := hours * 3600 + minutes * 60
    let seconds := if negative then -seconds else seconds
    return some (← orFault (.distance seconds) (ofSeconds? seconds))
  else return none

/-- The distance behind a sign. -/
def distance (negative : Bool) (text : List Char) : Except Fault (Option Offset) := do
  match ← hoursAndMinutes (text.filter (· ≠ ':')) with
  | some (hours, minutes) => signed negative hours minutes
  | none => return none

/-- The offset a trimmed text in upper case names. The sign is told by the first
character and cut off as one byte. -/
def ofUpper (text : List Char) : Except Fault (Option Offset) := do
  if text = ['U', 'T', 'C'] ∨ text = ['G', 'M', 'T'] ∨ text = ['Z'] then return some utc
  else
    let rest := withoutZoneName text
    match rest.head? with
    | some '+' => distance false (← cut 1 rest).2
    | some '-' => distance true (← cut 1 rest).2
    | _ => return none

/-- The offset a text names, if it names one. -/
def read (text : String) : Except Fault (Option Offset) := ofUpper (Text.upper (Text.trim text.toList))

/-! ### Cuts -/

@[simp] theorem byteSize_nil : byteSize [] = 0 := rfl

@[simp] theorem byteSize_cons (c : Char) (text : List Char) :
    byteSize (c :: text) = c.utf8Size + byteSize text := List.sum_cons

/-- A cut is made exactly where a character ends. -/
theorem cutAt_iff : cutAt? bytes text = some (front, back) ↔ text = front ++ back ∧ byteSize front = bytes := by
  fun_induction cutAt? bytes text generalizing front back with
  | case1 text =>
    cases front with
    | nil => simp
    | cons c front =>
      have filled := c.utf8Size_pos
      simp
      omega
  | case2 bytes => cases front <;> simp
  | case3 bytes c rest fits ih =>
    cases front with
    | nil => simp
    | cons d front =>
      simp only [Option.map_eq_some_iff, Prod.exists, Prod.mk.injEq, List.cons.injEq, ih, List.cons_append,
        byteSize_cons]
      constructor
      · rintro ⟨_, _, ⟨split, size⟩, ⟨rfl, rfl⟩, rfl⟩
        exact ⟨⟨rfl, split⟩, by omega⟩
      · rintro ⟨⟨rfl, split⟩, size⟩
        exact ⟨front, back, ⟨split, by omega⟩, ⟨rfl, rfl⟩, rfl⟩
  | case4 bytes c rest wide =>
    cases front with
    | nil => simp
    | cons d front =>
      simp only [reduceCtorEq, List.cons_append, List.cons.injEq, byteSize_cons, false_iff]
      rintro ⟨⟨rfl, -⟩, size⟩
      omega

theorem cut_append (front back : List Char) : cut (byteSize front) (front ++ back) = .ok (front, back) := by
  rw [cut, cutAt_iff.mpr ⟨rfl, rfl⟩, orFault]

/-- A digit is one byte. -/
theorem byteSize_digital (digital : Digital digits) : byteSize digits = digits.length := by
  induction digits with
  | nil => rfl
  | cons c digits ih =>
    obtain ⟨digit, rest⟩ := List.forall_mem_cons.mp digital
    have single : c.utf8Size = 1 := by
      have range := isDigit_range digit
      rw [Char.utf8Size_eq_one_iff, UInt32.le_iff_toNat_le]
      show c.toNat ≤ 127
      have zero : '0'.toNat = 48 := rfl
      omega
    rw [byteSize_cons, single, ih rest, List.length_cons, Nat.add_comm]

/-! ### Numbers -/

/-- A few digits are always a number of 32 bits. -/
theorem number_digital (digital : Digital digits) (some : digits ≠ []) (few : digits.length ≤ 9) :
    number digits = .ok (ofDigits digits : Int) := by
  have small : ofDigits digits < 10 ^ 9 :=
    Nat.lt_of_lt_of_le (ofDigits_lt digital) (Nat.pow_le_pow_right (by omega) few)
  have all : digits.all Char.isDigit = true := List.all_eq_true.mpr digital
  have read : int32? digits = Option.some (ofDigits digits : Int) := by
    rw [int32?, splitSign_digital digital]
    exact if_pos ⟨some, all, by omega, by omega⟩
  rw [number, read, orFault]

/-- Hours and minutes are read off any digits without a fault. -/
theorem hoursAndMinutes_eq (digits : List Char) : hoursAndMinutes digits =
    .ok ((hoursAndMinutes? digits).map fun (hours, minutes) => ((hours : Int), (minutes : Int))) := by
  unfold hoursAndMinutes hoursAndMinutes?
  split
  next all =>
    have digital : Digital digits := List.all_eq_true.mp all
    rw [byteSize_digital digital]
    match digits, digital with
    | [], _ => rfl
    | [c], digital =>
      have hours := number_digital digital (List.cons_ne_nil _ _) (by simp)
      simp only [List.length_singleton, hours]
      rfl
    | [c, d], digital =>
      have hours := number_digital digital (List.cons_ne_nil _ _) (by simp)
      simp only [List.length_cons, List.length_nil, hours]
      rfl
    | [c, d, e], _ => rfl
    | [c, d, e, f], digital =>
      obtain ⟨front, back⟩ : Digital [c, d] ∧ Digital [e, f] := List.forall_mem_append.mp digital
      have hours := number_digital front (List.cons_ne_nil _ _) (by simp)
      have minutes := number_digital back (List.cons_ne_nil _ _) (by simp)
      have halves : cut 2 [c, d, e, f] = .ok ([c, d], [e, f]) := by
        have size : byteSize [c, d] = 2 := byteSize_digital front
        exact size ▸ cut_append [c, d] [e, f]
      simp only [List.length_cons, List.length_nil, halves]
      show (do return some (← number [c, d], ← number [e, f])) = _
      rw [hours, minutes]
      rfl
    | c :: d :: e :: f :: g :: rest, _ => rfl
  next => rfl

/-- A distance of so few hours and minutes is always less than a day. -/
theorem signed_eq (negative : Bool) (hours minutes : Nat) : signed negative hours minutes =
    .ok (if hours ≤ 18 ∧ minutes < 60 then
      let seconds : Int := hours * 3600 + minutes * 60
      ofSeconds? (if negative then -seconds else seconds) else none) := by
  unfold signed
  by_cases range : hours ≤ 18 ∧ minutes < 60
  · have range' : (hours : Int) ≤ 18 ∧ (minutes : Int) < 60 := by omega
    rw [if_pos range, if_pos range']
    generalize told : (if negative then -((hours : Int) * 3600 + minutes * 60) else hours * 3600 + minutes * 60)
      = seconds
    have day : -86400 < seconds ∧ seconds < 86400 := by
      rw [← told]
      split <;> omega
    have given : ofSeconds? seconds = some ⟨seconds, day⟩ := dif_pos day
    simp only [told, given]
    rfl
  · have range' : ¬ ((hours : Int) ≤ 18 ∧ (minutes : Int) < 60) := by omega
    rw [if_neg range, if_neg range']
    rfl

theorem distance_eq (negative : Bool) (text : List Char) : distance negative text = .ok (distance? negative text) := by
  rw [distance, hoursAndMinutes_eq, distance?]
  cases hoursAndMinutes? (text.filter (· ≠ ':')) with
  | none => rfl
  | some times => exact signed_eq negative times.1 times.2

/-- The character that tells the sign is one byte. -/
theorem ofUpper_eq (text : List Char) : ofUpper text = .ok (ofUpper? text) := by
  unfold ofUpper ofUpper?
  split
  · rfl
  · cases withoutZoneName text with
    | nil => rfl
    | cons c rest =>
      have first : c.utf8Size = 1 → cut 1 (c :: rest) = .ok ([c], rest) := by
        intro single
        have size : byteSize [c] = 1 := single
        exact size ▸ cut_append [c] rest
      by_cases plus : c = '+'
      · subst plus
        show (do distance false (← cut 1 ('+' :: rest)).2) = .ok (distance? false rest)
        rw [first rfl, ← distance_eq]
        rfl
      · by_cases minus : c = '-'
        · subst minus
          show (do distance true (← cut 1 ('-' :: rest)).2) = .ok (distance? true rest)
          rw [first rfl, ← distance_eq]
          rfl
        · simp [plus, minus]
          rfl

/-- No step of the reading fails, and what is read is what `parse` gives. -/
theorem read_eq (text : String) : read text = .ok (parse text).toOption := by
  rw [read, ofUpper_eq, parse]
  cases ofUpper? (Text.upper (Text.trim text.toList)) <;> rfl

end TenantSql.CheckedOffset
