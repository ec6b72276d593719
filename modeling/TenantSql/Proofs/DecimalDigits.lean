import Mathlib.Algebra.Order.Ring.Nat
import TenantSql.Calendar.Timezone

/-! Numbers in decimal digits. A number is what its digits spell, whatever zeros stand
before it. Texts of equally many digits are in the order of their numbers, and what is
put behind them matters only where the numbers are the same. -/
namespace TenantSql.Decimal
open Offset (ofDigits)

variable {digits other after after' : List Char} {width n m : Nat} {c : Char}

/-- Nothing but decimal digits. -/
def Digital (text : List Char) : Prop := ∀ c ∈ text, c.isDigit = true

-- The characters of the text are checked, never all characters there are.
instance (text : List Char) : Decidable (Digital text) :=
  List.decidableBAll (fun c : Char => c.isDigit = true) text

/-- The number in at least so many digits, with zeros in front. -/
def padded (width n : Nat) : List Char := (Nat.toDigits 10 n).leftpad width '0'

/-- Whether a number is negative, and its text without the sign it may have. -/
def splitSign : List Char → Bool × List Char
  | '-' :: rest => (true, rest)
  | '+' :: rest => (false, rest)
  | rest => (false, rest)

theorem isDigit_range (digit : c.isDigit = true) : '0'.toNat ≤ c.toNat ∧ c.toNat < '0'.toNat + 10 := by
  simp only [Char.isDigit, Bool.and_eq_true, decide_eq_true_eq, UInt32.le_iff_toNat_le] at digit
  obtain ⟨low, high⟩ : 48 ≤ c.toNat ∧ c.toNat ≤ 57 := digit
  exact ⟨low, Nat.lt_succ_of_le high⟩

theorem exists_digit (digit : c.isDigit = true) : ∃ d < 10, c = d.digitChar := by
  have range : 48 ≤ c.toNat ∧ c.toNat < 58 := isDigit_range digit
  refine ⟨c.toNat - 48, by omega, Char.toNat_inj.mp ?_⟩
  rw [Nat.toNat_digitChar_of_lt_ten (by omega)]
  omega

theorem digit_isDigit {d : Nat} (small : d < 10) : d.digitChar.isDigit = true := by
  rw [Nat.isDigit_digitChar, decide_eq_true small]

/-- What begins with a digit has no sign. -/
theorem splitSign_digit (digit : c.isDigit = true) (rest : List Char) : splitSign (c :: rest) = (false, c :: rest) := by
  unfold splitSign
  split
  next same =>
    cases same
    cases digit
  next same =>
    cases same
    cases digit
  next => rfl

theorem splitSign_digital (digital : Digital digits) : splitSign digits = (false, digits) := by
  cases digits with
  | nil => rfl
  | cons c rest => exact splitSign_digit (digital c List.mem_cons_self) rest

theorem ofDigits_cons (c : Char) (digits : List Char) :
    ofDigits (c :: digits) = 10 ^ digits.length * (c.toNat - '0'.toNat) + ofDigits digits := by
  have begun : 10 * 0 + (c.toNat - '0'.toNat) = c.toNat - '0'.toNat := by omega
  show Nat.ofDigitChars 10 digits (10 * 0 + (c.toNat - '0'.toNat)) = _
  rw [begun]
  exact Nat.ofDigitChars_eq_ofDigitChars_zero

theorem ofDigits_lt (digital : Digital digits) : ofDigits digits < 10 ^ digits.length := by
  induction digits with
  | nil => exact Nat.zero_lt_one
  | cons c digits ih =>
    obtain ⟨digit, rest⟩ := List.forall_mem_cons.mp digital
    have range := isDigit_range digit
    have small := ih rest
    have weight : 10 ^ digits.length * (c.toNat - '0'.toNat) ≤ 10 ^ digits.length * 9 :=
      Nat.mul_le_mul_left _ (by omega)
    rw [ofDigits_cons, List.length_cons, Nat.pow_succ]
    omega

/-- Digits behind the digits of a number go on with it, unless it is zero. -/
theorem toDigits_append (positive : 0 < n) (digital : Digital digits) :
    Nat.toDigits 10 n ++ digits = Nat.toDigits 10 (Nat.ofDigitChars 10 digits n) := by
  induction digits generalizing n with
  | nil => rw [Nat.ofDigitChars_nil, List.append_nil]
  | cons c digits ih =>
    obtain ⟨digit, rest⟩ := List.forall_mem_cons.mp digital
    obtain ⟨d, small, rfl⟩ := exists_digit digit
    have longer : Nat.toDigits 10 n ++ [d.digitChar] = Nat.toDigits 10 (10 * n + d) := by
      rw [← Nat.toDigits_of_lt_base small]
      exact Nat.toDigits_append_toDigits (by omega) positive small
    have further := ih (n := 10 * n + d) (by omega) rest
    rw [Nat.ofDigitChars_cons_digitChar_of_lt_ten small, ← further, ← longer, List.append_assoc,
      List.singleton_append]

/-- Digits without a zero in front are those of their number. -/
theorem toDigits_ofDigits (digital : Digital (c :: digits)) (leading : c ≠ '0') :
    Nat.toDigits 10 (ofDigits (c :: digits)) = c :: digits := by
  obtain ⟨digit, rest⟩ := List.forall_mem_cons.mp digital
  obtain ⟨d, small, rfl⟩ := exists_digit digit
  have positive : 0 < d := by
    refine Nat.pos_of_ne_zero ?_
    rintro rfl
    exact leading rfl
  have begun : ofDigits (d.digitChar :: digits) = Nat.ofDigitChars 10 digits d := by
    show Nat.ofDigitChars 10 (d.digitChar :: digits) 0 = _
    rw [Nat.ofDigitChars_cons_digitChar_of_lt_ten small, Nat.mul_zero, Nat.zero_add]
  rw [begun, ← toDigits_append positive rest, Nat.toDigits_of_lt_base small, List.singleton_append]

/-- What is weighed by the base counts before what is less than the base. -/
theorem weighed_lt_iff {base high high' low low' : Nat} (small : low < base) (small' : low' < base) :
    base * high + low < base * high' + low' ↔ high < high' ∨ high = high' ∧ low < low' := by
  obtain less | rfl | more := Nat.lt_trichotomy high high'
  · have step : base * (high + 1) ≤ base * high' := Nat.mul_le_mul_left base less
    rw [Nat.mul_add] at step
    omega
  · omega
  · have step : base * (high' + 1) ≤ base * high := Nat.mul_le_mul_left base more
    rw [Nat.mul_add] at step
    omega

/-- Texts of equally many digits are in the order of their numbers. -/
theorem digits_lt_iff (digital : Digital digits) (digital' : Digital other)
    (same : digits.length = other.length) : digits < other ↔ ofDigits digits < ofDigits other := by
  induction digits generalizing other with
  | nil =>
    obtain rfl := List.length_eq_zero_iff.mp same.symm
    simp [ofDigits]
  | cons c digits ih =>
    cases other with
    | nil => cases same
    | cons d other =>
      obtain ⟨first, rest⟩ := List.forall_mem_cons.mp digital
      obtain ⟨second, rest'⟩ := List.forall_mem_cons.mp digital'
      have same := Nat.succ.inj same
      have small := ofDigits_lt rest
      have small' := ofDigits_lt rest'
      rw [← same] at small'
      have ordered : c < d ↔ c.toNat < d.toNat := Iff.rfl
      have value := isDigit_range first
      have value' := isDigit_range second
      rw [List.cons_lt_cons_iff, ih rest rest' same, ofDigits_cons, ofDigits_cons, ← same,
        weighed_lt_iff small small', ordered, ← Char.toNat_inj]
      omega

/-- Behind texts of one length a difference only counts where they are the same. -/
theorem append_lt_append_iff {left right : List Char} (same : left.length = right.length) :
    left ++ after < right ++ after' ↔ left < right ∨ left = right ∧ after < after' := by
  induction left generalizing right with
  | nil =>
    obtain rfl := List.length_eq_zero_iff.mp same.symm
    simp
  | cons c left ih =>
    cases right with
    | nil => cases same
    | cons d right =>
      rw [List.cons_append, List.cons_append, List.cons_lt_cons_iff, List.cons_lt_cons_iff,
        ih (Nat.succ.inj same), List.cons.injEq]
      grind

theorem padded_ne_nil (width n : Nat) : padded width n ≠ [] :=
  List.append_ne_nil_of_right_ne_nil _ Nat.toDigits_ne_nil

theorem padded_digital (width n : Nat) : Digital (padded width n) := by
  intro c within
  obtain zero | digit := List.mem_append.mp within
  · rw [List.eq_of_mem_replicate zero]
    rfl
  · exact Nat.isDigit_of_mem_toDigits (by omega) (by omega) digit

theorem splitSign_padded (width n : Nat) (rest : List Char) :
    splitSign (padded width n ++ rest) = (false, padded width n ++ rest) := by
  have digital := padded_digital width n
  cases shape : padded width n with
  | nil => exact absurd shape (padded_ne_nil width n)
  | cons c digits =>
    rw [shape] at digital
    exact splitSign_digit (digital c List.mem_cons_self) (digits ++ rest)

theorem ofDigits_padded (width n : Nat) : ofDigits (padded width n) = n := by
  show Nat.ofDigitChars 10 (padded width n) 0 = n
  rw [padded, List.leftpad, Nat.ofDigitChars_append, Nat.ofDigitChars_replicate_zero, Nat.mul_zero,
    Nat.ofDigitChars_ten_toDigits]

theorem length_padded (some : 0 < width) (fits : n < 10 ^ width) : (padded width n).length = width := by
  have short : (Nat.toDigits 10 n).length ≤ width := (Nat.length_toDigits_le_iff (by omega) some).mpr fits
  rw [padded, List.length_leftpad]
  omega

theorem padded_lt_iff (some : 0 < width) (fits : n < 10 ^ width) (fits' : m < 10 ^ width) :
    padded width n < padded width m ↔ n < m := by
  have same := (length_padded some fits).trans (length_padded some fits').symm
  rw [digits_lt_iff (padded_digital width n) (padded_digital width m) same, ofDigits_padded, ofDigits_padded]

theorem padded_inj : padded width n = padded width m ↔ n = m := by
  refine ⟨fun same => ?_, fun same => same ▸ rfl⟩
  rw [← ofDigits_padded width n, same, ofDigits_padded]

/-- What stands behind a number matters only where the numbers are the same. -/
theorem padded_append_lt_iff (some : 0 < width) (fits : n < 10 ^ width) (fits' : m < 10 ^ width) :
    padded width n ++ after < padded width m ++ after' ↔ n < m ∨ n = m ∧ after < after' := by
  have same := (length_padded some fits).trans (length_padded some fits').symm
  rw [append_lt_append_iff same, padded_lt_iff some fits fits', padded_inj]

end TenantSql.Decimal
