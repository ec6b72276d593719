import Mathlib.Data.List.Basic
import TenantSql.Assoc
import TenantSql.Text.Blank
import TenantSql.Text.Case

/-! Letter case of texts beyond ASCII. The mappings of all characters spell some letters
with ASCII alone: the upper case of a sharp s is `SS`, that of a ligature its parts, and
the lower case of the Kelvin sign is a k. But each such spelling in upper case has an F,
an I or an S, and the one in lower case is the k. So a text that comes out without these
letters and within ASCII was within ASCII before, and there case is taken character by
character. -/
namespace TenantSql.Text

variable {letters text target : List Char}

/-- A letter of ASCII that characters beyond ASCII have in their other case, or a
character beyond ASCII itself. -/
def Borrowed (letters : List Char) (c : Char) : Prop := 128 ≤ c.toNat ∨ c ∈ letters

instance (letters : List Char) (c : Char) : Decidable (Borrowed letters c) :=
  inferInstanceAs (Decidable (_ ∨ _))

/-- The letters of ASCII that upper case borrows. -/
def capitalsBorrowed : List Char := ['F', 'I', 'S']

/-- The letter of ASCII that lower case borrows. -/
def smallsBorrowed : List Char := ['k']

/-- Where a run begins and ends: its images lie beyond ASCII, or the run is one
character that maps to one of the letters. -/
def CaseRun.Borrows (letters : List Char) (run : CaseRun) : Prop :=
  (run.first = run.last ∧ Borrowed letters (Char.ofNat (run.first + run.shift : Int).toNat)) ∨
    (128 ≤ (run.first + run.shift : Int) ∧
      ((run.last + run.shift : Int) < 0xd800 ∨
        (0xdfff < (run.first + run.shift : Int) ∧ (run.last + run.shift : Int) < 0x110000)))

instance (letters : List Char) (run : CaseRun) : Decidable (run.Borrows letters) :=
  inferInstanceAs (Decidable (_ ∨ _))

theorem CaseRun.Borrows.image {run : CaseRun} (borrows : run.Borrows letters) {n : Nat}
    (covered : run.covers n = true) : Borrowed letters (Char.ofNat (n + run.shift : Int).toNat) := by
  simp only [CaseRun.covers, Bool.and_eq_true, decide_eq_true_eq] at covered
  obtain ⟨⟨fromFirst, toLast⟩, -⟩ := covered
  obtain ⟨single, borrowed⟩ | ⟨above, below⟩ := borrows
  · have first : n = run.first := by omega
    exact first ▸ borrowed
  · have valid : (n + run.shift : Int).toNat.isValidChar := by
      unfold Nat.isValidChar
      omega
    have held : (Char.ofNat (n + run.shift : Int).toNat).toNat = (n + run.shift : Int).toNat := by
      rw [Char.ofNat, dif_pos valid]
      rfl
    refine .inl ?_
    omega

theorem upperRuns_borrow : ∀ run ∈ upperRuns, run.Borrows capitalsBorrowed := by decide +kernel

theorem lowerRuns_borrow : ∀ run ∈ lowerRuns, run.Borrows smallsBorrowed := by decide +kernel

theorem upperSpellings_borrow :
    ∀ entry ∈ upperSpellings, ∃ n ∈ entry.2, Borrowed capitalsBorrowed (Char.ofNat n) := by
  decide +kernel

theorem lowerSpellings_borrow :
    ∀ entry ∈ lowerSpellings, ∃ n ∈ entry.2, Borrowed smallsBorrowed (Char.ofNat n) := by
  decide +kernel

/-- What a pair of tables gives for a character beyond ASCII has a borrowed character. -/
theorem mapped_borrowed {spellings : List (Nat × List Nat)} {runs : List CaseRun}
    (spelled : ∀ entry ∈ spellings, ∃ n ∈ entry.2, Borrowed letters (Char.ofNat n))
    (moved : ∀ run ∈ runs, run.Borrows letters) {c : Char} (foreign : 128 ≤ c.toNat) :
    ∃ d ∈ mapped spellings runs c, Borrowed letters d := by
  unfold mapped
  split
  next spelling found =>
    obtain ⟨n, within, borrowed⟩ := spelled _ (Assoc.mem_of_lookup found)
    exact ⟨Char.ofNat n, List.mem_map_of_mem within, borrowed⟩
  next missing =>
    refine ⟨_, List.mem_singleton_self _, ?_⟩
    unfold shifted
    cases found : runs.find? (·.covers c.toNat) with
    | none => exact .inl foreign
    | some run =>
      have covered := List.find?_some found
      exact (moved run (List.mem_of_find?_eq_some found)).image covered

/-- A mapping of single characters that leaves those beyond ASCII alone shows them. -/
theorem plain_of_map {other : Char → Char} (kept : ∀ c, 128 ≤ c.toNat → other c = c)
    (unborrowed : ∀ d ∈ text.map other, ¬ Borrowed letters d) : ∀ c ∈ text, c.toNat < 128 := by
  intro c within
  by_contra above
  have foreign : 128 ≤ c.toNat := Nat.le_of_not_lt above
  have shown : c ∈ text.map other := kept c foreign ▸ List.mem_map_of_mem within
  exact unborrowed c shown (.inl foreign)

/-! ### Single characters -/

/-- Only small letters of ASCII have another upper case of one character. -/
theorem toUpper_eq_self {c : Char} (other : ¬ (97 ≤ c.toNat ∧ c.toNat ≤ 122)) : c.toUpper = c := by
  unfold Char.toUpper
  rw [dif_neg]
  rw [UInt32.le_iff_toNat_le, UInt32.le_iff_toNat_le]
  exact other

/-- Only capitals of ASCII have another lower case of one character. -/
theorem toLower_eq_self {c : Char} (other : ¬ (65 ≤ c.toNat ∧ c.toNat ≤ 90)) : c.toLower = c := by
  unfold Char.toLower
  rw [dif_neg]
  rw [ge_iff_le, UInt32.le_iff_toNat_le, UInt32.le_iff_toNat_le]
  exact other

/-! ### Upper case -/

theorem upperChar_borrowed {c : Char} (foreign : 128 ≤ c.toNat) :
    ∃ d ∈ upperChar c, Borrowed capitalsBorrowed d := by
  rw [upperChar, if_neg (by omega)]
  exact mapped_borrowed upperSpellings_borrow upperRuns_borrow foreign

theorem toUpper_foreign (c : Char) (foreign : 128 ≤ c.toNat) : c.toUpper = c := by
  apply toUpper_eq_self
  omega

/-- Within ASCII upper case is taken character by character. -/
theorem upper_plain (plain : ∀ c ∈ text, c.toNat < 128) : upper text = text.map Char.toUpper := by
  induction text with
  | nil => rfl
  | cons c rest ih =>
    have head : upperChar c = [c.toUpper] := if_pos (plain c List.mem_cons_self)
    have tail : upper rest = rest.map Char.toUpper := ih fun d within => plain d (List.mem_cons_of_mem c within)
    rw [upper, List.flatMap_cons, head, ← upper, tail, List.map_cons, List.singleton_append]

/-- A text whose upper case has no borrowed character is within ASCII. -/
theorem plain_of_upper (unborrowed : ∀ d ∈ upper text, ¬ Borrowed capitalsBorrowed d) :
    ∀ c ∈ text, c.toNat < 128 := by
  intro c within
  by_contra above
  obtain ⟨d, spelled, borrowed⟩ := upperChar_borrowed (Nat.le_of_not_lt above)
  exact unborrowed d (List.mem_flatMap.mpr ⟨c, within, spelled⟩) borrowed

/-! ### Lower case -/

theorem lowerChar_borrowed {c : Char} (foreign : 128 ≤ c.toNat) :
    ∃ d ∈ lowerChar c, Borrowed smallsBorrowed d := by
  rw [lowerChar, if_neg (by omega)]
  exact mapped_borrowed lowerSpellings_borrow lowerRuns_borrow foreign

theorem toLower_foreign (c : Char) (foreign : 128 ≤ c.toNat) : c.toLower = c := by
  apply toLower_eq_self
  omega

/-- Within ASCII lower case is taken character by character, whatever stands before. -/
theorem lowerAfter_plain (before : List Char) (plain : ∀ c ∈ text, c.toNat < 128) :
    lowerAfter before text = text.map Char.toLower := by
  induction text generalizing before with
  | nil => rfl
  | cons c rest ih =>
    have small : c.toNat < 128 := plain c List.mem_cons_self
    have sigma : c ≠ 'Σ' := by
      rintro rfl
      exact absurd small (by decide)
    have head : lowerChar c = [c.toLower] := if_pos small
    have tail := ih (c :: before) fun d within => plain d (List.mem_cons_of_mem c within)
    rw [lowerAfter, if_neg sigma, head, tail, List.map_cons, List.singleton_append]

/-- A text whose lower case has no borrowed character is within ASCII. A sigma stays
beyond ASCII in either of its forms. -/
theorem plain_of_lowerAfter (before : List Char)
    (unborrowed : ∀ d ∈ lowerAfter before text, ¬ Borrowed smallsBorrowed d) :
    ∀ c ∈ text, c.toNat < 128 := by
  induction text generalizing before with
  | nil => exact List.forall_mem_nil _
  | cons c rest ih =>
    rw [lowerAfter] at unborrowed
    obtain ⟨head, tail⟩ := List.forall_mem_append.mp unborrowed
    refine List.forall_mem_cons.mpr ⟨?_, ih (c :: before) tail⟩
    by_contra above
    split at head
    · split at head
      · exact head 'ς' (List.mem_singleton_self _) (by decide)
      · exact head 'σ' (List.mem_singleton_self _) (by decide)
    · obtain ⟨d, spelled, borrowed⟩ := lowerChar_borrowed (Nat.le_of_not_lt above)
      exact head d spelled borrowed

/-- A lower case without borrowed characters is that of a text of ASCII, where it is
taken character by character. -/
theorem lower_eq_iff (unborrowed : ∀ d ∈ target, ¬ Borrowed smallsBorrowed d) :
    lower text = target ↔ text.map Char.toLower = target := by
  constructor
  · rintro rfl
    exact (lowerAfter_plain [] (plain_of_lowerAfter [] unborrowed)).symm
  · rintro rfl
    exact lowerAfter_plain [] (plain_of_map toLower_foreign unborrowed)

/-- A blank is no letter of ASCII and has no other case. -/
theorem caseless_blank {c : Char} (blank : isBlank c = true) : c.toLower = c ∧ c.toUpper = c := by
  have apart : ¬ (65 ≤ c.toNat ∧ c.toNat ≤ 90) ∧ ¬ (97 ≤ c.toNat ∧ c.toNat ≤ 122) := by
    simp [isBlank] at blank
    omega
  exact ⟨toLower_eq_self apart.1, toUpper_eq_self apart.2⟩

end TenantSql.Text
