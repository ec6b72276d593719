import TenantSql.Proofs.DecimalDigits
import TenantSql.Proofs.FirstCause
import TenantSql.Proofs.PrefixCode

/-! The page of rows that a limit asks for. One family writes the rows that are left out
first and the other the rows that are shown first; both numbers end at a mark that is no
digit, and digits without a needless zero belong to one number alone. So a page comes
back out of what is written for it in either family, up to the largest numbers there
are, and nothing else is read as a page. -/
namespace TenantSql.PagedRows
open Writer SingleQuery FirstCause PrefixCode Decimal
open Offset (ofDigits)

variable {σ τ : Type} {mark c : Char} {text behind : List Char} {word : UInt64} {numbers : UInt64 × UInt64} {family : Family}
  {page other : Page} {writer : Writer σ} {state : σ} {backend : Backend}

/-- At most `count` rows after the first `offset`, in words of 64 bits. -/
structure Page where
  count : UInt64
  offset : UInt64
  deriving Repr, DecidableEq

/-- Decimal digits as a number is written: none of them is a zero in front of others. -/
def Canonical (text : List Char) : Prop :=
  text = ['0'] ∨ text ≠ [] ∧ Digital text ∧ text.head? ≠ some '0'

instance (text : List Char) : Decidable (Canonical text) := inferInstanceAs (Decidable (_ ∨ _))

/-- The word that digits write, if it has 64 bits. -/
def word? (text : List Char) : Option UInt64 :=
  if Canonical text ∧ ofDigits text < 2 ^ 64 then some (UInt64.ofNat (ofDigits text)) else none

/-- Two words: one up to the mark, the other behind the mark and a fixed text. -/
def words? (mark : Char) (behind text : List Char) : Option (UInt64 × UInt64) := do
  let (first, rest) ← cutAt? mark text
  let second ← rest.dropPrefix? behind
  return (← word? first, ← word? second)

/-- The mark and the text between the two numbers of a limit. -/
def separator : Family → Char × List Char
  | .mysql => (',', [])
  | .postgres => (' ', "OFFSET ".toList)

/-- The numbers of a page in the order of the family. -/
def Page.inOrder (page : Page) : Family → UInt64 × UInt64
  | .mysql => (page.offset, page.count)
  | .postgres => (page.count, page.offset)

/-- The page whose numbers these are in the order of the family. -/
def Page.ofOrder : Family → UInt64 × UInt64 → Page
  | .mysql, (offset, count) => ⟨count, offset⟩
  | .postgres, (count, offset) => ⟨count, offset⟩

/-- The page that a limit of the family asks for: `LIMIT offset,count` in one family,
and `LIMIT count OFFSET offset` in the other. -/
def Page.read? (family : Family) (text : String) : Option Page := do
  let numbers ← text.toList.dropPrefix? "LIMIT ".toList
  return Page.ofOrder family (← words? (separator family).1 (separator family).2 numbers)

/-- The request for a page. -/
def Page.request (page : Page) : Request := .limitOffset page.count.toNat page.offset.toNat

/-- The resolver answers with a backend of the family. -/
def Answers (writer : Writer σ) (state : σ) (family : Family) : Prop :=
  ∃ backend, (writer.resolve state).1.result = .ok backend ∧ backend.family = some family

/-! ### Numbers -/

theorem canonical_toDigits (n : Nat) : Canonical (Nat.toDigits 10 n) := by
  rcases Nat.eq_zero_or_pos n with rfl | positive
  · exact .inl rfl
  · refine .inr ⟨Nat.toDigits_ne_nil, fun c within => Nat.isDigit_of_mem_toDigits (by omega) (by omega) within, ?_⟩
    intro leading
    obtain ⟨rest, shape⟩ := List.head?_eq_some_iff.mp leading
    -- A number with a zero in front of its digits has one digit too many.
    have value : ofDigits ('0' :: rest) = n := shape ▸ Nat.ofDigitChars_ten_toDigits
    have digital : Digital rest := fun c within =>
      Nat.isDigit_of_mem_toDigits (n := n) (by omega) (by omega) (shape ▸ List.mem_cons_of_mem _ within)
    have small := ofDigits_lt digital
    rw [ofDigits_cons, Nat.sub_self, Nat.mul_zero, Nat.zero_add] at value
    rcases Nat.eq_zero_or_pos rest.length with none | some
    · rw [none] at small
      omega
    · have short := (Nat.length_toDigits_le_iff (by omega) some).mpr (value ▸ small)
      rw [shape, List.length_cons] at short
      omega

theorem toDigits_of_canonical (canonical : Canonical text) : Nat.toDigits 10 (ofDigits text) = text := by
  rcases canonical with rfl | ⟨filled, digital, leading⟩
  · rfl
  · cases text with
    | nil => exact absurd rfl filled
    | cons c digits => exact toDigits_ofDigits digital fun same => leading (same ▸ rfl)

/-- A word is read exactly off its own digits. -/
theorem word_iff : word? text = some word ↔ text = Nat.toDigits 10 word.toNat := by
  unfold word?
  constructor
  · intro read
    split at read
    next fits =>
      obtain ⟨canonical, small⟩ := fits
      cases read
      rw [UInt64.toNat_ofNat_of_lt' small, toDigits_of_canonical canonical]
    next => cases read
  · rintro rfl
    have value : ofDigits (Nat.toDigits 10 word.toNat) = word.toNat := Nat.ofDigitChars_ten_toDigits
    rw [value, if_pos ⟨canonical_toDigits _, word.toNat_lt⟩, UInt64.ofNat_toNat]

/-- Two words are read exactly off their digits with the mark and the text between. -/
theorem words_iff (apart : mark.isDigit = false) :
    words? mark behind text = some numbers ↔
      text = Nat.toDigits 10 numbers.1.toNat ++ mark :: (behind ++ Nat.toDigits 10 numbers.2.toNat) := by
  obtain ⟨first, second⟩ := numbers
  have unmarked : mark ∉ Nat.toDigits 10 first.toNat := by
    intro within
    have digit := Nat.isDigit_of_mem_toDigits (by omega) (by omega) within
    exact absurd digit (by simp [apart])
  unfold words?
  simp only [bind, pure, Option.bind_eq_some_iff, Prod.exists, cutAt_iff, dropPrefix_iff, word_iff, Option.some.injEq,
    Prod.mk.injEq]
  constructor
  · rintro ⟨_, _, ⟨-, rfl⟩, _, rfl, _, rfl, _, rfl, rfl, rfl⟩
    rfl
  · rintro rfl
    exact ⟨_, _, ⟨unmarked, rfl⟩, _, rfl, _, rfl, _, rfl, rfl, rfl⟩

/-! ### Pages -/

theorem separator_apart (family : Family) : (separator family).1.isDigit = false := by
  cases family <;> rfl

theorem ofOrder_iff : Page.ofOrder family numbers = page ↔ numbers = page.inOrder family := by
  obtain ⟨count, offset⟩ := page
  obtain ⟨first, second⟩ := numbers
  cases family with
  | mysql => simp [Page.ofOrder, Page.inOrder, and_comm]
  | postgres => simp [Page.ofOrder, Page.inOrder]

/-- Both families write their numbers with the separator between them. -/
theorem limit_toList (family : Family) (page : Page) :
    (family.limit page.count.toNat page.offset.toNat).toList =
      "LIMIT ".toList ++ (Nat.toDigits 10 (page.inOrder family).1.toNat ++
        (separator family).1 :: ((separator family).2 ++ Nat.toDigits 10 (page.inOrder family).2.toNat)) := by
  cases family <;> simp [Family.limit, separator, Page.inOrder]

/-- A page is read exactly off the limit that is written for it. -/
theorem read_iff {text : String} :
    Page.read? family text = some page ↔ text = family.limit page.count.toNat page.offset.toNat := by
  unfold Page.read?
  rw [← String.toList_inj, limit_toList]
  simp only [bind, pure, Option.bind_eq_some_iff, dropPrefix_iff, Option.some.injEq, ofOrder_iff]
  constructor
  · rintro ⟨rest, split, _, read, rfl⟩
    rw [split, (words_iff (separator_apart family)).mp read]
  · intro split
    exact ⟨_, split, _, (words_iff (separator_apart family)).mpr rfl, rfl⟩

/-- In a family the limit is written as the family writes it. -/
theorem write_page (answers : Answers writer state family) (page : Page) :
    (writer.write page.request state).1.result = .ok (family.limit page.count.toNat page.offset.toNat) := by
  obtain ⟨backend, found, member⟩ := answers
  rw [Page.request, Writer.write, perFamily_of_some found member]
  rfl

/-- Whatever the resolver is and whatever it answers. In either family a limit is
written from which its page is read and no other, and no other page is written so;
without a family it is refused, and an error of the resolver is the outcome. A limit
without rows to be left out is the limit with none of them, in success and in error. -/
theorem dialects_page_alike (writer : Writer σ) (state : σ) (page : Page) :
    (∀ family, Answers writer state family → ∃ text, (writer.write page.request state).1.result = .ok text ∧
      (∀ other, Page.read? family text = some other ↔ other = page) ∧
      ∀ {τ : Type} (second : Writer τ) (later : τ) (other : Page), Answers second later family →
        (second.write other.request later).1.result = .ok text → other = page) ∧
    (∀ backend, (writer.resolve state).1.result = .ok backend → backend.family = none →
      (writer.write page.request state).1.result = .error (.unsupported .limit backend)) ∧
    (∀ error, (writer.resolve state).1.result = .error error →
      (writer.write page.request state).1.result = .error error) ∧
    ∀ count, writer.write (.limit count) state = writer.write (.limitOffset count 0) state := by
  refine ⟨fun family answers => ?_, fun backend found alone => ?_, fun error failed => ?_, fun count => rfl⟩
  · have told : ∀ other, Page.read? family (family.limit page.count.toNat page.offset.toNat) = some other ↔
        other = page := by
      intro other
      have own : Page.read? family (family.limit page.count.toNat page.offset.toNat) = some page :=
        read_iff.mpr rfl
      rw [own, Option.some.injEq, eq_comm]
    refine ⟨_, write_page answers page, told, fun second later other answers' written => ?_⟩
    have same := Except.ok.inj ((write_page answers' other).symm.trans written)
    exact (told other).mp (read_iff.mpr same.symm)
  · rw [Page.request, Writer.write, perFamily_of_none found alone]
  · rw [Page.request, Writer.write, perFamily, withBackend_of_error failed]

/-- The largest page there is, asked for in both families: each writes the numbers in
its own order, and the same page is read from both. -/
theorem largest_page_read_back :
    let page : Page := ⟨18446744073709551615, 18446744073709551614⟩
    let mysql := (Resolver.fixed .mariadb).writer (.system .utc) {} none .epoch
    let postgres := (Resolver.fixed .postgres).writer (.system .utc) {} none .epoch
    ∃ one other, (mysql.write page.request ()).1.result = .ok one ∧
      (postgres.write page.request ()).1.result = .ok other ∧
      Page.read? .mysql one = some page ∧ Page.read? .postgres other = some page ∧ one ≠ other := by
  intro page mysql postgres
  have inMySql : Answers mysql () .mysql := ⟨.mariadb, rfl, rfl⟩
  have inPostgres : Answers postgres () .postgres := ⟨.postgres, rfl, rfl⟩
  obtain ⟨one, first, told, -⟩ := (dialects_page_alike mysql () page).1 .mysql inMySql
  obtain ⟨other, second, told', -⟩ := (dialects_page_alike postgres () page).1 .postgres inPostgres
  refine ⟨one, other, first, second, (told page).mpr rfl, (told' page).mpr rfl, ?_⟩
  have shown : one = "LIMIT 18446744073709551614,18446744073709551615" := by
    rw [← Except.ok.inj ((write_page inMySql page).symm.trans first)]
    decide +kernel
  have shown' : other = "LIMIT 18446744073709551615 OFFSET 18446744073709551614" := by
    rw [← Except.ok.inj ((write_page inPostgres page).symm.trans second)]
    decide +kernel
  rw [shown, shown']
  decide

end TenantSql.PagedRows
