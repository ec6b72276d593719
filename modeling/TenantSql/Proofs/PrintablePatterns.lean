import TenantSql.Proofs.FirstCause

/-! Which patterns print. Each item of a pattern needs a date alone, a time of day, or
something that is never at hand, and a pattern prints exactly if all that its items need
is at hand, whatever date and time it is. So a pattern that a check refuses never prints,
one that prints dates prints date-times too, and of a pattern that does not print nothing
is written. -/
namespace TenantSql.PrintablePatterns
open Pattern Writer FirstCause

variable {σ : Type} {writer : Writer σ} {state : σ} {backend : Backend} {request : Request} {timed : Bool}
  {pattern field : String} {moment : Moment} {error : Error}

/-- What has to be at hand for an item to print. -/
inductive Need where
  | date
  | time
  /-- A zone, or a meaning, which no date and no local time has. -/
  | more
  deriving DecidableEq

/-- The numbers that a time of day shows. -/
def timeFields : List Field := [.hour, .dialHour, .minute, .second, .nano, .epochSeconds]

/-- The names that a time of day has. -/
def timeNames : List Name := [.lowerHalfDay, .upperHalfDay]

/-- What an item needs. Texts need nothing but what is always at hand. -/
def need : Item → Need
  | .literal _ => .date
  | .number field _ => if field ∈ timeFields then .time else .date
  | .name which => if which ∈ timeNames then .time else .date
  | .fraction _ => .time
  | .zone | .unknown => .more

/-- Whether it is at hand with a date, and perhaps a time of day. -/
def Need.met (timed : Bool) : Need → Bool
  | date => true
  | time => timed
  | more => false

/-- All that the items of the pattern need is at hand. -/
def Printable (timed : Bool) (pattern : String) : Prop :=
  ∀ item ∈ items pattern.toList, (need item).met timed = true

instance (timed : Bool) (pattern : String) : Decidable (Printable timed pattern) :=
  inferInstanceAs (Decidable (∀ item ∈ items pattern.toList, _))

/-- Prints item after item behind what is printed already, up to the first that cannot be
printed: what stands there then, and whether it is the whole. -/
def typeset (moment : Moment) (printed : List Char) : List Item → List Char × Bool
  | [] => (printed, true)
  | item :: rest =>
    match item.write moment with
    | some text => typeset moment (printed ++ text) rest
    | none => (printed, false)

/-- The requests that print, the pattern each of them prints with, and whether what it
prints has a time of day. -/
inductive PrintsWith (formats : Formats) : Request → Bool → String → Prop
  | businessDate : PrintsWith formats .businessDate false formats.date
  | tenantDate : PrintsWith formats .tenantDate false formats.date
  | tenantDateTime : PrintsWith formats .tenantDateTime true formats.dateTime

/-- A request is answered if the clock has the date and the pattern is printable, and
else fails for the date or with the pattern, in this order. -/
structure ToldByPattern (writer : Writer σ) (state : σ) (request : Request) (timed : Bool) (pattern : String) :
    Prop where
  answered : (∃ text, (writer.write request state).1.result = .ok text) ↔
    dateless writer.clock request = none ∧ Printable timed pattern
  refused : ∀ error, (writer.write request state).1.result = .error error ↔
    dateless writer.clock request = some error ∨
      dateless writer.clock request = none ∧ ¬ Printable timed pattern ∧
        error = .settings (.unprintablePattern pattern)

/-! ### Items -/

/-- An item prints exactly if what it needs is at hand. -/
theorem write_isSome (moment : Moment) (item : Item) :
    (item.write moment).isSome = (need item).met moment.time.isSome := by
  cases item with
  | literal c => rfl
  | number field padding => cases field <;> simp [Item.write, Field.figure, need, timeFields, Need.met]
  | name which => cases which <;> simp [Item.write, Name.text, need, timeNames, Need.met]
  | fraction which => simp [Item.write, need, Need.met]
  | zone => rfl
  | unknown => rfl

/-! ### Patterns -/

/-- Printing item after item comes to the end exactly if every item prints. -/
theorem typeset_whole (moment : Moment) (printed : List Char) (items : List Item) :
    (typeset moment printed items).2 = items.all fun item => (need item).met moment.time.isSome := by
  induction items generalizing printed with
  | nil => rfl
  | cons item rest ih =>
    have told := write_isSome moment item
    unfold typeset
    cases written : item.write moment with
    | some text =>
      rw [List.all_cons, ← told, written]
      exact ih _
    | none =>
      rw [List.all_cons, ← told, written]
      rfl

/-- What stands there at the end is what the items print, one after the other. -/
theorem mapM_write (moment : Moment) (printed : List Char) (items : List Item) :
    (items.mapM (Item.write moment)).map (fun texts => printed ++ texts.flatten) =
      if (typeset moment printed items).2 then some (typeset moment printed items).1 else none := by
  induction items generalizing printed with
  | nil => simp [typeset]
  | cons item rest ih =>
    rw [List.mapM_cons]
    unfold typeset
    cases item.write moment with
    | none => rfl
    | some text =>
      dsimp only
      rw [← ih]
      cases rest.mapM (Item.write moment) <;> simp

theorem render_eq (pattern : String) (moment : Moment) : render pattern moment =
    if (typeset moment [] (items pattern.toList)).2 then
      some (String.ofList (typeset moment [] (items pattern.toList)).1) else none := by
  have written := mapM_write moment [] (items pattern.toList)
  simp only [List.nil_append] at written
  have parted : render pattern moment =
      (((items pattern.toList).mapM (Item.write moment)).map List.flatten).map String.ofList := by
    rw [render, Option.map_map]
    rfl
  rw [parted, written]
  split <;> rfl

/-- Whether a pattern prints is told by what its items need. -/
theorem render_isSome_iff : (render pattern moment).isSome = true ↔ Printable moment.time.isSome pattern := by
  have whole := typeset_whole moment [] (items pattern.toList)
  rw [render_eq, Printable, ← List.all_eq_true, ← whole]
  split <;> simp_all

/-- What prints with a date alone prints with a time of day as well. -/
theorem printable_with_time (printable : Printable false pattern) : Printable true pattern := by
  intro item within
  have met := printable item within
  cases asked : need item with
  | date => rfl
  | time => rfl
  | more => simp [asked, Need.met] at met

/-- An unknown item needs what is never at hand. -/
theorem not_printable_of_refused (held : pattern ≠ "") (rejected : Formats.checkPattern field pattern = .error error)
    (timed : Bool) : ¬ Printable timed pattern := by
  intro printable
  have known : Item.unknown ∉ items pattern.toList := by
    intro within
    exact absurd (printable .unknown within) Bool.false_ne_true
  have accepted : Formats.checkPattern field pattern = .ok () := by
    simp [Formats.checkPattern, held, isKnown, known]
  rw [accepted] at rejected
  cases rejected

/-! ### Requests -/

theorem render_eq_none_iff : render pattern moment = none ↔ ¬ Printable moment.time.isSome pattern := by
  rw [← render_isSome_iff, Bool.not_eq_true, Option.isSome_eq_false_iff, Option.isNone_iff_eq_none]

/-- A pattern that does not print is in the way of the requests that print with it. -/
theorem unprintable_iff (prints : PrintsWith writer.formats request timed pattern)
    (dated : dateless writer.clock request = none) :
    unprintable writer.clock writer.formats request = some error ↔
      ¬ Printable timed pattern ∧ error = .settings (.unprintablePattern pattern) := by
  have told : ∃ moment, printed writer.clock writer.formats request = some (pattern, moment) ∧
      moment.time.isSome = timed := by
    cases prints with
    | businessDate =>
      obtain ⟨date, shown⟩ := failure_eq_none_iff.mp dated
      exact ⟨⟨date, none⟩, by simp [printed, shown, Except.toOption], rfl⟩
    | tenantDate => exact ⟨_, rfl, rfl⟩
    | tenantDateTime => exact ⟨_, rfl, rfl⟩
  obtain ⟨moment, found, rfl⟩ := told
  rw [unprintable, found, ← render_eq_none_iff]
  cases shown : render pattern moment <;> simp [shown, eq_comm]

/-- On a backend of a family a request that prints fails for its date or its pattern. -/
theorem failure_of_printing (found : (writer.resolve state).1.result = .ok backend) (member : backend.family ≠ none)
    (prints : PrintsWith writer.formats request timed pattern) :
    failure (writer.write request state).1.result =
      (dateless writer.clock request).or (unprintable writer.clock writer.formats request) := by
  have resolved : unresolved (writer.resolve state).1 request = none := by
    simp [unresolved, found]
  have accepted : refused (writer.resolve state).1 request = none := by
    cases prints <;> simp [refused, found, operationOf, member]
  rw [failure_write, firstCause_eq, resolved, accepted, Option.none_or, Option.none_or]

theorem toldByPattern (found : (writer.resolve state).1.result = .ok backend) (member : backend.family ≠ none)
    (prints : PrintsWith writer.formats request timed pattern) :
    ToldByPattern writer state request timed pattern := by
  have failed := failure_of_printing found member prints
  cases dated : dateless writer.clock request with
  | some missing =>
    rw [dated, Option.some_or] at failed
    have outcome := failure_eq_some_iff.mp failed
    constructor
    · simp [outcome, dated]
    · intro error
      simp [outcome, dated]
  | none =>
    have stopped : ∀ error, unprintable writer.clock writer.formats request = some error ↔
        ¬ Printable timed pattern ∧ error = .settings (.unprintablePattern pattern) :=
      fun error => unprintable_iff prints dated
    rw [dated, Option.none_or] at failed
    constructor
    · rw [← failure_eq_none_iff, failed, dated, Option.eq_none_iff_forall_ne_some]
      simp [stopped]
    · intro error
      rw [← failure_eq_some_iff, failed, stopped, dated]
      simp

/-- For every pattern, and every writer whose backend has a family. A request that prints
with the pattern is answered or refused by what the items of the pattern need, whatever
the date and the time are; only a missing business date comes before. A pattern that a
check refuses is refused by each such request and quoted. What dates can be printed with
date-times can be printed with too. And of a pattern that does not print nothing is given
out of what stood there when printing stopped. -/
theorem pattern_decides_printing (pattern : String) :
    (∀ {σ : Type} (writer : Writer σ) (state : σ) (backend : Backend) (request : Request) (timed : Bool),
      (writer.resolve state).1.result = .ok backend → backend.family ≠ none →
      PrintsWith writer.formats request timed pattern →
        ToldByPattern writer state request timed pattern ∧
        ∀ field error, pattern ≠ "" → Formats.checkPattern field pattern = .error error →
          dateless writer.clock request = none →
            (writer.write request state).1.result = .error (.settings (.unprintablePattern pattern))) ∧
    (Printable false pattern → Printable true pattern) ∧
    ∀ moment, Formats.print pattern moment =
      let (printed, whole) := typeset moment [] (items pattern.toList)
      if whole then .ok (String.ofList printed) else .error (.settings (.unprintablePattern pattern)) := by
  refine ⟨fun writer state backend request timed found member prints => ?_, printable_with_time, fun moment => ?_⟩
  · have told := toldByPattern found member prints
    refine ⟨told, fun field error held rejected dated => ?_⟩
    exact (told.refused _).mpr (.inr ⟨dated, not_printable_of_refused held rejected timed, rfl⟩)
  · rw [Formats.print, render_eq]
    generalize typeset moment [] (items pattern.toList) = outcome
    obtain ⟨printed, whole⟩ := outcome
    cases whole <;> rfl

/-- A pattern that ends in an unknown specifier, on MariaDB: the check refuses it, and the
date before the specifier is not given out. -/
theorem unknown_specifier_refused :
    let pattern := "%d.%m.%Y %Q"
    let writer := (Resolver.fixed .mariadb).writer (.system .utc) { date := pattern } none .epoch
    (writer.resolve ()).1.result = .ok .mariadb ∧ Backend.mariadb.family ≠ none ∧
      Formats.checkPattern "formats.date" pattern = .error (.settings (.unknownPattern "formats.date" pattern)) ∧
      dateless writer.clock .tenantDate = none ∧
      (writer.write .tenantDate ()).1.result = .error (.settings (.unprintablePattern pattern)) := by
  intro pattern writer
  have unknown : isKnown pattern = false := by
    have last : Item.unknown ∈ ofLetter 'Q' := List.mem_singleton_self _
    simp [pattern, isKnown, items_letter, items, last]
  have rejected : Formats.checkPattern "formats.date" pattern =
      .error (.settings (.unknownPattern "formats.date" pattern)) := by
    rw [Formats.checkPattern, unknown]
    rfl
  have told := (pattern_decides_printing pattern).1 writer () .mariadb .tenantDate false rfl (by decide) .tenantDate
  exact ⟨rfl, by decide, rejected, rfl, told.2 "formats.date" _ (by decide) rejected rfl⟩

end TenantSql.PrintablePatterns
