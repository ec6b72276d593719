import Mathlib.Data.List.Forall2
import TenantSql.Error

/-! Sequences of steps that may fail. A sequence succeeds if each of its steps
does, and fails as its first failing step does. -/
namespace TenantSql.Outcomes

variable {ε φ α β : Type} {error : ε}

/-- A sequence succeeds if both of its parts do. -/
theorem bind_eq_ok {first : Except ε α} {next : α → Except ε β} {result : β} :
    first >>= next = .ok result ↔ ∃ value, first = .ok value ∧ next value = .ok result := by
  cases first <;> simp [bind, Except.bind]

/-- A sequence fails as its first part does, or as the second does after a
success of the first. -/
theorem bind_eq_error {first : Except ε α} {next : α → Except ε β} :
    first >>= next = .error error ↔
      first = .error error ∨ ∃ value, first = .ok value ∧ next value = .error error := by
  cases first <;> simp [bind, Except.bind]

theorem pure_eq_ok {value result : α} : (pure value : Except ε α) = .ok result ↔ value = result := by
  simp [pure, Except.pure]

theorem map_eq_ok {change : α → β} {first : Except ε α} {result : β} :
    first.map change = .ok result ↔ ∃ value, first = .ok value ∧ change value = result := by
  cases first <;> simp [Except.map]

/-- Another error changes no success. -/
theorem mapError_eq_ok {change : ε → φ} {first : Except ε α} {result : α} :
    first.mapError change = .ok result ↔ first = .ok result := by
  cases first with
  | ok value => exact ⟨fun same => congrArg _ (Except.ok.inj same), fun same => congrArg _ (Except.ok.inj same)⟩
  | error error => constructor <;> intro same <;> cases same

theorem ok_of_toOption {first : Except ε α} {result : α} (held : first.toOption = some result) :
    first = .ok result := by
  cases first with
  | ok value => simpa [Except.toOption] using held
  | error => simp [Except.toOption] at held

theorem seenFrom_eq_ok {context : String} {first : Except Error α} {result : α} :
    Error.seenFrom context first = .ok result ↔ first = .ok result := mapError_eq_ok

/-- A check that passes has only one thing to say. -/
theorem passes_iff {check : Except ε Unit} : (∃ nothing, check = .ok nothing) ↔ check = .ok () :=
  ⟨fun ⟨(), passed⟩ => passed, fun passed => ⟨(), passed⟩⟩

/-- Checking a list succeeds if every check does. -/
theorem forM_eq_ok {items : List α} {check : α → Except ε Unit} :
    items.forM check = .ok () ↔ ∀ item ∈ items, check item = .ok () := by
  induction items with
  | nil => simp [List.forM, pure, Except.pure]
  | cons first rest ih => simp only [List.forM, bind_eq_ok, exists_and_right, passes_iff, ih, List.forall_mem_cons]

/-- Checking a list fails at the first item that does not pass. -/
theorem forM_eq_error {items : List α} {check : α → Except ε Unit} :
    items.forM check = .error error ↔ ∃ before item after, items = before ++ item :: after ∧
      (∀ earlier ∈ before, check earlier = .ok ()) ∧ check item = .error error := by
  induction items with
  | nil => simp [List.forM, pure, Except.pure]
  | cons first rest ih =>
    simp only [List.forM, bind_eq_error, ih]
    constructor
    · rintro (failed | ⟨⟨⟩, passed, before, item, after, rfl, earlier, failed⟩)
      · exact ⟨[], first, rest, rfl, List.forall_mem_nil _, failed⟩
      · exact ⟨first :: before, item, after, rfl, List.forall_mem_cons.mpr ⟨passed, earlier⟩, failed⟩
    · rintro ⟨before, item, after, split, earlier, failed⟩
      cases before with
      | nil =>
        obtain ⟨rfl, rfl⟩ := List.cons.inj split
        exact Or.inl failed
      | cons head before =>
        obtain ⟨rfl, rfl⟩ := List.cons.inj split
        obtain ⟨passed, earlier⟩ := List.forall_mem_cons.mp earlier
        exact Or.inr ⟨(), passed, before, item, after, rfl, earlier, failed⟩

/-- Reading a list succeeds if every item is read, in order. -/
theorem mapM_eq_ok {items : List α} {results : List β} {read : α → Except ε β} :
    items.mapM read = .ok results ↔ List.Forall₂ (fun item result => read item = .ok result) items results := by
  induction items generalizing results with
  | nil => cases results <;> simp [pure_eq_ok]
  | cons first rest ih =>
    rw [List.mapM_cons, bind_eq_ok, List.forall₂_cons_left_iff]
    simp only [bind_eq_ok, pure_eq_ok, ih]
    constructor
    · rintro ⟨one, read, others, readAll, rfl⟩
      exact ⟨one, others, read, readAll, rfl⟩
    · rintro ⟨one, others, read, readAll, rfl⟩
      exact ⟨one, read, others, readAll, rfl⟩

/-- What holds at the start and is kept by each step holds at the end. -/
theorem foldlM_keeps (holds : β → Prop) {step : β → α → Except ε β} {items : List α} {start last : β}
    (kept : ∀ state item, item ∈ items → holds state → ∀ next, step state item = .ok next → holds next)
    (begun : holds start) (ran : items.foldlM step start = .ok last) : holds last := by
  induction items generalizing start with
  | nil =>
    obtain rfl : start = last := pure_eq_ok.mp ran
    exact begun
  | cons item rest ih =>
    rw [List.foldlM_cons] at ran
    obtain ⟨next, stepped, ran⟩ := bind_eq_ok.mp ran
    refine ih ?_ (kept start item List.mem_cons_self begun next stepped) ran
    intro state later member
    exact kept state later (List.mem_cons_of_mem _ member)

section Agreement

variable {γ δ : Type} {related : α → β → Prop} {final : γ → δ → Prop} {first : Except ε α}
  {second : Except φ β}

/-- Two results that are both failures, or both successes with related values. -/
inductive Agree (related : α → β → Prop) : Except ε α → Except φ β → Prop where
  | ok {one : α} {other : β} (both : related one other) : Agree related (.ok one) (.ok other)
  | error {one : ε} {other : φ} : Agree related (.error one) (.error other)

theorem Agree.refl (result : Except ε α) : Agree Eq result result := by
  cases result with
  | ok value => exact Agree.ok rfl
  | error error => exact Agree.error

/-- Sequences agree if their first parts do, and their second parts do after related values. -/
theorem Agree.bind {next : α → Except ε γ} {after : β → Except φ δ} (agree : Agree related first second)
    (later : ∀ one other, related one other → Agree final (next one) (after other)) :
    Agree final (first >>= next) (second >>= after) := by
  cases agree with
  | ok both => exact later _ _ both
  | error => exact Agree.error

theorem Agree.eq_ok_iff {first : Except ε α} {second : Except φ α} (agree : Agree Eq first second) {result : α} :
    first = .ok result ↔ second = .ok result := by
  cases agree with
  | ok both => simp [both]
  | error => simp

end Agreement

end TenantSql.Outcomes
