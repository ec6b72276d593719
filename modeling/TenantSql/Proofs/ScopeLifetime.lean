import Mathlib.Data.List.Induction
import TenantSql.Proofs.ScopeHistory

/-! Whether a scope can be bound after its guard was dropped. A guard restores
what was bound when it was made, without asking whether the guard of that
scope is still held. Dropped in any order, guards keep every scope within the
life of its guard exactly if none is dropped after the guard of the scope it
was made over. -/
namespace TenantSql.ScopeLifetime
open Session ScopeHistory

variable {start : Session} {instant : Instant} {step : Step} {history past future : History}
variable {scope inner outer : Scope}

/-- The scope a step enters, if it enters one. -/
def enteredBy : Step → Option Scope
  | .enter _ scope => some scope
  | _ => none

/-- All scopes that were entered, in order. -/
def entered (history : History) : List Scope := history.filterMap fun (_, step) => enteredBy step

/-- A scope was entered, and its guard is no longer held. For histories that
enter no scope twice. -/
def Expired (history : History) (scope : Scope) : Prop :=
  scope ∈ entered history ∧ scope ∉ (openScopes history).map (·.2)

/-- What was bound at the moment when a scope was entered. -/
def boundBefore (start : Session) (scope : Scope) : History → Option Scope
  | [] => none
  | (instant, step) :: rest =>
    if enteredBy step = some scope then start.worker.bound
    else boundBefore (start.step instant step).2 scope rest

/-- No guard is dropped after the guard of the scope that it was made over. -/
def InnerFirst (start : Session) (history : History) : Prop :=
  ∀ past instant name future, history = past ++ (instant, .exit name) :: future →
    ∀ inner outer, (openScopes past).lookup name = some inner →
      boundBefore start inner past = some outer → outer ∈ (openScopes past).map (·.2)

@[simp] theorem entered_append : entered (past ++ future) = entered past ++ entered future :=
  List.filterMap_append

@[simp] theorem mem_entered_cons : scope ∈ entered ((instant, step) :: history) ↔
    enteredBy step = some scope ∨ scope ∈ entered history := by
  simp [entered]

private theorem boundBefore_of_entered (known : scope ∈ entered past) :
    boundBefore start scope (past ++ future) = boundBefore start scope past := by
  induction past generalizing start with
  | nil => simp [entered] at known
  | cons first rest ih =>
    obtain ⟨instant, step⟩ := first
    by_cases here : enteredBy step = some scope
    · simp [boundBefore, here]
    · have later : scope ∈ entered rest := (mem_entered_cons.mp known).resolve_left here
      simpa [boundBefore, here] using ih later

private theorem boundBefore_of_not_entered (unknown : scope ∉ entered past) :
    boundBefore start scope (past ++ future) = boundBefore (start.run past) scope future := by
  induction past generalizing start with
  | nil => rfl
  | cons first rest ih =>
    obtain ⟨instant, step⟩ := first
    rw [mem_entered_cons, not_or] at unknown
    simpa [boundBefore, unknown.1] using ih unknown.2

/-- A step that enters another scope, or none, does not tell what was below. -/
private theorem boundBefore_skip (elsewhere : enteredBy step ≠ some scope) :
    boundBefore start scope (past ++ [(instant, step)]) = boundBefore start scope past := by
  induction past generalizing start with
  | nil => simp [boundBefore, elsewhere]
  | cons first rest ih => simp [boundBefore, ih]

/-- The guards of open scopes, each with what was bound before its scope. -/
def guardsOf (start : Session) (history : History) (scopes : List (String × Scope)) :
    List (String × Guard) :=
  scopes.map fun opened => (opened.1, ⟨boundBefore start opened.2 history⟩)

private theorem guardsOf_append {scopes : List (String × Scope)}
    (known : ∀ name scope, (name, scope) ∈ scopes → scope ∈ entered past) :
    guardsOf start (past ++ future) scopes = guardsOf start past scopes := by
  refine List.map_congr_left ?_
  rintro ⟨name, scope⟩ member
  rw [boundBefore_of_entered (known name scope member)]

private theorem guardsOf_lookup (scopes : List (String × Scope)) (name : String) :
    (guardsOf start history scopes).lookup name =
      (scopes.lookup name).map fun scope => ⟨boundBefore start scope history⟩ :=
  Assoc.lookup_mapValues (fun scope => (⟨boundBefore start scope history⟩ : Guard)) name scopes

private theorem guardsOf_eraseP (scopes : List (String × Scope)) (name : String) :
    (guardsOf start history scopes).eraseP (·.1 == name) =
      guardsOf start history (scopes.eraseP (·.1 == name)) := List.eraseP_map

/-- What a session that began with nothing bound remembers of its history, when
no scope was entered twice. -/
structure Tracked (start : Session) (history : History) : Prop where
  guards : (start.run history).worker.guards = guardsOf start history (openScopes history)
  opened : ∀ name scope, (name, scope) ∈ openScopes history → scope ∈ entered history
  bound : ∀ scope, (start.run history).worker.bound = some scope → scope ∈ entered history
  /-- What is below a scope was entered before it, so it is another scope. -/
  below : ∀ inner outer, boundBefore start inner history = some outer →
    outer ∈ entered history ∧ outer ≠ inner

/-- Entering a scope for the first time remembers what it is entered over. -/
private theorem tracked_enter {name : String} (tracked : Tracked start past)
    (first : scope ∉ entered past) : Tracked start (past ++ [(instant, .enter name scope)]) := by
  have own : boundBefore start scope (past ++ [(instant, .enter name scope)]) =
      (start.run past).worker.bound := by
    rw [boundBefore_of_not_entered first]
    simp [boundBefore, enteredBy]
  have now : entered (past ++ [(instant, .enter name scope)]) = entered past ++ [scope] := by
    rw [entered_append]
    rfl
  refine ⟨?_, ?_, ?_, ?_⟩
  · have kept : guardsOf start (past ++ [(instant, .enter name scope)]) (openScopes past) =
        guardsOf start past (openScopes past) := guardsOf_append tracked.opened
    simp only [run_append, run_cons, run_nil, step_worker, Worker.after, tracked.guards, ← kept, ← own,
      openedOver_append, openedOver_cons, openedOver_nil, reopened]
    rfl
  · intro other opened member
    rw [now, List.mem_append, List.mem_singleton]
    simp only [openedOver_append, openedOver_cons, openedOver_nil, reopened, List.mem_cons,
      Prod.mk.injEq] at member
    rcases member with ⟨-, rfl⟩ | earlier
    · exact Or.inr rfl
    · exact Or.inl (tracked.opened other opened earlier)
  · intro latest bound
    simp only [run_append, run_cons, run_nil, step_worker, Worker.after, Option.some.injEq] at bound
    rw [now, bound]
    exact List.mem_append_right _ (List.mem_singleton_self latest)
  · intro inner outer lies
    rw [now, List.mem_append]
    by_cases same : inner = scope
    · subst same
      have known := tracked.bound outer (own.symm.trans lies)
      exact ⟨Or.inl known, fun equal => first (equal ▸ known)⟩
    · rw [boundBefore_skip (by simpa [enteredBy] using Ne.symm same)] at lies
      exact (tracked.below inner outer lies).imp_left Or.inl

/-- Dropping a guard binds what was bound before its scope. -/
private theorem run_exit_held {name : String} (tracked : Tracked start past)
    (held : (openScopes past).lookup name = some inner) :
    (start.run (past ++ [(instant, .exit name)])).worker =
      ⟨boundBefore start inner past, guardsOf start past ((openScopes past).eraseP (·.1 == name))⟩ := by
  simp [step_worker, Worker.after, tracked.guards, guardsOf_lookup, held, guardsOf_eraseP]

private theorem run_exit_unheld {name : String} (tracked : Tracked start past)
    (unheld : (openScopes past).lookup name = none) :
    (start.run (past ++ [(instant, .exit name)])).worker = (start.run past).worker := by
  simp [step_worker, Worker.after, tracked.guards, guardsOf_lookup, unheld]

private theorem eraseP_of_unheld {scopes : List (String × Scope)} {name : String}
    (unheld : scopes.lookup name = none) : scopes.eraseP (·.1 == name) = scopes := by
  refine List.eraseP_of_forall_not fun opened member same => ?_
  have differs := List.lookup_eq_none_iff.mp unheld opened member
  simp [beq_iff_eq.mp same] at differs

/-- A step that enters nothing keeps track. -/
private theorem tracked_skip (tracked : Tracked start past) (enters : enteredBy step = none) :
    Tracked start (past ++ [(instant, step)]) := by
  have below : ∀ scope, boundBefore start scope (past ++ [(instant, step)]) =
      boundBefore start scope past := fun scope => boundBefore_skip (by simp [enters])
  have guards : guardsOf start (past ++ [(instant, step)]) = guardsOf start past := by
    funext scopes
    simp only [guardsOf, below]
  have now : entered (past ++ [(instant, step)]) = entered past := by
    simp [entered, enters]
  cases step with
  | enter name scope => simp [enteredBy] at enters
  | exit name =>
    cases held : (openScopes past).lookup name with
    | none =>
      have same : openScopes (past ++ [(instant, .exit name)]) = openScopes past := by
        simpa [reopened] using eraseP_of_unheld held
      refine ⟨?_, ?_, ?_, ?_⟩
      · rw [run_exit_unheld tracked held, guards, same, tracked.guards]
      · rw [same, now]
        exact tracked.opened
      · rw [run_exit_unheld tracked held, now]
        exact tracked.bound
      · simpa only [below, now] using tracked.below
    | some inner =>
      refine ⟨?_, ?_, ?_, ?_⟩
      · rw [run_exit_held tracked held, guards]
        simp [reopened]
      · intro other scope member
        rw [now]
        simp only [openedOver_append, openedOver_cons, openedOver_nil, reopened] at member
        exact tracked.opened other scope (List.mem_of_mem_eraseP member)
      · intro scope bound
        rw [run_exit_held tracked held] at bound
        rw [now]
        exact (tracked.below inner scope bound).1
      · simpa only [below, now] using tracked.below
  | _ =>
    refine ⟨?_, ?_, ?_, ?_⟩
    · simpa [step_worker, Worker.after, reopened, guards] using tracked.guards
    · simpa [reopened, now] using tracked.opened
    · simpa [step_worker, Worker.after, now] using tracked.bound
    · simpa only [below, now] using tracked.below

/-- Every history that begins with nothing bound and enters no scope twice is
tracked. -/
theorem tracked_run (unbound : start.worker = {}) (once : (entered history).Nodup) :
    Tracked start history := by
  induction history using List.reverseRecOn with
  | nil =>
    refine ⟨?_, by simp, ?_, by simp [boundBefore]⟩
    · rw [run_nil, unbound]
      rfl
    · simp [unbound]
  | append_singleton past last ih =>
    obtain ⟨instant, step⟩ := last
    rw [entered_append, List.nodup_append] at once
    have tracked := ih once.1
    cases enters : enteredBy step with
    | none => exact tracked_skip tracked enters
    | some scope =>
      cases step with
      | enter name other =>
        obtain rfl : other = scope := by simpa [enteredBy] using enters
        refine tracked_enter tracked fun known => ?_
        exact once.2.2 other known other (by simp [entered, enteredBy]) rfl
      | _ => simp [enteredBy] at enters

private theorem entered_prefix_nodup (once : (entered history).Nodup) (split : history = past ++ future) :
    (entered past).Nodup := by
  rw [split, entered_append, List.nodup_append] at once
  exact once.1

private theorem mem_reopened_of_ne {scopes : List (String × Scope)} {name : String}
    (held : scopes.lookup name = some inner) (other : outer ≠ inner)
    (opened : outer ∈ scopes.map (·.2)) :
    outer ∈ (scopes.eraseP (·.1 == name)).map (·.2) := by
  induction scopes with
  | nil => simp at held
  | cons latest rest ih =>
    obtain ⟨key, scope⟩ := latest
    by_cases same : key = name
    · obtain rfl : scope = inner := by simpa [same] using held
      simpa [same, other] using opened
    · have miss : (name == key) = false := by simpa using Ne.symm same
      rw [List.lookup_cons, miss] at held
      rcases List.mem_cons.mp opened with rfl | later
      · simp [same]
      · simpa [same] using Or.inr (ih held later)

/-- If inner guards are dropped first, whatever is bound is the scope of a guard
that is still held. -/
theorem bound_is_open (unbound : start.worker = {}) (once : (entered history).Nodup)
    (ordered : InnerFirst start history) (split : history = past ++ future)
    (bound : (start.run past).worker.bound = some scope) : scope ∈ (openScopes past).map (·.2) := by
  induction past using List.reverseRecOn generalizing future scope with
  | nil => simp [unbound] at bound
  | append_singleton past last ih =>
    obtain ⟨instant, step⟩ := last
    have earlier : history = past ++ ((instant, step) :: future) := by simpa using split
    have tracked := tracked_run unbound (entered_prefix_nodup once earlier)
    cases step with
    | enter name latest =>
      simp only [run_append, run_cons, run_nil, step_worker, Worker.after, Option.some.injEq] at bound
      simp [reopened, bound]
    | exit name =>
      cases held : (openScopes past).lookup name with
      | none =>
        rw [run_exit_unheld tracked held] at bound
        simpa [reopened, eraseP_of_unheld held] using ih earlier bound
      | some inner =>
        rw [run_exit_held tracked held] at bound
        have opened := ordered past instant name future earlier inner scope held bound
        have other := (tracked.below inner scope bound).2
        simpa [reopened] using mem_reopened_of_ne held other opened
    | _ =>
      have same : (start.run past).worker.bound = some scope := by
        simpa [step_worker, Worker.after] using bound
      simpa [reopened] using ih earlier same

/-- Nested drops are inner first, so the usual way of using guards is safe. -/
theorem nested_innerFirst (unbound : start.worker = {}) (once : (entered history).Nodup)
    (nested : Nested history) : InnerFirst start history := by
  intro past instant name future split inner outer held lies
  have tracked := tracked_run unbound (entered_prefix_nodup once split)
  rw [split] at nested
  obtain ⟨nestedPast, ordered, -⟩ := nestedOver_append.mp nested
  have worker : (start.run past).worker = holding (openScopes past) := run_worker nestedPast unbound
  have guards : (holding (openScopes past)).guards = guardsOf start past (openScopes past) := by
    rw [← worker, tracked.guards]
  cases opened : openScopes past with
  | nil => simp [opened] at held
  | cons latest below =>
    obtain ⟨key, scope⟩ := latest
    obtain rfl : key = name := by simpa [InOrder, opened] using ordered
    obtain rfl : scope = inner := by simpa [opened] using held
    simp only [opened, holding, guardsOf, List.map_cons, List.cons.injEq, Prod.mk.injEq,
      Guard.mk.injEq, true_and] at guards
    have remembered : (holding below).bound = some outer := guards.1.trans lies
    rw [holding_bound, Option.map_eq_some_iff] at remembered
    obtain ⟨entry, top, rfl⟩ := remembered
    exact List.mem_map_of_mem (List.mem_cons_of_mem _ (List.mem_of_mem_head? top))

/-- In a run that begins with nothing bound and enters no scope twice, a scope
whose guard was dropped is never bound again exactly if no guard is dropped
after the guard of the scope it was made over. In that case nothing is bound
once all guards are dropped. -/
theorem expired_never_bound_iff (start : Session) (history : History) (unbound : start.worker = {})
    (once : (entered history).Nodup) :
    ((∀ past future, history = past ++ future → ∀ scope, Expired past scope →
        (start.run past).worker.bound ≠ some scope) ↔ InnerFirst start history) ∧
    (InnerFirst start history → openScopes history = [] → (start.run history).worker.bound = none) := by
  refine ⟨⟨?_, ?_⟩, ?_⟩
  · intro expires past instant name future split inner outer held lies
    have tracked := tracked_run unbound (entered_prefix_nodup once split)
    -- Right after the drop the outer scope is bound, so its guard must be held.
    have restored : (start.run (past ++ [(instant, .exit name)])).worker.bound = some outer := by
      rw [run_exit_held tracked held, lies]
    have known : outer ∈ entered (past ++ [(instant, .exit name)]) := by
      rw [entered_append, List.mem_append]
      exact Or.inl (tracked.below inner outer lies).1
    have later : history = past ++ [(instant, .exit name)] ++ future := by simpa using split
    by_contra closed
    refine expires _ future later outer ⟨known, fun opened => closed ?_⟩ restored
    obtain ⟨entry, member, rfl⟩ := List.mem_map.mp opened
    simp only [openedOver_append, openedOver_cons, openedOver_nil, reopened] at member
    exact List.mem_map_of_mem (List.mem_of_mem_eraseP member)
  · intro ordered past future split scope expired bound
    exact expired.2 (bound_is_open unbound once ordered split bound)
  · intro ordered closed
    cases bound : (start.run history).worker.bound with
    | none => rfl
    | some scope =>
      have opened := bound_is_open unbound once ordered (List.append_nil history).symm bound
      simp [closed] at opened

/-- Two scopes are entered one over the other, and the guard of the outer one is
dropped first. -/
def crossed (outer inner : Scope) : History :=
  [(.epoch, .enter "outer" outer), (.epoch, .enter "inner" inner), (.epoch, .exit "outer"),
    (.epoch, .exit "inner")]

/-- Crossed drops leave the outer scope bound, although no guard is held. -/
theorem crossed_binds_outer (start : Session) (outer inner : Scope) (unbound : start.worker = {}) :
    (start.run (crossed outer inner)).worker.bound = some outer ∧
      Expired (crossed outer inner) outer ∧ openScopes (crossed outer inner) = [] := by
  refine ⟨?_, ?_, rfl⟩
  · simp [crossed, step_worker, Worker.after, unbound, List.lookup_cons, List.eraseP]
  · simp [Expired, crossed, entered, enteredBy, reopened, List.eraseP]

/-- Guards of two tenants are dropped in the order in which they were made. The
first tenant is bound again and stays bound after the last guard. -/
theorem expired_scope_bound_again :
    let first : Scope := { tenant := some { identifier := "acme", backend := some .mysql } }
    let second : Scope := { tenant := some { identifier := "globex", backend := some .postgres } }
    let start := fresh .sqlite ⟨.fixed .sqlite, .system .utc, .shared {}, {}⟩
    let history := crossed first second
    start.worker = {} ∧ (entered history).Nodup ∧ openScopes history = [] ∧ Expired history first ∧
      (start.run history).worker.bound = some first := by
  intro first second start history
  obtain ⟨bound, expired, closed⟩ := crossed_binds_outer start first second rfl
  exact ⟨rfl, by decide, closed, expired, bound⟩

/-- In the same way it shows that the drops of two guards are crossed. -/
theorem crossed_not_innerFirst :
    let first : Scope := { tenant := some { identifier := "acme", backend := some .mysql } }
    let start := fresh .sqlite ⟨.fixed .sqlite, .system .utc, .shared {}, {}⟩
    start.worker = {} ∧ (entered (crossed first {})).Nodup ∧ ¬ InnerFirst start (crossed first {}) := by
  intro first start
  have once : (entered (crossed first {})).Nodup := by decide
  refine ⟨rfl, once, fun ordered => ?_⟩
  obtain ⟨bound, expired, -⟩ := crossed_binds_outer start first {} rfl
  exact (expired_never_bound_iff start (crossed first {}) rfl once).1.mpr ordered _ []
    (List.append_nil _).symm first expired bound

end TenantSql.ScopeLifetime
