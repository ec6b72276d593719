import Mathlib.Logic.Function.Basic
import TenantSql.Proofs.SessionRun

/-! Several workers at one desk, taking their steps in any order. What a worker has
bound and which guards it holds is its own, so all that another worker can bring
about is a change of the desk. A run of all is therefore seen by each of them as
its own steps at a desk that changes under its hands, and where nobody changes the
desk it is seen as nothing but its own steps. -/
namespace TenantSql.SharedDesk

variable {ι : Type} [DecidableEq ι]

/-- A desk and everybody who works at it. -/
structure Office (ι : Type) where
  desk : Desk
  workers : ι → Worker

/-- A step, the worker who takes it, and the instant at which it is taken. -/
structure Turn (ι : Type) where
  who : ι
  instant : Instant
  step : Step

namespace Office

variable {office : Office ι} {who other : ι} {turn : Turn ι} {turns : List (Turn ι)}

/-- An office where nobody has anything bound. -/
def opened (desk : Desk) : Office ι := ⟨desk, fun _ => {}⟩

/-- The desk as one of the workers has it before it. -/
def session (office : Office ι) (who : ι) : Session := ⟨office.desk, office.workers who⟩

/-- The office after one of the workers took a step. -/
def after (office : Office ι) (turn : Turn ι) : Office ι :=
  let stepped := ((office.session turn.who).step turn.instant turn.step).2
  ⟨stepped.desk, Function.update office.workers turn.who stepped.worker⟩

/-- The office after all turns were taken. -/
def run (office : Office ι) (turns : List (Turn ι)) : Office ι := turns.foldl after office

/-- What one of the workers is answered while all turns are taken. -/
def answers (who : ι) : Office ι → List (Turn ι) → List (Traced Reply)
  | _, [] => []
  | office, turn :: rest =>
    let later := answers who (office.after turn) rest
    if turn.who = who then ((office.session who).step turn.instant turn.step).1 :: later else later

end Office

/-- What a worker is answered who is alone at the desk. -/
def answersAlone : Session → History → List (Traced Reply)
  | _, [] => []
  | session, (instant, step) :: rest =>
    (session.step instant step).1 :: answersAlone (session.step instant step).2 rest

/-- The steps of one worker, in order. -/
def ownSteps (who : ι) (turns : List (Turn ι)) : History :=
  (turns.filter fun turn => turn.who = who).map fun turn => (turn.instant, turn.step)

/-- What a worker is answered at a desk that changes by the steps of others. -/
def answersAmong (who : ι) : Session → List (Turn ι) → List (Traced Reply)
  | _, [] => []
  | session, turn :: rest =>
    if turn.who = who then
      (session.step turn.instant turn.step).1 ::
        answersAmong who (session.step turn.instant turn.step).2 rest
    else answersAmong who (session.withDesk (session.desk.after turn.step)) rest

section
open Office
variable {office : Office ι} {who other : ι} {session : Session} {turn : Turn ι} {turns : List (Turn ι)}

/-- A worker's own step changes its session as a step of it alone does. -/
theorem session_after_own (own : turn.who = who) :
    (office.after turn).session who = ((office.session who).step turn.instant turn.step).2 := by
  subst own
  simp only [Office.after, Office.session, Function.update_self]

/-- Of the step of another a worker sees the desk, and the rest of it is as it was. -/
theorem session_after_other (foreign : turn.who ≠ who) :
    (office.after turn).session who =
      (office.session who).withDesk ((office.session who).desk.after turn.step) := by
  simp only [Office.after, Office.session, Session.withDesk, Session.step_desk,
    Function.update_of_ne (Ne.symm foreign)]

/-- The answers to one worker hang on the desk and on the worker, and on nothing
else in the office. -/
theorem answers_eq_answersAmong (who : ι) (office : Office ι) (turns : List (Turn ι)) :
    office.answers who turns = answersAmong who (office.session who) turns := by
  induction turns generalizing office with
  | nil => rfl
  | cons turn rest ih =>
    by_cases own : turn.who = who
    · simp only [Office.answers, answersAmong, own, if_true, ih]
      rw [session_after_own own]
    · simp only [Office.answers, answersAmong, own, if_false, ih]
      rw [session_after_other own]

/-- Steps of others that leave the desk alone can be left out. -/
theorem answersAmong_filter (keep : Turn ι → Bool)
    (kept : ∀ turn ∈ turns, turn.who = who ∨ turn.step.changesDesk = true → keep turn = true) :
    answersAmong who session (turns.filter keep) = answersAmong who session turns := by
  induction turns generalizing session with
  | nil => rfl
  | cons turn rest ih =>
    obtain ⟨first, later⟩ := List.forall_mem_cons.mp kept
    cases held : keep turn with
    | true =>
      rw [List.filter_cons_of_pos held, answersAmong, answersAmong, ih later, ih later]
    | false =>
      have foreign : turn.who ≠ who := fun own => by simp [first (Or.inl own)] at held
      have quiet : turn.step.changesDesk = false := by
        cases changes : turn.step.changesDesk with
        | false => rfl
        | true => simp [first (Or.inr changes)] at held
      rw [List.filter_cons_of_neg (by simp [held]), ih later, answersAmong, if_neg foreign,
        Desk.after_of_not_changesDesk quiet]
      rfl

/-- Among nobody else a worker is answered as alone. -/
theorem answersAmong_own (own : ∀ turn ∈ turns, turn.who = who) :
    answersAmong who session turns =
      answersAlone session (turns.map fun turn => (turn.instant, turn.step)) := by
  induction turns generalizing session with
  | nil => rfl
  | cons turn rest ih =>
    obtain ⟨first, later⟩ := List.forall_mem_cons.mp own
    rw [answersAmong, if_pos first, ih later, List.map_cons, answersAlone]

theorem answers_filter (keep : Turn ι → Bool)
    (kept : ∀ turn ∈ turns, turn.who = who ∨ turn.step.changesDesk = true → keep turn = true) :
    office.answers who (turns.filter keep) = office.answers who turns := by
  rw [answers_eq_answersAmong, answers_eq_answersAmong, answersAmong_filter keep kept]

/-- The turns of one worker alone. -/
def turnsOf (who : ι) (history : History) : List (Turn ι) :=
  history.map fun (instant, step) => ⟨who, instant, step⟩

/-- While one worker takes all turns, the desk goes with it and the others wait. -/
theorem run_turnsOf (office : Office ι) (who : ι) (history : History) :
    (office.run (turnsOf who history)).session who = (office.session who).run history ∧
      ∀ other ≠ who, (office.run (turnsOf who history)).workers other = office.workers other := by
  induction history generalizing office with
  | nil => exact ⟨rfl, fun _ _ => rfl⟩
  | cons first rest ih =>
    obtain ⟨instant, step⟩ := first
    obtain ⟨here, elsewhere⟩ := ih (office.after ⟨who, instant, step⟩)
    have stepped : (office.after ⟨who, instant, step⟩).session who =
        ((office.session who).step instant step).2 := session_after_own rfl
    refine ⟨here.trans (by rw [stepped, Session.run_cons]), fun other foreign => ?_⟩
    have waits : (office.after ⟨who, instant, step⟩).workers other = office.workers other :=
      Function.update_of_ne foreign _ _
    exact (elsewhere other foreign).trans waits

/-- A new worker who takes all of its steps in one go is the session forked, and
whoever is there goes on with the session resumed. -/
theorem resume_fork {worker : ι} (foreign : who ≠ worker) (new : office.workers worker = {})
    (history : History) :
    (office.run (turnsOf worker history)).session who =
      (office.session who).resume ((office.session who).fork.run history) := by
  obtain ⟨here, elsewhere⟩ := run_turnsOf office worker history
  have forked : office.session worker = (office.session who).fork := by
    simp only [Office.session, Session.fork, new]
  rw [forked] at here
  have desk : (office.run (turnsOf worker history)).desk = ((office.session who).fork.run history).desk :=
    congrArg Session.desk here
  simp only [Office.session, Session.resume, desk, elsewhere who foreign]

/-- For any number of workers, any start and any order of their steps. A worker
among others who leave the desk alone is answered, step by step, what it is
answered alone at the desk. A worker who takes over no settings and puts none to use
is noticed by its registrations alone: with the rest of its steps left out,
everybody else is answered the same. -/
theorem workers_meet_at_desk_alone (office : Office ι) (who : ι) (turns : List (Turn ι)) :
    ((∀ turn ∈ turns, turn.who ≠ who → turn.step.changesDesk = false) →
      office.answers who turns = answersAlone (office.session who) (ownSteps who turns)) ∧
    ∀ other ≠ who, (∀ turn ∈ turns, turn.who = other → turn.step.resettles = false) →
      office.answers who (turns.filter fun turn => turn.who ≠ other || turn.step.registers) =
        office.answers who turns := by
  refine ⟨fun quiet => ?_, fun other foreign settled => ?_⟩
  · have kept : ∀ turn ∈ turns, turn.who = who ∨ turn.step.changesDesk = true →
        decide (turn.who = who) = true := by
      intro turn member needed
      by_contra foreign
      have apart : turn.who ≠ who := by simpa using foreign
      simp [apart, quiet turn member apart] at needed
    rw [← answers_filter _ kept, answers_eq_answersAmong, ownSteps]
    exact answersAmong_own fun turn member => by simpa using (List.mem_filter.mp member).2
  · refine answers_filter _ fun turn member needed => ?_
    by_cases its : turn.who = other
    · have changes : turn.step.changesDesk = true :=
        needed.resolve_left fun own => foreign (its.symm.trans own)
      simp only [Step.changesDesk, settled turn member its, Bool.or_false] at changes
      simp [changes]
    · simp [its]

/-- Two workers at a desk with tenants on different backends. Their scopes overlap
and are left crosswise, and one of them takes the other's tenant off the registry
at last. -/
theorem crossed_workers_meet_at_desk_alone :
    let desk : Desk := ⟨.tenants .sqlite ⟨[("acme", .mysql), ("globex", .postgres)]⟩, .system .utc,
      .shared {}, {}⟩
    let turns : List (Turn Bool) := [
      ⟨true, .epoch, .enter "outer" { tenant := some { identifier := "acme" } }⟩,
      ⟨false, .epoch, .enter "outer" { tenant := some { identifier := "globex" } }⟩,
      ⟨true, .epoch, .enter "inner" {}⟩, ⟨true, .epoch, .exit "outer"⟩,
      ⟨false, .epoch, .write (.limit 5)⟩, ⟨true, .epoch, .exit "inner"⟩, ⟨true, .epoch, .write (.limit 5)⟩]
    let removal : Turn Bool := ⟨false, .epoch, .unregister "acme"⟩
    (∀ turn ∈ turns, turn.who ≠ true → turn.step.changesDesk = false) ∧
      (∀ turn ∈ turns ++ [removal], turn.who = false → turn.step.resettles = false) ∧
      (Office.opened desk).answers true turns = answersAlone ⟨desk, {}⟩ (ownSteps true turns) ∧
      (Office.opened desk).answers true
          ((turns ++ [removal]).filter fun turn => turn.who ≠ false || turn.step.registers) =
        (Office.opened desk).answers true (turns ++ [removal]) := by
  intro desk turns removal
  have quiet : ∀ turn ∈ turns, turn.who ≠ true → turn.step.changesDesk = false := by decide
  have settled : ∀ turn ∈ turns ++ [removal], turn.who = false → turn.step.resettles = false := by decide
  exact ⟨quiet, settled, (workers_meet_at_desk_alone (Office.opened desk) true turns).1 quiet,
    (workers_meet_at_desk_alone (Office.opened desk) true (turns ++ [removal])).2 false (by decide) settled⟩

end

end TenantSql.SharedDesk
