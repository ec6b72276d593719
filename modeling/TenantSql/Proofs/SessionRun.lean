import TenantSql.Session

/-! Whole runs of a session. Each step changes a part of the state that can be
told from the step alone: only entering and dropping touch what is bound, and
only registrations touch the registry, as long as the resolver on the desk is
not exchanged for another one. -/
namespace TenantSql

/-- Steps in the order in which they were taken, each with the instant at
which it was. -/
abbrev History := List (Instant × Step)

/-- What a step makes of the worker who takes it. -/
def Worker.after (worker : Worker) : Step → Worker
  | .enter name scope => ⟨some scope, (name, ⟨worker.bound⟩) :: worker.guards⟩
  | .exit name =>
    match worker.guards.lookup name with
    | none => worker
    | some guard => ⟨guard.previous, worker.guards.eraseP (·.1 == name)⟩
  | _ => worker

/-- What a step makes of the registry it acts on. -/
def Registry.after (registry : Registry) : Step → Registry
  | .register identifier backend => ⟨Assoc.put identifier backend registry.entries⟩
  | .unregister identifier => ⟨Assoc.remove identifier registry.entries⟩
  | _ => registry

/-- What a step makes of the desk it is taken at, whoever takes it. -/
def Desk.after (desk : Desk) : Step → Desk
  | .register identifier backend =>
    desk.withRegistry (desk.registry.2.after (.register identifier backend))
  | .unregister identifier => desk.withRegistry (desk.registry.2.after (.unregister identifier))
  | .adopt loaded =>
    match loaded.result with
    | .ok settings => { desk with settings }
    | .error _ => desk
  | .revise change =>
    match change desk.settings with
    | .ok settings => { desk with settings }
    | .error _ => desk
  | .build =>
    match desk.settings.build.result with
    | .ok (resolver, clock) => { desk with resolver, clock, wiring := .shared desk.settings.formats }
    | .error _ => desk
  | .buildWriter =>
    match desk.settings.build.result with
    | .ok (resolver, clock) => { desk with wiring := .own resolver clock desk.settings.formats }
    | .error _ => desk
  | _ => desk

/-- The steps by which tenants come and go. -/
def Step.registers : Step → Bool
  | .register .. | .unregister _ => true
  | _ => false

/-- The steps that take over settings or put them to use. -/
def Step.resettles : Step → Bool
  | .adopt _ | .revise _ | .build | .buildWriter => true
  | _ => false

/-- The steps that can change what is on the desk. -/
def Step.changesDesk (step : Step) : Bool := step.registers || step.resettles

theorem Desk.after_of_not_changesDesk {step : Step} (quiet : step.changesDesk = false) (desk : Desk) :
    desk.after step = desk := by
  cases step <;> first | rfl | cases quiet

/-- Building from the settings is the one step that puts another resolver on
the desk. -/
def Step.exchangesResolver : Step → Bool
  | .build => true
  | _ => false

/-- The steps that put other things on the desk to write with. -/
def Step.rewires : Step → Bool
  | .build | .buildWriter => true
  | _ => false

theorem Step.keeps_resolver_of_not_rewires {step : Step} (kept : step.rewires = false) :
    step.exchangesResolver = false := by
  cases step <;> first | rfl | cases kept

namespace Session

variable {session : Session} {instant : Instant} {step : Step} {history past future : History}

/-- The session after all steps of a history. -/
def run (session : Session) (history : History) : Session :=
  history.foldl (fun session (instant, step) => (session.step instant step).2) session

@[simp] theorem run_nil : session.run [] = session := rfl

@[simp] theorem run_cons : session.run ((instant, step) :: history) =
    ((session.step instant step).2).run history := rfl

@[simp] theorem run_append : session.run (past ++ future) = (session.run past).run future :=
  List.foldl_append

/-- A property of the session that a failed step leaves alone holds after a
step if it holds of whatever a successful one hands on. -/
private theorem after_step (holds : Session → Prop) (before : holds session)
    (acts : ∀ reply after, (session.act instant step).result = .ok (reply, after) → holds after) :
    holds (session.step instant step).2 := by
  simp only [Session.step]
  cases acted : (session.act instant step).result with
  | ok outcome => exact acts outcome.1 outcome.2 acted
  | error error => exact before

private theorem step_exit {name : String} : (session.step instant (.exit name)).2 =
    session.withWorker (session.worker.after (.exit name)) := by
  cases held : session.worker.guards.lookup name <;>
    simp [Session.step, Session.act, Worker.after, held, Guard.drop, Traced.bind_of_ok, withWorker]

/-- Only entering and dropping change what a worker has bound and holds. -/
theorem step_worker : (session.step instant step).2.worker = session.worker.after step := by
  cases step with
  | enter name scope => rfl
  | exit name => rw [step_exit, withWorker]
  | _ =>
    refine after_step (fun after => after.worker = session.worker) rfl ?_
    intro reply after acted
    simp only [Session.act, Traced.bind_result_eq_ok, Traced.pure_result, Except.ok.injEq,
      Prod.mk.injEq] at acted
    grind [withDesk]

/-- What a step does to the desk does not hang on the worker who takes it, nor
on the moment. -/
theorem step_desk : (session.step instant step).2.desk = session.desk.after step := by
  cases step with
  | exit name =>
    rw [step_exit]
    rfl
  | register identifier backend => rfl
  | unregister identifier => rfl
  | adopt loaded =>
    cases given : loaded.result with
    | ok settings => simp [Session.step, Session.act, Traced.bind_of_ok given, Desk.after, given, withDesk]
    | error error => simp [Session.step, Session.act, Traced.bind_of_error given, Desk.after, given]
  | revise change =>
    cases given : change session.desk.settings with
    | ok settings => simp [Session.step, Session.act, given, Traced.bind_of_ok, Desk.after, withDesk]
    | error error => simp [Session.step, Session.act, given, Traced.bind_of_error, Desk.after]
  | build =>
    cases made : session.desk.settings.build.result with
    | ok deployed => simp [Session.step, Session.act, Traced.bind_of_ok made, Desk.after, made, withDesk]
    | error error => simp [Session.step, Session.act, Traced.bind_of_error made, Desk.after, made]
  | buildWriter =>
    cases made : session.desk.settings.build.result with
    | ok deployed => simp [Session.step, Session.act, Traced.bind_of_ok made, Desk.after, made, withDesk]
    | error error => simp [Session.step, Session.act, Traced.bind_of_error made, Desk.after, made]
  | enter name scope => rfl
  | _ =>
    refine after_step (fun after => after.desk = session.desk) rfl ?_
    intro reply after acted
    simp only [Session.act, Traced.bind_result_eq_ok, Traced.pure_result, Except.ok.injEq,
      Prod.mk.injEq] at acted
    grind

/-- As long as its resolver is not exchanged, the registry of a desk changes by
registrations alone, and its default never does. -/
theorem step_resolver {default : Backend} {registry : Registry}
    (resolver : session.desk.resolver = .tenants default registry)
    (kept : step.exchangesResolver = false) :
    (session.step instant step).2.desk.resolver = .tenants default (registry.after step) := by
  rw [step_desk]
  cases step with
  | register identifier backend => simp [Desk.after, Desk.registry, Desk.withRegistry, resolver]
  | unregister identifier => simp [Desk.after, Desk.registry, Desk.withRegistry, resolver]
  | build => cases kept
  | adopt loaded => cases given : loaded.result <;> simpa [Desk.after, Registry.after, given] using resolver
  | revise change =>
    cases given : change session.desk.settings <;> simpa [Desk.after, Registry.after, given] using resolver
  | buildWriter =>
    cases made : session.desk.settings.build.result <;>
      simpa [Desk.after, Registry.after, made] using resolver
  | _ => exact resolver

/-- What a step says of the registration of a tenant: that it is on a backend,
that it is gone, or nothing at all. -/
def verdict (identifier : String) : Step → Option (Option Backend)
  | .register other backend => if other = identifier then some (some backend) else none
  | .unregister other => if other = identifier then some none else none
  | _ => none

/-- The latest thing said of the registration of a tenant. -/
def lastVerdict (identifier : String) (history : History) : Option (Option Backend) :=
  history.reverse.findSome? fun (_, step) => verdict identifier step

/-- A registry after one step holds of each tenant what the step says, or else
what it held before. -/
theorem lookup_after (registry : Registry) (identifier : String) :
    (registry.after step).entries.lookup identifier =
      (verdict identifier step).getD (registry.entries.lookup identifier) := by
  cases step with
  | register other backend =>
    by_cases same : other = identifier
    · simp [Registry.after, verdict, same, Assoc.lookup_put_self]
    · simp [Registry.after, verdict, same, Assoc.lookup_put_of_ne (Ne.symm same)]
  | unregister other =>
    by_cases same : other = identifier
    · simp [Registry.after, verdict, same, Assoc.lookup_remove_self]
    · simp [Registry.after, verdict, same, Assoc.lookup_remove_of_ne (Ne.symm same)]
  | _ => rfl

theorem lastVerdict_append {identifier : String} :
    lastVerdict identifier (past ++ future) =
      (lastVerdict identifier future).or (lastVerdict identifier past) := by
  simp [lastVerdict, List.findSome?_append]

/-- The registry after a run holds of each tenant the latest thing said of it,
or else what it held at the start. -/
theorem run_registry {default : Backend} {registry : Registry}
    (resolver : session.desk.resolver = .tenants default registry)
    (kept : ∀ entry ∈ history, entry.2.exchangesResolver = false) :
    ∃ after : Registry, (session.run history).desk.resolver = .tenants default after ∧
      ∀ identifier, after.entries.lookup identifier =
        (lastVerdict identifier history).getD (registry.entries.lookup identifier) := by
  induction history generalizing session registry with
  | nil => exact ⟨registry, resolver, fun _ => rfl⟩
  | cons first rest ih =>
    obtain ⟨instant, step⟩ := first
    obtain ⟨stepKept, restKept⟩ := List.forall_mem_cons.mp kept
    have stepped : (session.step instant step).2.desk.resolver = .tenants default (registry.after step) :=
      step_resolver resolver stepKept
    obtain ⟨after, final, known⟩ := ih stepped restKept
    refine ⟨after, final, fun identifier => ?_⟩
    have split : lastVerdict identifier ((instant, step) :: rest) =
        (lastVerdict identifier rest).or (verdict identifier step) := by
      rw [← List.singleton_append, lastVerdict_append]
      simp [lastVerdict]
    rw [known, lookup_after, split]
    cases lastVerdict identifier rest <;> rfl

/-- Building puts what the settings make on the desk. -/
theorem step_build (instant : Instant) {resolver : Resolver} {clock : Clock}
    (made : session.desk.settings.build.result = .ok (resolver, clock)) :
    (session.step instant .build).1.result = .ok .nothing ∧
      (session.step instant .build).2.desk = { session.desk with
        resolver, clock, wiring := .shared session.desk.settings.formats } := by
  simp [Session.step, Session.act, Traced.bind_of_ok made, withDesk]

/-- Building a writer gives the desk what the settings make for writing alone. -/
theorem step_buildWriter (instant : Instant) {resolver : Resolver} {clock : Clock}
    (made : session.desk.settings.build.result = .ok (resolver, clock)) :
    (session.step instant .buildWriter).1.result = .ok .nothing ∧
      (session.step instant .buildWriter).2.desk = { session.desk with
        wiring := .own resolver clock session.desk.settings.formats } := by
  simp [Session.step, Session.act, Traced.bind_of_ok made, withDesk]

/-- The answer to a request is what the desk writes for the worker. -/
theorem step_write (session : Session) (instant : Instant) (request : Request) :
    let written := session.desk.write session.worker.bound instant request
    (session.step instant (.write request)).1 = ⟨written.events, written.result.map .text⟩ := by
  simp only [Session.step, Session.act]
  cases outcome : (session.desk.write session.worker.bound instant request).result with
  | ok text => simp [Traced.bind_of_ok outcome, Except.map]
  | error error => simp [Traced.bind_of_error outcome, Except.map]

/-- A desk goes on with its clock and its wiring until it is rewired. -/
theorem step_wiring (kept : step.rewires = false) :
    (session.step instant step).2.desk.clock = session.desk.clock ∧
      (session.step instant step).2.desk.wiring = session.desk.wiring := by
  have registry : ∀ after : Registry, (session.desk.withRegistry after).clock = session.desk.clock ∧
      (session.desk.withRegistry after).wiring = session.desk.wiring := by
    intro after
    unfold Desk.withRegistry
    split <;> exact ⟨rfl, rfl⟩
  rw [step_desk]
  cases step with
  | register identifier backend => exact registry _
  | unregister identifier => exact registry _
  | build => cases kept
  | buildWriter => cases kept
  | adopt loaded => cases given : loaded.result <;> simp [Desk.after, given]
  | revise change => cases given : change session.desk.settings <;> simp [Desk.after, given]
  | _ => exact ⟨rfl, rfl⟩

theorem run_wiring (session : Session) (kept : ∀ entry ∈ history, entry.2.rewires = false) :
    (session.run history).desk.clock = session.desk.clock ∧
      (session.run history).desk.wiring = session.desk.wiring := by
  induction history generalizing session with
  | nil => exact ⟨rfl, rfl⟩
  | cons first rest ih =>
    obtain ⟨instant, step⟩ := first
    obtain ⟨stepKept, restKept⟩ := List.forall_mem_cons.mp kept
    rw [run_cons, (ih _ restKept).1, (ih _ restKept).2]
    exact step_wiring stepKept

end Session
end TenantSql
