import TenantSql.Proofs.Outcomes
import TenantSql.Proofs.SessionRun
import TenantSql.Settings.Load

/-! Settings under the variables of an environment. What variables say comes down to
an amendment, a value or nothing for each of three fields, and amendments are laid
one over another field by field. Taking the variables over in the settings
themselves, one after the other, comes to the same as making new settings: the one
thing that can fail is looked at before anything is changed. -/
namespace TenantSql.AmendedSettings
open Settings Outcomes

variable {vars earlier later : Variables} {settings : Settings} {error : Error}

/-- A value or nothing for each field of the default database. -/
structure Amendment where
  backend : Option Backend
  url : Option String
  timezone : Option String

namespace Amendment

/-- What variables say, unless they name a backend that there is not. -/
def said (vars : Variables) : Except Error Amendment :=
  let besides (backend : Option Backend) : Amendment :=
    ⟨backend, vars "SQLDIALECT_DATABASE_URL", vars "SQLDIALECT_TIMEZONE"⟩
  match vars "SQLDIALECT_BACKEND" with
  | some name => (Backend.parse name).map fun backend => besides (some backend)
  | none => .ok (besides none)

/-- The settings with the values of an amendment, and their own where it has none. -/
def appliedTo (amendment : Amendment) (settings : Settings) : Settings :=
  let database := settings.database
  { settings with database := {
      backend := amendment.backend.or database.backend
      url := amendment.url.or database.url
      timezone := amendment.timezone.getD database.timezone } }

/-- The values of one amendment, and those of another where it has none. -/
def laidOver (upper lower : Amendment) : Amendment where
  backend := upper.backend.or lower.backend
  url := upper.url.or lower.url
  timezone := upper.timezone.or lower.timezone

/-- One amendment after another is the later one laid over the earlier. -/
theorem appliedTo_laidOver (upper lower : Amendment) (settings : Settings) :
    (upper.laidOver lower).appliedTo settings = upper.appliedTo (lower.appliedTo settings) := by
  have timezone : ∀ text : String, (upper.timezone.or lower.timezone).getD text =
      upper.timezone.getD (lower.timezone.getD text) := by
    intro text
    cases upper.timezone <;> rfl
  simp only [appliedTo, laidOver, Option.or_assoc, timezone]

theorem laidOver_self (amendment : Amendment) : amendment.laidOver amendment = amendment := by
  simp only [laidOver, Option.or_self]

/-- Variables can only fail by the name of a backend. -/
theorem said_eq_error : said vars = .error error ↔ ∃ name, vars "SQLDIALECT_BACKEND" = some name ∧
    Backend.ofName? name = none ∧ error = .unknownBackend (.name (Backend.plainName name)) := by
  cases named : vars "SQLDIALECT_BACKEND" with
  | none => simp [said, named]
  | some name =>
    cases known : Backend.ofName? name with
    | none => simp [said, named, Backend.parse, known, Except.map, eq_comm]
    | some backend => simp [said, named, Backend.parse, known, Except.map]

/-- Variables that do not fail say what they hold. -/
theorem said_eq_ok {amendment : Amendment} : said vars = .ok amendment ↔
    (∀ name ∈ vars "SQLDIALECT_BACKEND", (Backend.ofName? name).isSome) ∧
      ⟨(vars "SQLDIALECT_BACKEND").bind Backend.ofName?, vars "SQLDIALECT_DATABASE_URL",
        vars "SQLDIALECT_TIMEZONE"⟩ = amendment := by
  cases named : vars "SQLDIALECT_BACKEND" with
  | none => simp [said, named]
  | some name =>
    cases known : Backend.ofName? name with
    | none => simp [said, named, Backend.parse, known, Except.map]
    | some backend => simp [said, named, Backend.parse, known, Except.map]

/-- Variables asked first and others asked where they have nothing say what the first
say over what the others do. -/
theorem said_laidOver {upper lower : Amendment} (above : said later = .ok upper)
    (below : said earlier = .ok lower) :
    said (fun key => (later key).or (earlier key)) = .ok (upper.laidOver lower) := by
  obtain ⟨known, rfl⟩ := said_eq_ok.mp above
  obtain ⟨knownBelow, rfl⟩ := said_eq_ok.mp below
  rw [said_eq_ok]
  cases named : later "SQLDIALECT_BACKEND" with
  | none => exact ⟨by simpa [named] using knownBelow, by simp [laidOver]⟩
  | some name =>
    have found : (Backend.ofName? name).isSome := known name named
    obtain ⟨backend, found⟩ := Option.isSome_iff_exists.mp found
    refine ⟨by simp [found], by simp [laidOver, found]⟩

end Amendment

open Amendment

/-- Work on settings where they stand. What was changed before a failure stays changed. -/
abbrev InPlace := ExceptT Error (StateM Settings)

/-- Assigns to fields of the default database. -/
def assign (change : DatabaseSettings → DatabaseSettings) : InPlace Unit :=
  modify fun settings => { settings with database := change settings.database }

/-- Takes over the variables that cannot fail. -/
def takeTexts (vars : Variables) : InPlace Unit := do
  match vars "SQLDIALECT_DATABASE_URL" with
  | some url => assign ({ · with url := some url })
  | none => pure ()
  match vars "SQLDIALECT_TIMEZONE" with
  | some timezone => assign ({ · with timezone })
  | none => pure ()

/-- Takes the variables over one after the other, each as soon as it is read. -/
def takeOver (vars : Variables) : InPlace Unit := do
  match vars "SQLDIALECT_BACKEND" with
  | some name =>
    let backend ← MonadExcept.ofExcept (Backend.parse name)
    assign ({ · with backend := some backend })
  | none => pure ()
  takeTexts vars

/-- How taking the variables over comes out, and what the settings are then. -/
def taken (vars : Variables) (settings : Settings) : Except Error Unit × Settings :=
  (takeOver vars).run.run settings

/-- New settings are made by what the variables say. -/
theorem override_eq (vars : Variables) (settings : Settings) :
    override vars settings = (said vars).map (·.appliedTo settings) := by
  cases named : vars "SQLDIALECT_BACKEND" with
  | none => simp [override, said, named, Except.map, Amendment.appliedTo, bind, Except.bind, pure, Except.pure]
  | some name =>
    cases known : Backend.ofName? name <;>
      simp [override, said, named, Backend.parse, known, Except.map, Amendment.appliedTo, Functor.map, bind,
        Except.bind, pure, Except.pure]

/-- Settings are changed where they stand by what the variables say, and not at all
if these fail: nothing is assigned before the backend is read. -/
theorem taken_eq (vars : Variables) (settings : Settings) :
    taken vars settings = match said vars with
      | .ok amendment => (.ok (), amendment.appliedTo settings)
      | .error error => (.error error, settings) := by
  have texts : ∀ backend : Option Backend,
      (takeTexts vars).run.run (Amendment.appliedTo ⟨backend, none, none⟩ settings) =
        (.ok (), Amendment.appliedTo
          ⟨backend, vars "SQLDIALECT_DATABASE_URL", vars "SQLDIALECT_TIMEZONE"⟩ settings) := by
    intro backend
    unfold takeTexts
    cases vars "SQLDIALECT_DATABASE_URL" <;> cases vars "SQLDIALECT_TIMEZONE" <;> rfl
  cases named : vars "SQLDIALECT_BACKEND" with
  | none =>
    simp only [taken, takeOver, said, named]
    exact texts none
  | some name =>
    cases known : Backend.ofName? name with
    | none =>
      simp only [taken, takeOver, said, named, Backend.parse, known]
      rfl
    | some backend =>
      simp only [taken, takeOver, said, named, Backend.parse, known]
      exact texts (some backend)

/-- For all variables and all settings. Taking the variables over in the settings
themselves fails exactly if they name a backend that there is not, and the settings
are then what they were; else each of three fields is replaced whose key is there,
and nothing else. It comes to the same as making new settings, and a session that
revises its settings by the variables is changed in these settings alone. Doing it
twice is doing it once. Variables taken over after others come to the same as both at
once, with the later ones asked first. -/
theorem variables_amend_as_a_whole (vars later : Variables) (settings : Settings) :
    (∀ error, (taken vars settings).1 = .error error ↔ ∃ name, vars "SQLDIALECT_BACKEND" = some name ∧
      Backend.ofName? name = none ∧ error = .unknownBackend (.name (Backend.plainName name))) ∧
    (∀ error, (taken vars settings).1 = .error error → (taken vars settings).2 = settings) ∧
    ((taken vars settings).1 = .ok () → (taken vars settings).2 = { settings with
      database := {
        backend := (vars "SQLDIALECT_BACKEND").elim settings.database.backend Backend.ofName?
        url := (vars "SQLDIALECT_DATABASE_URL").or settings.database.url
        timezone := (vars "SQLDIALECT_TIMEZONE").getD settings.database.timezone } }) ∧
    override vars settings = (taken vars settings).1.map (fun _ => (taken vars settings).2) ∧
    (∀ (session : Session) (instant : Instant), session.desk.settings = settings →
      session.step instant (.revise (override vars)) =
        (⟨[], (taken vars settings).1.map fun _ => .settings (taken vars settings).2⟩,
          session.withDesk { session.desk with settings := (taken vars settings).2 })) ∧
    taken vars (taken vars settings).2 = taken vars settings ∧
    ((taken vars settings).1 = .ok () → (taken later (taken vars settings).2).1 = .ok () →
      taken (fun key => (later key).or (vars key)) settings = taken later (taken vars settings).2) := by
  have made : override vars settings = (taken vars settings).1.map (fun _ => (taken vars settings).2) := by
    rw [override_eq, taken_eq]
    cases said vars <;> rfl
  refine ⟨?_, ?_, ?_, made, ?_, ?_, ?_⟩
  · intro error
    rw [← said_eq_error, taken_eq]
    cases said vars <;> simp
  · intro error failed
    rw [taken_eq] at failed ⊢
    cases outcome : said vars with
    | ok amendment => simp [outcome] at failed
    | error => rfl
  · intro succeeded
    rw [taken_eq] at succeeded ⊢
    cases outcome : said vars with
    | error => simp [outcome] at succeeded
    | ok amendment =>
      obtain ⟨known, rfl⟩ := said_eq_ok.mp outcome
      have backend : ((vars "SQLDIALECT_BACKEND").bind Backend.ofName?).or settings.database.backend =
          (vars "SQLDIALECT_BACKEND").elim settings.database.backend Backend.ofName? := by
        cases named : vars "SQLDIALECT_BACKEND" with
        | none => rfl
        | some name =>
          obtain ⟨backend, found⟩ := Option.isSome_iff_exists.mp (known name named)
          simp [found]
      simp only [Amendment.appliedTo, backend]
  · intro session instant held
    subst held
    simp only [Session.step, Session.act, override_eq, taken_eq]
    cases said vars <;> rfl
  · rw [taken_eq, taken_eq]
    cases said vars with
    | error => rfl
    | ok amendment => simp only [← appliedTo_laidOver, laidOver_self]
  · rw [taken_eq, taken_eq, taken_eq]
    intro succeeded succeededLater
    cases below : said vars with
    | error => simp [below] at succeeded
    | ok lower =>
      cases above : said later with
      | error => simp [above] at succeededLater
      | ok upper => simp only [said_laidOver above below, appliedTo_laidOver]

/-- A backend and a timezone first, then a URL and another backend under a name in other
letters: the timezone stays, and the later backend is the one in place. -/
theorem later_variables_over_earlier :
    let vars : Variables := fun key =>
      [("SQLDIALECT_BACKEND", "mysql"), ("SQLDIALECT_TIMEZONE", "+05:30")].lookup key
    let later : Variables := fun key =>
      [("SQLDIALECT_BACKEND", " PG"), ("SQLDIALECT_DATABASE_URL", "mysql://db/app")].lookup key
    let settings : Settings := { database := { timezone := "GMT" } }
    (taken vars settings).1 = .ok () ∧ (taken later (taken vars settings).2).1 = .ok () ∧
      taken (fun key => (later key).or (vars key)) settings = taken later (taken vars settings).2 ∧
      (taken later (taken vars settings).2).2.database =
        ⟨some .postgres, some "mysql://db/app", "+05:30"⟩ := by
  intro vars later settings
  have earlier : (taken vars settings).1 = .ok () := by rfl
  have second : (taken later (taken vars settings).2).1 = .ok () := by rfl
  obtain ⟨-, -, -, -, -, -, both⟩ := variables_amend_as_a_whole vars later settings
  exact ⟨earlier, second, both earlier second, by rfl⟩

end TenantSql.AmendedSettings
