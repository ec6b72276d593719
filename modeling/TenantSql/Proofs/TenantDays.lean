import TenantSql.Proofs.CalendarDays
import TenantSql.Proofs.DefaultLiterals
import TenantSql.Proofs.FaithfulLog
import TenantSql.Proofs.ScopeHistory

/-! What day it is for a tenant. A running clock shows the instant moved by the offset in
force, the whole of it, so that the readings of two tenants at one instant are as far
apart as their offsets. Days come from the seconds by the calendar: no two offsets are
two days apart, so no two dates are more than that, and offsets a day apart never share a
date nor a literal of one. The offset in force is that of the bound tenant. -/
namespace TenantSql.TenantDays
open Session ScopeHistory CalendarDays DefaultLiterals PrintedDates
open FaithfulLog (writerOf)

variable {instant : Instant} {family family' : Family} {one other : Date}

/-- The offset of the tenant of a scope, or else the one for nobody's work. -/
def offsetIn (zone : Offset) (scope : Option Scope) : Offset :=
  ((scope.bind (·.tenant)).map (·.timezone)).getD zone

/-- Work that goes by a running clock, which has a zone for nobody's work. -/
structure Place where
  session : Session
  zone : Offset
  running : ∀ instant, (writerOf session instant).clock = (Clock.system zone).face session.worker.bound instant

namespace Place

/-- The offset in force at a place. -/
def offset (place : Place) : Offset := offsetIn place.zone place.session.worker.bound

/-- What the clock shows at a place. -/
def shown (place : Place) (instant : Instant) : ClockFace := (writerOf place.session instant).clock

/-- The answer to the request for the tenant's date. -/
def dateAnswer (place : Place) (instant : Instant) : Except Error Reply :=
  (place.session.step instant (.write .tenantDate)).1.result

/-- At the place literals are written in the default pattern, for a family of backends. -/
def WritesDefault (place : Place) (instant : Instant) (family : Family) : Prop :=
  Default (writerOf place.session instant) () family

end Place

/-- The second point in time is so many seconds after the first. -/
def SecondsOn (seconds : Int) (one other : DateTime) : Prop :=
  other.epochSeconds = one.epochSeconds + seconds ∧ other.time.nano = one.time.nano

/-! ### Points in time -/

theorem zone_eq_offsetIn (zone : Offset) (bound : Option Scope) : Clock.zone zone bound = offsetIn zone bound := by
  unfold Clock.zone offsetIn
  cases bound.bind (·.tenant) <;> rfl

theorem secondOfDay_ofSecondOfDay {second nano : Nat} (in_day : second < 86400) (in_second : nano < nanosPerSecond) :
    (Time.ofSecondOfDay second nano in_day in_second).secondOfDay = second := by
  simp only [Time.ofSecondOfDay, Time.secondOfDay]
  omega

/-- What a clock shows at an offset is the instant with the offset added. -/
theorem epochSeconds_ofInstant (instant : Instant) (offset : Offset) :
    (DateTime.ofInstant instant offset).epochSeconds = instant.seconds + offset.seconds := by
  simp only [DateTime.ofInstant, DateTime.epochSeconds, dayNumber_ofDayNumber, secondOfDay_ofSecondOfDay]
  omega

theorem secondOfDay_lt (time : Time) : time.secondOfDay < 86400 := by
  obtain ⟨hours, minutes, seconds, -⟩ := time.exists_time
  unfold Time.secondOfDay
  omega

/-- Seconds that are not two days lead on by at most two days, and a whole day of them
by at least one. -/
theorem days_of_seconds {one other : DateTime} {seconds : Int} (apart : SecondsOn seconds one other)
    (forward : 0 ≤ seconds) (short : seconds < 2 * 86400) :
    ∃ days ≤ 2, DaysOn days one.date other.date ∧ (86400 ≤ seconds → 0 < days) := by
  have before := secondOfDay_lt one.time
  have behind := secondOfDay_lt other.time
  obtain ⟨moved, -⟩ := apart
  unfold DateTime.epochSeconds at moved
  refine ⟨(other.date.dayNumber - one.date.dayNumber).toNat, by omega, daysOn_iff.mpr (by omega), by omega⟩

/-! ### Readings -/

theorem Place.shown_tenantTime (place : Place) (instant : Instant) :
    (place.shown instant).tenantTime = .ofInstant instant place.offset := by
  rw [Place.shown, place.running, Clock.face, Clock.tenantTime, zone_eq_offsetIn, Place.offset]

theorem Place.shown_tenantDate (place : Place) (instant : Instant) :
    (place.shown instant).tenantDate = (place.shown instant).tenantTime.date := by
  rw [Place.shown, place.running, Clock.face, Clock.tenantDate]

theorem secondsOn_of_offsets (instant : Instant) (one other : Place) :
    SecondsOn (other.offset.seconds - one.offset.seconds) (one.shown instant).tenantTime
      (other.shown instant).tenantTime := by
  rw [one.shown_tenantTime, other.shown_tenantTime]
  refine ⟨?_, rfl⟩
  rw [epochSeconds_ofInstant, epochSeconds_ofInstant]
  omega

theorem write_eq (session : Session) (instant : Instant) (request : Request) :
    session.desk.write session.worker.bound instant request = ((writerOf session instant).write request ()).1 := by
  unfold Desk.write writerOf
  cases session.desk.wiring <;> rfl

theorem Place.dateAnswer_eq (place : Place) (default : place.WritesDefault instant family) :
    place.dateAnswer instant =
      .ok (.text (family.dateLiteral (String.ofList (dateText (place.shown instant).tenantDate)))) := by
  rw [Place.dateAnswer, step_write, write_eq, write_date default .tenant]
  rfl

/-- Different dates have different literals, whatever the families. -/
theorem dateLiteral_ne (differ : one ≠ other) :
    family.dateLiteral (String.ofList (dateText one)) ≠ family'.dateLiteral (String.ofList (dateText other)) := by
  intro same
  obtain ⟨-, texts⟩ := (literal_inj (dateLiteral_toList ..) (dateLiteral_toList ..)).mp same
  exact differ (dateText_inj.mp texts)

/-- For any two places, at any instant, of which the first has not the greater offset.
The second clock shows the point in time that lies the difference of the offsets after
the one that the first shows, the dates are those of the points, and one comes to the
second date in at most two days. The literals of the dates, in the default pattern, are
there and read back, and where the offsets are a day or more apart, the second date is
a later day and the literals differ. The offset is that of the bound tenant or the one
for nobody's work; after nested work that is the tenant of the latest scope that is
still open, whatever other scopes are open or were. -/
theorem tenant_dates_follow_offset (instant : Instant) (one other : Place)
    (order : one.offset.seconds ≤ other.offset.seconds) :
    let gap := other.offset.seconds - one.offset.seconds
    SecondsOn gap (one.shown instant).tenantTime (other.shown instant).tenantTime ∧
    (∀ place : Place, (place.shown instant).tenantTime.epochSeconds = instant.seconds + place.offset.seconds ∧
      (place.shown instant).tenantDate = (place.shown instant).tenantTime.date) ∧
    (∃ days ≤ 2, DaysOn days (one.shown instant).tenantDate (other.shown instant).tenantDate ∧
      (86400 ≤ gap → 0 < days)) ∧
    (∀ family family', one.WritesDefault instant family → other.WritesDefault instant family' →
      ∃ literal literal', one.dateAnswer instant = .ok (.text literal) ∧
        other.dateAnswer instant = .ok (.text literal') ∧
        readDate? family literal = some (one.shown instant).tenantDate ∧
        readDate? family' literal' = some (other.shown instant).tenantDate ∧
        (86400 ≤ gap → literal ≠ literal')) ∧
    ∀ (place : Place) (start : Session) (history : History), place.session = start.run history →
      start.worker = {} → Nested history →
        place.offset = offsetIn place.zone ((openScopes history).head?.map (·.2)) := by
  intro gap
  have apart := secondsOn_of_offsets instant one other
  have dates : ∃ days ≤ 2, DaysOn days (one.shown instant).tenantDate (other.shown instant).tenantDate ∧
      (86400 ≤ gap → 0 < days) := by
    have west := one.offset.less_than_day
    have east := other.offset.less_than_day
    rw [one.shown_tenantDate, other.shown_tenantDate]
    exact days_of_seconds apart (by omega) (by omega)
  refine ⟨apart, fun place => ⟨?_, place.shown_tenantDate instant⟩, dates, ?_, ?_⟩
  · rw [place.shown_tenantTime, epochSeconds_ofInstant]
  · intro family family' default default'
    refine ⟨_, _, one.dateAnswer_eq default, other.dateAnswer_eq default', readDate_written _ _,
      readDate_written _ _, fun far => dateLiteral_ne ?_⟩
    obtain ⟨days, -, on, later⟩ := dates
    have moved := daysOn_iff.mp on
    have some := later far
    intro same
    rw [same] at moved
    omega
  · intro place start history ran idle nested
    have worker := run_worker nested idle
    rw [Place.offset, ran, worker, holding_bound]

/-- Eleven hours into the leap day of 2024: twelve hours to the west it is the day
before, on MySQL, with another tenant's scope around, and fourteen hours to the east it
is the day after, on Postgres, with a scope opened and closed within. -/
theorem leap_day_between_tenants :
    let instant : Instant := ⟨1709204400, ⟨0, by decide⟩⟩
    let west : Tenant := { identifier := "baker", backend := some .mysql, timezone := ⟨-43200, by decide⟩ }
    let east : Tenant := { identifier := "kiritimati", backend := some .postgres, timezone := ⟨50400, by decide⟩ }
    let start : Session := { desk := ⟨.tenants .sqlite .empty, .system .utc, .shared {}, {}⟩ }
    let outer : Instant × Step := (instant, .enter "outer" { tenant := some east })
    let within : History := [outer, (instant, .enter "inner" { tenant := some west })]
    let around : History := [outer, (instant, .enter "inner" {}), (instant, .exit "inner")]
    let one : Place := ⟨start.run within, .utc, fun _ => rfl⟩
    let other : Place := ⟨start.run around, .utc, fun _ => rfl⟩
    one.offset.seconds ≤ other.offset.seconds ∧ one.offset = west.timezone ∧ other.offset = east.timezone ∧
      ∃ literal literal', one.dateAnswer instant = .ok (.text literal) ∧
        other.dateAnswer instant = .ok (.text literal') ∧
        readDate? .mysql literal = some ⟨2024, 2, 28, by decide⟩ ∧
        readDate? .postgres literal' = some ⟨2024, 3, 1, by decide⟩ ∧ literal ≠ literal' := by
  intro instant west east start outer within around one other
  have order : one.offset.seconds ≤ other.offset.seconds := by decide
  have far : 86400 ≤ other.offset.seconds - one.offset.seconds := by decide
  have early : (one.shown instant).tenantDate = ⟨2024, 2, 28, by decide⟩ := by decide +kernel
  have late : (other.shown instant).tenantDate = ⟨2024, 3, 1, by decide⟩ := by decide +kernel
  obtain ⟨-, -, -, literals, scopes⟩ := tenant_dates_follow_offset instant one other order
  obtain ⟨literal, literal', written, written', read, read', differ⟩ :=
    literals .mysql .postgres ⟨rfl, .mysql, rfl, rfl⟩ ⟨rfl, .postgres, rfl, rfl⟩
  rw [early] at read
  rw [late] at read'
  exact ⟨order, scopes one start within rfl rfl ⟨rfl, rfl, trivial⟩,
    scopes other start around rfl rfl ⟨rfl, rfl, rfl, trivial⟩,
    literal, literal', written, written', read, read', differ far⟩

end TenantSql.TenantDays
