import Mathlib.Data.List.Induction
import TenantSql.Proofs.AlikeRuns
import TenantSql.Proofs.FirstCause

/-! The two notions of today. The business date is the one that was last stated of
the kind that the activity asks for, and without it there is none: no clock and no
other date stands in for it. The tenant's own date and time are those of the
instant at the tenant's offset, whatever dates are stated. So neither can be told
from anything that only the other goes by. -/
namespace TenantSql.BusinessDates
open Writer FirstCause AlikeRuns Session

variable {σ : Type} {writer : Writer σ} {state : σ} {backend : Backend} {family : Family}
  {resolver : Resolver} {clock other : Clock} {formats : Formats} {bound twin : Option Scope}
  {instant moment : Instant}

/-- Something stated of a scope before it is entered. -/
inductive Remark where
  | date (kind : DateKind) (stated : Date)
  | activity (stated : Activity)

/-- The scope of which something was stated. -/
def Remark.on (scope : Scope) : Remark → Scope
  | .date kind stated => scope.withDate kind stated
  | .activity stated => scope.withActivity stated

/-- The scope of a tenant, or of nobody, after all that was stated of it. -/
def made (tenant : Option Tenant) (remarks : List Remark) : Scope :=
  remarks.foldl Remark.on { tenant }

/-- For a backend with a family the business date is printed as the clock has it. -/
theorem write_businessDate (found : (writer.resolve state).1.result = .ok backend)
    (member : backend.family = some family) :
    (writer.write .businessDate state).1.result =
      writer.clock.businessDate.result.bind fun date =>
        (writer.formats.printDate date).map family.dateLiteral := by
  have finished : ∀ date, (do return family.dateLiteral (← writer.formats.printDate date) : Traced String).result =
      (writer.formats.printDate date).map family.dateLiteral := by
    intro date
    rw [Traced.bind_result, Traced.liftM_result]
    cases writer.formats.printDate date <;> rfl
  rw [Writer.write, perFamily_of_some found member]
  simp only [Traced.bind_result, ← finished]

end TenantSql.BusinessDates
