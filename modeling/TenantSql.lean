import TenantSql.Session
import TenantSql.Settings.Load
import TenantSql.Proofs.SessionRun
import TenantSql.Proofs.ScopeHistory
import TenantSql.Proofs.ScopeLifetime
import TenantSql.Proofs.AcceptedSettings
import TenantSql.Proofs.SingleQuery
import TenantSql.Proofs.FirstCause
import TenantSql.Proofs.ClauseMarks
import TenantSql.Proofs.SharedDesk
import TenantSql.Proofs.BusinessDates
import TenantSql.Proofs.ExactAcceptance
import TenantSql.Proofs.DeployedSettings
import TenantSql.Proofs.BackendPrecedence
import TenantSql.Proofs.TwoReadings
import TenantSql.Proofs.FamilyMembers
import TenantSql.Proofs.AmendedSettings
import TenantSql.Proofs.FaithfulLog
import TenantSql.Proofs.OffsetNotation
import TenantSql.Proofs.SortEntries
import TenantSql.Proofs.SortNotation
import TenantSql.Proofs.ReadableClauses
import TenantSql.Proofs.ComposedClauses
import TenantSql.Proofs.WrittenSorts
import TenantSql.Proofs.WholeMinutes
import TenantSql.Proofs.PrintablePatterns
import TenantSql.Proofs.DefaultLiterals
import TenantSql.Proofs.TypeNames
import TenantSql.Proofs.TemporalPrecision
import TenantSql.Proofs.PagedRows
import TenantSql.Proofs.IdleDirectory
import TenantSql.Proofs.TenantDays
import TenantSql.Proofs.RegistryHistory
import TenantSql.Proofs.ErrorContexts
import TenantSql.Proofs.BackendNames
import TenantSql.Proofs.JoinKeywords
