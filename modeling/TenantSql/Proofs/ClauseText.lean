import TenantSql.Proofs.SingleQuery

/-! Clauses know their backend by one thing alone, the way it writes identifiers.
Everything else in them, labels, keywords and directions, is the same for all
backends. -/
namespace TenantSql.ClauseText
open Writer SingleQuery

variable {σ : Type} {writer : Writer σ} {state : σ} {backend : Backend} {request : Request}

/-- What follows a table: its label, if one is given. -/
def labelled (label : Option String) : String :=
  ((Fragment.given label).map (" " ++ ·)).getD ""

/-- The beginning of a join. -/
def joining (kind : Join) : String :=
  (kind.keyword.map (· ++ " JOIN ")).getD "JOIN "

/-- An identifier or a clause, given how identifiers are written. Other requests
are for no clause. -/
def clauseText (written : String → String) : Request → Option String
  | .identifier name => some (written name)
  | .select fields label embedded =>
    some (if fields.isEmpty then "" else
      Fragment.clause "SELECT" embedded
        (Text.joined ", " (fields.map fun field => Fragment.qualified (written field) label)))
  | .table none _ _ => some ""
  | .table (some definition) label embedded =>
    some (Fragment.clause "FROM" embedded (written definition ++ labelled label))
  | .join table label column otherLabel otherColumn kind =>
    some (joining kind ++ (written table ++ labelled label) ++ " ON " ++
      Fragment.qualified (written column) label ++ " = " ++
      Fragment.qualified (written otherColumn) otherLabel)
  | .orderBy sorting label embedded =>
    some (if sorting.keys.isEmpty then "" else
      Fragment.clause "ORDER BY" embedded
        (Text.joined ", " (sorting.keys.map fun key =>
          Fragment.qualified (written key.property) label ++ " " ++ key.direction.keyword)))
  | _ => none

theorem tableReference_eq (table : String) (label : Option String) :
    Fragment.tableReference backend table label = backend.identifier table ++ labelled label := by
  unfold Fragment.tableReference labelled
  cases Fragment.given label <;> rfl

theorem joinClause_eq (table : String) (label : Option String) (column : String)
    (otherLabel : Option String) (otherColumn : String) (kind : Join) :
    Fragment.joinClause backend table label column otherLabel otherColumn kind =
      joining kind ++ (backend.identifier table ++ labelled label) ++ " ON " ++
        Fragment.qualified (backend.identifier column) label ++ " = " ++
        Fragment.qualified (backend.identifier otherColumn) otherLabel := by
  rw [Fragment.joinClause, tableReference_eq]
  cases named : kind.keyword <;> simp only [joining, named, Option.map_none, Option.map_some,
    Option.getD_none, Option.getD_some]

/-- Work that always goes on with a text succeeds with it. -/
theorem withBackend_text (text : Backend → String) (found : (writer.resolve state).1.result = .ok backend) :
    writer.withBackend (fun backend => pure (text backend)) state =
      (⟨(writer.resolve state).1.events ++ [.resolved backend], .ok (text backend)⟩,
        (writer.resolve state).2) := by
  simp only [withBackend, Traced.bind_of_ok found]
  rfl

/-- A clause is written with the identifiers of the backend. -/
theorem write_clause {text : String} (found : (writer.resolve state).1.result = .ok backend)
    (clause : clauseText backend.identifier request = some text) :
    (writer.write request state).1.result = .ok text := by
  cases request with
  | identifier name =>
    obtain rfl := Option.some.inj clause
    rw [Writer.write, withBackend_text _ found]
  | select fields label embedded =>
    obtain rfl := Option.some.inj clause
    cases fields with
    | nil => rfl
    | cons first rest =>
      simp only [Writer.write, List.isEmpty_cons]
      rw [if_neg Bool.false_ne_true, if_neg Bool.false_ne_true, withBackend_text _ found, Fragment.selectList]
  | table definition label embedded =>
    cases definition with
    | none =>
      obtain rfl := Option.some.inj clause
      rfl
    | some definition =>
      obtain rfl := Option.some.inj clause
      rw [Writer.write, withBackend_text _ found, tableReference_eq]
  | join table label column otherLabel otherColumn kind =>
    obtain rfl := Option.some.inj clause
    rw [Writer.write, withBackend_text _ found, joinClause_eq]
  | orderBy sorting label embedded =>
    obtain rfl := Option.some.inj clause
    obtain ⟨keys⟩ := sorting
    cases keys with
    | nil => rfl
    | cons first rest =>
      simp only [Writer.write, List.isEmpty_cons]
      rw [if_neg Bool.false_ne_true, if_neg Bool.false_ne_true, withBackend_text _ found, Fragment.orderList]
  | _ => cases clause

end TenantSql.ClauseText
