import TenantSql.Proofs.ClauseText

/-! Clauses are put together from parts. A clause with its keyword is the keyword and
the embedded clause; a list of items in two parts is one part, a comma, and the other;
and an empty label is no label. -/
namespace TenantSql.ComposedClauses
open Writer SingleQuery ClauseText

variable {σ : Type} {writer : Writer σ} {state : σ} {label : Option String} {embedded : Bool}

/-- A clause that is written with its keyword, or embedded without it. -/
inductive Clause where
  | select (fields : List String) (label : Option String)
  | table (definition : Option String) (label : Option String)
  | orderBy (sorting : Sorting) (label : Option String)

namespace Clause

/-- The request for the clause. -/
def request (embedded : Bool) : Clause → Request
  | select fields label => .select fields label embedded
  | table definition label => .table definition label embedded
  | orderBy sorting label => .orderBy sorting label embedded

/-- The keyword of the clause. -/
def keyword : Clause → String
  | select .. => "SELECT"
  | table .. => "FROM"
  | orderBy .. => "ORDER BY"

/-- Whether there is nothing to write: no field, no table, no key. -/
def isBlank : Clause → Bool
  | select fields _ => fields.isEmpty
  | table definition _ => definition.isNone
  | orderBy sorting _ => sorting.keys.isEmpty

end Clause

/-- An empty label is taken for none. -/
def withoutEmpty : Option String → Option String
  | some "" => none
  | label => label

/-- The same request without its empty labels. -/
def withoutEmptyLabels : Request → Request
  | .qualified field label => .qualified field (withoutEmpty label)
  | .select fields label embedded => .select fields (withoutEmpty label) embedded
  | .table definition label embedded => .table definition (withoutEmpty label) embedded
  | .join table label column otherLabel otherColumn kind =>
    .join table (withoutEmpty label) column (withoutEmpty otherLabel) otherColumn kind
  | .orderBy sorting label embedded => .orderBy sorting (withoutEmpty label) embedded
  | request => request

/-- An outcome with its text changed; an error stays. -/
def reworded (change : String → String) (outcome : Traced String × σ) : Traced String × σ :=
  (⟨outcome.1.events, outcome.1.result.map change⟩, outcome.2)

/-- Two outcomes of one question as one, their texts with a comma between them. -/
def listed (one other : Traced String × σ) : Traced String × σ :=
  (⟨one.1.events, do return (← one.1.result) ++ ", " ++ (← other.1.result)⟩, one.2)

/-! ### Texts for the answer of one question -/

theorem withBackend_reworded (change : String → String) (text : Backend → String) :
    writer.withBackend (fun backend => pure (change (text backend))) state =
      reworded change (writer.withBackend (fun backend => pure (text backend)) state) := by
  cases answer : (writer.resolve state).1.result with
  | ok backend =>
    rw [withBackend_text _ answer, withBackend_text _ answer]
    rfl
  | error error =>
    rw [withBackend_of_error answer, withBackend_of_error answer]
    rfl

theorem withBackend_listed (one other : Backend → String) :
    writer.withBackend (fun backend => pure (one backend ++ ", " ++ other backend)) state =
      listed (writer.withBackend (fun backend => pure (one backend)) state)
        (writer.withBackend (fun backend => pure (other backend)) state) := by
  cases answer : (writer.resolve state).1.result with
  | ok backend =>
    rw [withBackend_text _ answer, withBackend_text _ answer, withBackend_text _ answer]
    rfl
  | error error =>
    rw [withBackend_of_error answer, withBackend_of_error answer, withBackend_of_error answer]
    rfl

/-! ### Lists of items -/

theorem write_select {fields : List String} (filled : fields ≠ []) :
    writer.write (.select fields label embedded) = writer.withBackend fun backend =>
      pure (Fragment.clause "SELECT" embedded (Fragment.selectList backend fields label)) := by
  rw [Writer.write, if_neg (by simpa using filled)]

theorem write_orderBy {sorting : Sorting} (filled : sorting.keys ≠ []) :
    writer.write (.orderBy sorting label embedded) = writer.withBackend fun backend =>
      pure (Fragment.clause "ORDER BY" embedded (Fragment.orderList backend sorting label)) := by
  rw [Writer.write, if_neg (by simpa using filled)]

theorem selectList_append {one other : List String} (before : one ≠ []) (behind : other ≠ [])
    (backend : Backend) (label : Option String) :
    Fragment.selectList backend (one ++ other) label =
      Fragment.selectList backend one label ++ ", " ++ Fragment.selectList backend other label := by
  rw [Fragment.selectList, List.map_append]
  exact Text.joined_append (by simpa using before) (by simpa using behind) ", "

theorem orderList_followedBy {one other : Sorting} (before : one.keys ≠ []) (behind : other.keys ≠ [])
    (backend : Backend) (label : Option String) :
    Fragment.orderList backend (one.followedBy other) label =
      Fragment.orderList backend one label ++ ", " ++ Fragment.orderList backend other label := by
  rw [Fragment.orderList, Sorting.followedBy, List.map_append]
  exact Text.joined_append (by simpa using before) (by simpa using behind) ", "

/-- Fields in two parts are listed part by part. -/
theorem write_select_append {one other : List String} (before : one ≠ []) (behind : other ≠ []) :
    writer.write (.select (one ++ other) label true) state =
      listed (writer.write (.select one label true) state) (writer.write (.select other label true) state) := by
  rw [write_select (List.append_ne_nil_of_left_ne_nil before other), write_select before, write_select behind]
  simp only [Fragment.clause, if_true, selectList_append before behind]
  exact withBackend_listed _ _

/-- Keys in two parts are listed part by part. -/
theorem write_orderBy_followedBy {one other : Sorting} (before : one.keys ≠ []) (behind : other.keys ≠ []) :
    writer.write (.orderBy (one.followedBy other) label true) state =
      listed (writer.write (.orderBy one label true) state) (writer.write (.orderBy other label true) state) := by
  have all : (one.followedBy other).keys ≠ [] := List.append_ne_nil_of_left_ne_nil before other.keys
  rw [write_orderBy all, write_orderBy before, write_orderBy behind]
  simp only [Fragment.clause, if_true, orderList_followedBy before behind]
  exact withBackend_listed _ _

/-! ### Keywords -/

/-- A clause with nothing in it has no text, with its keyword or without. -/
theorem write_blank {clause : Clause} (blank : clause.isBlank = true) (embedded : Bool) :
    writer.write (clause.request embedded) state = (pure "", state) := by
  cases clause with
  | select fields label =>
    obtain rfl := List.isEmpty_iff.mp blank
    rfl
  | table definition label =>
    obtain rfl := Option.isNone_iff_eq_none.mp blank
    rfl
  | orderBy sorting label =>
    obtain ⟨keys⟩ := sorting
    obtain rfl : keys = [] := List.isEmpty_iff.mp blank
    rfl

/-- Any other clause is the embedded one behind its keyword. -/
theorem write_behind_keyword {clause : Clause} (filled : clause.isBlank = false) :
    writer.write (clause.request false) state =
      reworded (clause.keyword ++ " " ++ ·) (writer.write (clause.request true) state) := by
  cases clause with
  | select fields label =>
    have more : fields ≠ [] := by simpa [Clause.isBlank] using filled
    simp only [Clause.request, write_select more]
    exact withBackend_reworded _ _
  | table definition label =>
    cases definition with
    | none => cases filled
    | some definition => exact withBackend_reworded _ _
  | orderBy sorting label =>
    have more : sorting.keys ≠ [] := by simpa [Clause.isBlank] using filled
    simp only [Clause.request, write_orderBy more]
    exact withBackend_reworded _ _

/-! ### Labels -/

theorem given_withoutEmpty (label : Option String) :
    Fragment.given (withoutEmpty label) = Fragment.given label := by
  unfold withoutEmpty
  split
  · rfl
  · rfl

theorem qualified_withoutEmpty (field : String) (label : Option String) :
    Fragment.qualified field (withoutEmpty label) = Fragment.qualified field label := by
  rw [Fragment.qualified, given_withoutEmpty, Fragment.qualified]

theorem tableReference_withoutEmpty (backend : Backend) (table : String) (label : Option String) :
    Fragment.tableReference backend table (withoutEmpty label) = Fragment.tableReference backend table label := by
  rw [Fragment.tableReference, given_withoutEmpty, Fragment.tableReference]

/-- Nothing that is written tells an empty label from none. -/
theorem write_withoutEmptyLabels (writer : Writer σ) (request : Request) :
    writer.write (withoutEmptyLabels request) = writer.write request := by
  cases request with
  | qualified field label => simp only [withoutEmptyLabels, Writer.write, qualified_withoutEmpty]
  | select fields label embedded =>
    simp only [withoutEmptyLabels, Writer.write, Fragment.selectList, qualified_withoutEmpty]
  | table definition label embedded =>
    cases definition with
    | none => rfl
    | some definition => simp only [withoutEmptyLabels, Writer.write, tableReference_withoutEmpty]
  | join table label column otherLabel otherColumn kind =>
    simp only [withoutEmptyLabels, Writer.write, Fragment.joinClause, tableReference_withoutEmpty,
      qualified_withoutEmpty]
  | orderBy sorting label embedded =>
    simp only [withoutEmptyLabels, Writer.write, Fragment.orderList, qualified_withoutEmpty]
  | _ => rfl

/-- For every writer and every state of its resolver. A clause without content is the
empty text in both forms; any other is, with its keyword, the keyword and the embedded
clause, and fails as that one does. A request is answered as it is without its empty
labels. A select list or an order in two parts is one part, a comma and the other, and
a part without items adds nothing. In all of this the resolver is asked the same and
left in the same state. -/
theorem clauses_compose (writer : Writer σ) (state : σ) :
    (∀ clause : Clause,
      if clause.isBlank then
        ∀ embedded, writer.write (clause.request embedded) state = (pure "", state)
      else
        writer.write (clause.request false) state =
          reworded (clause.keyword ++ " " ++ ·) (writer.write (clause.request true) state)) ∧
    (∀ request, writer.write (withoutEmptyLabels request) state = writer.write request state) ∧
    (∀ (one other : List String) (label : Option String),
      writer.write (.select (one ++ other) label true) state =
        if one.isEmpty then writer.write (.select other label true) state
        else if other.isEmpty then writer.write (.select one label true) state
        else listed (writer.write (.select one label true) state)
          (writer.write (.select other label true) state)) ∧
    (∀ (one other : Sorting) (label : Option String),
      writer.write (.orderBy (one.followedBy other) label true) state =
        if one.keys.isEmpty then writer.write (.orderBy other label true) state
        else if other.keys.isEmpty then writer.write (.orderBy one label true) state
        else listed (writer.write (.orderBy one label true) state)
          (writer.write (.orderBy other label true) state)) := by
  refine ⟨fun clause => ?_, fun request => by rw [write_withoutEmptyLabels], fun one other label => ?_,
    fun one other label => ?_⟩
  · split
    next blank => exact write_blank blank
    next filled => exact write_behind_keyword (Bool.eq_false_iff.mpr filled)
  · split
    next blank => rw [List.isEmpty_iff.mp blank, List.nil_append]
    next before =>
      split
      next blank => rw [List.isEmpty_iff.mp blank, List.append_nil]
      next behind => exact write_select_append (by simpa using before) (by simpa using behind)
  · obtain ⟨keys⟩ := one
    obtain ⟨others⟩ := other
    split
    next blank =>
      obtain rfl : keys = [] := List.isEmpty_iff.mp blank
      rfl
    next before =>
      split
      next blank =>
        obtain rfl : others = [] := List.isEmpty_iff.mp blank
        rw [Sorting.followedBy, List.append_nil]
      next behind => exact write_orderBy_followedBy (by simpa using before) (by simpa using behind)

/-- A part with an item counts even if it has no text. -/
example :
    (((Resolver.fixed .sqlite).writer (.system .utc) {} none .epoch).write (.select ([""] ++ ["a"]) none true)
      ()).1.result = .ok ", a" := rfl

end TenantSql.ComposedClauses
