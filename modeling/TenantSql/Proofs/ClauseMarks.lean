import Mathlib.Data.List.Basic
import TenantSql.Proofs.ClauseText

/-! The clauses of the dialects differ in the marks around identifiers and in
nothing else. What a clause takes from its arguments goes into it unchanged, so if
none of them holds a mark of MySQL, the marks in its clause are exactly those it
was written with, and putting others in their place, or none, gives the clause of
another backend. -/
namespace TenantSql.ClauseMarks
open Writer ClauseText

variable {mark text keyword : String} {label : Option String} {request : Request}

/-- The mark of MySQL, a backtick. -/
def tick : Char := '\x60'

/-- The text with a mark in the place of every backtick. -/
def requoted (mark text : String) : String :=
  String.ofList (text.toList.flatMap fun c => if c = tick then mark.toList else [c])

/-- No backtick stands in the text. Double quotes may. -/
def Unmarked (text : String) : Prop := tick ∉ text.toList

instance (text : String) : Decidable (Unmarked text) := inferInstanceAs (Decidable (¬ _))

/-- Identifiers, select lists, tables, joins and orders. -/
def IsClause : Request → Bool
  | .identifier _ | .select .. | .table .. | .join .. | .orderBy .. => true
  | _ => false

/-- The text a caller gives for a join, if it is not one of the keywords. -/
def ownKeyword : Join → Option String
  | .custom text => some text
  | _ => none

/-- The texts that are given with a request for a clause. -/
def textsOf : Request → List String
  | .identifier name => [name]
  | .select fields label _ => fields ++ label.toList
  | .table definition label _ => definition.toList ++ label.toList
  | .join table label column otherLabel otherColumn kind =>
    [table, column, otherColumn] ++ label.toList ++ otherLabel.toList ++ (ownKeyword kind).toList
  | .orderBy sorting label _ => sorting.keys.map (·.property) ++ label.toList
  | _ => []

/-- A name between marks. -/
def around (mark name : String) : String := mark ++ name ++ mark

theorem requoted_append (mark one other : String) :
    requoted mark (one ++ other) = requoted mark one ++ requoted mark other := by
  simp only [requoted, String.toList_append, List.flatMap_append, String.ofList_append]

private theorem requoted_kept (kept : ∀ c ∈ text.toList, (if c = tick then mark.toList else [c]) = [c]) :
    requoted mark text = text := by
  have same : text.toList.flatMap (fun c => if c = tick then mark.toList else [c]) = text.toList :=
    (List.flatMap_congr kept).trans (List.flatMap_singleton' text.toList)
  rw [requoted, same, String.ofList_toList]

theorem requoted_of_unmarked (plain : Unmarked text) : requoted mark text = text :=
  requoted_kept fun c member => if_neg fun same : c = tick => plain (same ▸ member)

/-- Backticks in the place of backticks change nothing. -/
theorem requoted_self (text : String) : requoted "`" text = text := by
  refine requoted_kept fun c _ => ?_
  by_cases same : c = tick
  · rw [if_pos same, same]
    rfl
  · exact if_neg same

theorem requoted_around {name : String} (plain : Unmarked name) :
    requoted mark (around "`" name) = around mark name := by
  have replaced : requoted mark "`" = mark := by simp [requoted, tick]
  rw [around, requoted_append, requoted_append, replaced, requoted_of_unmarked plain, around]

theorem requoted_joined {separator : String} (plain : Unmarked separator) (texts : List String) :
    requoted mark (Text.joined separator texts) = Text.joined separator (texts.map (requoted mark)) := by
  induction texts with
  | nil => rfl
  | cons first rest ih =>
    cases rest with
    | nil => rfl
    | cons second rest =>
      simp only [Text.joined, List.map_cons] at ih ⊢
      rw [requoted_append, requoted_append, requoted_of_unmarked plain, ih]

/-- A label that counts is one that was given. -/
private theorem unmarked_of_given {shown : String} (plain : ∀ text ∈ label.toList, Unmarked text)
    (given : Fragment.given label = some shown) : Unmarked shown :=
  plain shown (by simp [(Option.filter_eq_some_iff.mp given).1])

theorem requoted_qualified (plain : ∀ text ∈ label.toList, Unmarked text) (field : String) :
    requoted mark (Fragment.qualified field label) = Fragment.qualified (requoted mark field) label := by
  unfold Fragment.qualified
  cases given : Fragment.given label with
  | none => rfl
  | some shown =>
    have point : Unmarked "." := by decide
    simp only [requoted_append, requoted_of_unmarked (unmarked_of_given plain given),
      requoted_of_unmarked point]

theorem requoted_labelled (plain : ∀ text ∈ label.toList, Unmarked text) :
    requoted mark (labelled label) = labelled label := by
  unfold labelled
  cases given : Fragment.given label with
  | none => rfl
  | some shown =>
    have blank : Unmarked " " := by decide
    simp only [Option.map_some, Option.getD_some, requoted_append, requoted_of_unmarked blank,
      requoted_of_unmarked (unmarked_of_given plain given)]

theorem requoted_field {name : String} (labels : ∀ text ∈ label.toList, Unmarked text)
    (plain : Unmarked name) :
    requoted mark (Fragment.qualified (around "`" name) label) =
      Fragment.qualified (around mark name) label := by
  rw [requoted_qualified labels, requoted_around plain]

/-- Trimming brings no character into a text. -/
theorem mem_of_mem_trim {c : Char} {text : List Char} (member : c ∈ Text.trim text) : c ∈ text := by
  have started : c ∈ Text.trimStart text := by
    simpa using (List.dropWhile_sublist _).subset (List.mem_reverse.mp member)
  exact (List.dropWhile_sublist _).subset started

theorem requoted_joining {kind : Join} (plain : ∀ text ∈ (ownKeyword kind).toList, Unmarked text) :
    requoted mark (joining kind) = joining kind := by
  refine requoted_of_unmarked ?_
  cases kind with
  | custom text =>
    have trimmed : tick ∉ Text.trim text.toList := fun member =>
      plain text (by simp [ownKeyword]) (mem_of_mem_trim member)
    simp only [joining, Join.keyword]
    split
    · decide
    · simpa [Unmarked, tick] using trimmed
  | _ => decide

theorem requoted_clause {embedded : Bool} {body : String} (plain : Unmarked (keyword ++ " ")) :
    requoted mark (Fragment.clause keyword embedded body) =
      Fragment.clause keyword embedded (requoted mark body) := by
  cases embedded with
  | true => rfl
  | false =>
    simp only [Fragment.clause, Bool.false_eq_true, if_false]
    rw [requoted_append, requoted_of_unmarked plain]

/-- A clause of a list goes by its items. -/
theorem requoted_list {α : Type} {items : List α} {embedded : Bool} {one other : α → String}
    (plain : Unmarked (keyword ++ " ")) (each : ∀ item ∈ items, requoted mark (one item) = other item) :
    requoted mark (if items.isEmpty then "" else
        Fragment.clause keyword embedded (Text.joined ", " (items.map one))) =
      if items.isEmpty then "" else
        Fragment.clause keyword embedded (Text.joined ", " (items.map other)) := by
  have comma : Unmarked ", " := by decide
  have listed : (items.map one).map (requoted mark) = items.map other := by
    rw [List.map_map]
    exact List.map_congr_left each
  split
  · rfl
  · rw [requoted_clause plain, requoted_joined comma, listed]

/-- A clause with other marks is the clause around other marks. -/
theorem clauseText_around (plain : ∀ text ∈ textsOf request, Unmarked text) (mark : String) :
    clauseText (around mark) request = (clauseText (around "`") request).map (requoted mark) := by
  have equals : Unmarked " = " := by decide
  have on : Unmarked " ON " := by decide
  cases request with
  | identifier name =>
    have named : Unmarked name := plain name (by simp [textsOf])
    simp only [clauseText, Option.map_some, requoted_around named]
  | select fields label embedded =>
    have labels : ∀ text ∈ label.toList, Unmarked text := fun text member =>
      plain text (List.mem_append_right _ member)
    have keyword : Unmarked ("SELECT" ++ " ") := by decide
    have each : ∀ name ∈ fields, requoted mark (Fragment.qualified (around "`" name) label) =
        Fragment.qualified (around mark name) label := fun name member =>
      requoted_field labels (plain name (List.mem_append_left _ member))
    simp only [clauseText, Option.map_some, requoted_list keyword each]
  | table definition label embedded =>
    cases definition with
    | none => rfl
    | some definition =>
      have labels : ∀ text ∈ label.toList, Unmarked text := fun text member =>
        plain text (List.mem_append_right _ member)
      have named : Unmarked definition := plain definition (by simp [textsOf])
      have keyword : Unmarked ("FROM" ++ " ") := by decide
      simp only [clauseText, Option.map_some, requoted_clause keyword, requoted_append,
        requoted_around named, requoted_labelled labels]
  | join table label column otherLabel otherColumn kind =>
    have labels : ∀ text ∈ label.toList, Unmarked text := fun text member =>
      plain text (by simp [textsOf, Option.mem_toList.mp member])
    have otherLabels : ∀ text ∈ otherLabel.toList, Unmarked text := fun text member =>
      plain text (by simp [textsOf, Option.mem_toList.mp member])
    have own : ∀ text ∈ (ownKeyword kind).toList, Unmarked text := fun text member =>
      plain text (by simp [textsOf, Option.mem_toList.mp member])
    have names : Unmarked table ∧ Unmarked column ∧ Unmarked otherColumn :=
      ⟨plain _ (by simp [textsOf]), plain _ (by simp [textsOf]), plain _ (by simp [textsOf])⟩
    simp only [clauseText, Option.map_some, requoted_append, requoted_joining own, requoted_around names.1,
      requoted_labelled labels, requoted_of_unmarked on, requoted_field labels names.2.1,
      requoted_of_unmarked equals, requoted_field otherLabels names.2.2]
  | orderBy sorting label embedded =>
    have labels : ∀ text ∈ label.toList, Unmarked text := fun text member =>
      plain text (List.mem_append_right _ member)
    have keyword : Unmarked ("ORDER BY" ++ " ") := by decide
    have blank : Unmarked " " := by decide
    have each : ∀ key ∈ sorting.keys,
        requoted mark (Fragment.qualified (around "`" key.property) label ++ " " ++ key.direction.keyword) =
          Fragment.qualified (around mark key.property) label ++ " " ++ key.direction.keyword := by
      intro key member
      have named : Unmarked key.property :=
        plain _ (List.mem_append_left _ (List.mem_map.mpr ⟨key, member, rfl⟩))
      have direction : Unmarked key.direction.keyword := by cases key.direction <;> decide
      rw [requoted_append, requoted_append, requoted_field labels named, requoted_of_unmarked blank,
        requoted_of_unmarked direction]
    simp only [clauseText, Option.map_some, requoted_list keyword each]
  | _ => rfl

/-- The marks a backend puts around identifiers. -/
def markOf : Backend → String
  | .mysql | .mariadb => "`"
  | .postgres => "\""
  | .sqlite => ""

theorem identifier_eq_around (backend : Backend) : backend.identifier = around (markOf backend) := by
  funext name
  cases backend with
  | sqlite => simp [Backend.identifier, Backend.family, around, markOf]
  | _ => rfl

theorem clause_has_text (clause : IsClause request = true) (written : String → String) :
    ∃ text, clauseText written request = some text := by
  cases request with
  | table definition label embedded => cases definition <;> exact ⟨_, rfl⟩
  | identifier _ | select _ _ _ | join _ _ _ _ _ _ | orderBy _ _ _ => exact ⟨_, rfl⟩
  | _ => cases clause

/-- A request for a clause, none of whose texts holds a backtick, has one text that
tells all dialects. It is what every writer gives for MySQL and for MariaDB. With
double quotes in the place of its backticks it is what every writer gives for
PostgreSQL, and without its backticks what every writer gives for SQLite. -/
theorem dialects_differ_in_marks (request : Request) (clause : IsClause request = true)
    (plain : ∀ text ∈ textsOf request, Unmarked text) :
    ∃ text, ∀ {σ : Type} (writer : Writer σ) (state : σ) (backend : Backend),
      (writer.resolve state).1.result = .ok backend →
        (writer.write request state).1.result = .ok
          (match backend with
            | .mysql | .mariadb => text
            | .postgres => requoted "\"" text
            | .sqlite => requoted "" text) := by
  obtain ⟨text, drafted⟩ := clause_has_text clause (around "`")
  refine ⟨text, fun writer state backend found => ?_⟩
  have written : (writer.write request state).1.result = .ok (requoted (markOf backend) text) := by
    refine write_clause found ?_
    rw [identifier_eq_around, clauseText_around plain, drafted, Option.map_some]
  cases backend with
  | postgres => exact written
  | sqlite => exact written
  | _ => exact written.trans (congrArg Except.ok (requoted_self text))

/-- A join with a keyword and labels of its own; a double quote in a name is no
mark. -/
theorem join_differs_in_marks :
    let request : Request := .join "m \"loan" (some "l") "id" none "loan_id" (.custom " LEFT OUTER ")
    IsClause request = true ∧ (∀ text ∈ textsOf request, Unmarked text) ∧
      ∃ text, ((Resolver.fixed .mysql).answer (.system .utc) {} none .epoch request).result = .ok text ∧
        ((Resolver.fixed .postgres).answer (.system .utc) {} none .epoch request).result =
          .ok (requoted "\"" text) ∧
        ((Resolver.fixed .sqlite).answer (.system .utc) {} none .epoch request).result =
          .ok (requoted "" text) := by
  intro request
  have plain : ∀ text ∈ textsOf request, Unmarked text := by decide
  obtain ⟨text, same⟩ := dialects_differ_in_marks request rfl plain
  exact ⟨rfl, plain, text, same ((Resolver.fixed .mysql).writer (.system .utc) {} none .epoch) () .mysql rfl,
    same ((Resolver.fixed .postgres).writer (.system .utc) {} none .epoch) () .postgres rfl,
    same ((Resolver.fixed .sqlite).writer (.system .utc) {} none .epoch) () .sqlite rfl⟩

end TenantSql.ClauseMarks
