import TenantSql.Proofs.ClauseText
import TenantSql.Proofs.PrefixCode

/-! Select lists and orders can be read back. An identifier ends at the next mark of its
family, and what stands before it is known from the label, so commas, points, blanks
and keywords inside names take nothing away: the items of a clause come out of it one
by one, and no other text is taken for a clause. -/
namespace TenantSql.ReadableClauses
open Writer SingleQuery ClauseText PrefixCode

variable {σ α : Type} {backend : Backend} {family : Family} {label : Option String} {embedded : Bool}
  {keyword : String}

/-- The character on both sides of an identifier. -/
def mark : Family → Char
  | .mysql => '\x60'
  | .postgres => '"'

/-- Names that an identifier can hold so that its end is seen. -/
def Unmarked (family : Family) (name : String) : Prop := mark family ∉ name.toList

instance (family : Family) (name : String) : Decidable (Unmarked family name) :=
  inferInstanceAs (Decidable (¬ _))

/-- What stands before a name: the label with a point, if there is one, and a mark. -/
def opening (family : Family) (label : Option String) : String := Fragment.qualified family.quote label

/-- Fields as they stand in a select list. -/
def fieldCode (family : Family) (label : Option String) : PrefixCode String :=
  after (opening family label) (upTo (mark family))

/-- The keywords of directions. -/
def directionCode : PrefixCode Direction := among [.ascending, .descending] Direction.keyword (by decide)

/-- Properties and directions as they stand in an order. -/
def keyCode (family : Family) (label : Option String) : PrefixCode SortKey :=
  after (opening family label)
    (via (fun (property, direction) => ⟨property, direction⟩) (fun key => (key.property, key.direction))
      (fun _ => rfl) (fun _ => rfl) (seq (upTo (mark family)) (after " " directionCode)))

/-- The items of a clause, which is empty if there are none. -/
def clauseItems? (code : PrefixCode α) (keyword : String) (embedded : Bool) (text : String) : Option (List α) :=
  if text = "" then some []
  else (text.toList.dropPrefix? (if embedded then "" else keyword ++ " ").toList).bind code.items?

/-- The fields of a select list. -/
def fieldsIn? (family : Family) (label : Option String) (embedded : Bool) (text : String) : Option (List String) :=
  clauseItems? (fieldCode family label) "SELECT" embedded text

/-- The keys of an order. -/
def keysIn? (family : Family) (label : Option String) (embedded : Bool) (text : String) : Option (List SortKey) :=
  clauseItems? (keyCode family label) "ORDER BY" embedded text

theorem quote_eq (family : Family) : family.quote = String.singleton (mark family) := by
  cases family <;> rfl

theorem qualified_append (one other : String) (label : Option String) :
    Fragment.qualified (one ++ other) label = Fragment.qualified one label ++ other := by
  unfold Fragment.qualified
  cases Fragment.given label with
  | none => rfl
  | some shown => exact (String.append_assoc ..).symm

theorem identifier_of_family (member : backend.family = some family) (name : String) :
    backend.identifier name = family.quote ++ (name ++ String.singleton (mark family)) := by
  rw [← quote_eq, ← String.append_assoc]
  simp only [Backend.identifier, member]

theorem fieldCode_written (member : backend.family = some family) (label : Option String) :
    (fieldCode family label).written = fun name => Fragment.qualified (backend.identifier name) label := by
  funext name
  rw [identifier_of_family member, qualified_append]
  rfl

theorem keyCode_written (member : backend.family = some family) (label : Option String) :
    (keyCode family label).written = fun key =>
      Fragment.qualified (backend.identifier key.property) label ++ " " ++ key.direction.keyword := by
  funext key
  have spelled : directionCode.written key.direction = key.direction.keyword := rfl
  rw [identifier_of_family member, qualified_append]
  simp only [keyCode, opening, after_written, via_written, seq_written, upTo_written, spelled, String.append_assoc]

theorem keyCode_admits {key : SortKey} : (keyCode family label).Admits key ↔ Unmarked family key.property := by
  refine ⟨And.left, fun plain => ⟨plain, ?_⟩⟩
  show key.direction ∈ [.ascending, .descending]
  cases key.direction <;> decide

/-- A mark opens each item, so none is empty. -/
theorem item_ne_empty (code : PrefixCode α) (item : α) : (after (opening family label) code).written item ≠ "" := by
  intro empty
  have marked : opening family label = Fragment.qualified "" label ++ String.singleton (mark family) := by
    rw [← qualified_append, String.empty_append, ← quote_eq]
    rfl
  rw [after_written, marked] at empty
  simpa using congrArg String.toList empty

/-- A clause of some items is not empty. -/
theorem clause_ne_empty {code : PrefixCode α} (nonempty : ∀ item, code.written item ≠ "") {items : List α}
    (filled : items ≠ []) :
    Fragment.clause keyword embedded (Text.joined ", " (items.map code.written)) ≠ "" := by
  have body : Text.joined ", " (items.map code.written) ≠ "" := by
    cases items with
    | nil => exact absurd rfl filled
    | cons item rest =>
      cases rest with
      | nil => exact nonempty item
      | cons second rest =>
        rw [List.map_cons, Text.joined_cons (by simp)]
        simp [nonempty item]
  cases embedded with
  | true => exact body
  | false => simp [Fragment.clause]

/-- Behind the keyword items are read exactly off the clause that is written for them. -/
theorem behind_keyword_iff {code : PrefixCode α} {text : String} {items : List α} :
    (text.toList.dropPrefix? (if embedded then "" else keyword ++ " ").toList).bind code.items? = some items ↔
      items ≠ [] ∧ (∀ item ∈ items, code.Admits item) ∧
        text = Fragment.clause keyword embedded (Text.joined ", " (items.map code.written)) := by
  have clause : ∀ body, Fragment.clause keyword embedded body =
      (if embedded then "" else keyword ++ " ") ++ body := by
    intro body
    cases embedded with
    | true => exact String.empty_append.symm
    | false => rfl
  simp only [Option.bind_eq_some_iff, dropPrefix_iff, items_iff, clause, ← String.toList_inj, String.toList_append]
  constructor
  · rintro ⟨_, split, filled, admitted, rfl⟩
    exact ⟨filled, admitted, split⟩
  · rintro ⟨filled, admitted, split⟩
    exact ⟨_, split, filled, admitted, rfl⟩

/-- The items of a clause are read exactly off the clause that is written for them. -/
theorem clauseItems_iff {code : PrefixCode α} (nonempty : ∀ item, code.written item ≠ "") {text : String}
    {items : List α} :
    clauseItems? code keyword embedded text = some items ↔ (∀ item ∈ items, code.Admits item) ∧
      text = if items.isEmpty then "" else
        Fragment.clause keyword embedded (Text.joined ", " (items.map code.written)) := by
  unfold clauseItems?
  cases items with
  | nil => simp [behind_keyword_iff]
  | cons item rest =>
    have filled : item :: rest ≠ [] := List.cons_ne_nil item rest
    simp only [List.isEmpty_cons, Bool.false_eq_true, if_false]
    split
    next empty =>
      constructor
      · intro read
        cases read
      · rintro ⟨-, written⟩
        exact absurd (written.symm.trans empty) (clause_ne_empty nonempty filled)
    next => rw [behind_keyword_iff, and_iff_right filled]

section Reading

variable {writer : Writer σ} {state : σ} {text : String}

theorem fieldsIn_iff (found : (writer.resolve state).1.result = .ok backend)
    (member : backend.family = some family) {fields : List String} :
    fieldsIn? family label embedded text = some fields ↔ (∀ name ∈ fields, Unmarked family name) ∧
      (writer.write (.select fields label embedded) state).1.result = .ok text := by
  have written : (writer.write (.select fields label embedded) state).1.result =
      .ok (if fields.isEmpty then "" else Fragment.clause "SELECT" embedded
        (Text.joined ", " (fields.map (fieldCode family label).written))) := by
    rw [fieldCode_written member]
    exact write_clause found rfl
  rw [written, Except.ok.injEq]
  exact (clauseItems_iff (item_ne_empty _)).trans (and_congr_right' eq_comm)

theorem keysIn_iff (found : (writer.resolve state).1.result = .ok backend)
    (member : backend.family = some family) {keys : List SortKey} :
    keysIn? family label embedded text = some keys ↔ (∀ key ∈ keys, Unmarked family key.property) ∧
      (writer.write (.orderBy ⟨keys⟩ label embedded) state).1.result = .ok text := by
  have written : (writer.write (.orderBy ⟨keys⟩ label embedded) state).1.result =
      .ok (if keys.isEmpty then "" else Fragment.clause "ORDER BY" embedded
        (Text.joined ", " (keys.map (keyCode family label).written))) := by
    rw [keyCode_written member]
    exact write_clause found rfl
  rw [written, Except.ok.injEq]
  exact (clauseItems_iff (item_ne_empty _)).trans (and_congr (forall₂_congr fun _ _ => keyCode_admits) eq_comm)

/-- For every backend of a family, every label and both kinds of clauses. Fields without
the family's mark have a select list, and keys on such properties an order, whatever
else the names hold; from its text alone the exact fields come back, or the exact keys,
in order. No text is read for fields or keys but the one that is written for them. So
two lists never have one text. -/
theorem clauses_read_back (found : (writer.resolve state).1.result = .ok backend)
    (member : backend.family = some family) (label : Option String) (embedded : Bool) :
    (∀ fields, (∀ name ∈ fields, Unmarked family name) →
      ∃ text, (writer.write (.select fields label embedded) state).1.result = .ok text ∧
        fieldsIn? family label embedded text = some fields) ∧
    (∀ text fields, fieldsIn? family label embedded text = some fields →
      (∀ name ∈ fields, Unmarked family name) ∧
        (writer.write (.select fields label embedded) state).1.result = .ok text) ∧
    (∀ keys, (∀ key ∈ keys, Unmarked family key.property) →
      ∃ text, (writer.write (.orderBy ⟨keys⟩ label embedded) state).1.result = .ok text ∧
        keysIn? family label embedded text = some keys) ∧
    (∀ text keys, keysIn? family label embedded text = some keys →
      (∀ key ∈ keys, Unmarked family key.property) ∧
        (writer.write (.orderBy ⟨keys⟩ label embedded) state).1.result = .ok text) := by
  refine ⟨fun fields plain => ?_, fun text fields => (fieldsIn_iff found member).mp, fun keys plain => ?_,
    fun text keys => (keysIn_iff found member).mp⟩
  · obtain ⟨text, written⟩ : ∃ text, (writer.write (.select fields label embedded) state).1.result = .ok text :=
      ⟨_, write_clause found rfl⟩
    exact ⟨text, written, (fieldsIn_iff found member).mpr ⟨plain, written⟩⟩
  · obtain ⟨text, written⟩ : ∃ text, (writer.write (.orderBy ⟨keys⟩ label embedded) state).1.result = .ok text :=
      ⟨_, write_clause found rfl⟩
    exact ⟨text, written, (keysIn_iff found member).mpr ⟨plain, written⟩⟩

/-- On MariaDB, behind a label with a backtick: names with commas and blanks, a name
that spells an item, and an empty one. -/
theorem strange_names_read_back :
    let writer := (Resolver.fixed .mariadb).writer (.system .utc) {} none .epoch
    let names := ["a, b", "", "x DESC, ", "\"y\" ASC"]
    (writer.resolve ()).1.result = .ok .mariadb ∧ Backend.mariadb.family = some .mysql ∧
      (∀ name ∈ names, Unmarked .mysql name) ∧
      ∃ text, (writer.write (.select names (some "t`.") false) ()).1.result = .ok text ∧
        fieldsIn? .mysql (some "t`.") false text = some names := by
  intro writer names
  have found : (writer.resolve ()).1.result = .ok .mariadb := rfl
  have member : Backend.mariadb.family = some .mysql := rfl
  have plain : ∀ name ∈ names, Unmarked .mysql name := by decide
  obtain ⟨fields, -⟩ := clauses_read_back found member (some "t`.") false
  exact ⟨found, member, plain, fields names plain⟩

end Reading

example : keysIn? .postgres none true "\"a\" ASC, \"\" DESC" = some [⟨"a", .ascending⟩, ⟨"", .descending⟩] := by cbv

end TenantSql.ReadableClauses
