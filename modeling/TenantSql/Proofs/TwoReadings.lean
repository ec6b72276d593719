import TenantSql.Proofs.LayeredSettings

/-! Two ways of reading one document. Its text on its own is read by the rules of
TOML; in a directory it is first taken over as a value, and then read by those of
JSON. The rules differ on numbers without a value, on what stands beside the name
of a choice, and on lists that are longer than the record they stand for. Where
none of that is in a field that is read, both come to the same settings. -/
namespace TenantSql.TwoReadings
open Settings Outcomes OrderedDocument LayeredDocument DecodedSettings LayeredSettings
open TenantSql.Tree (Convention Mismatch)

variable {value document : Value} {part : Option Value} {names : List String} {key : String} {files : Files}
  {vars : Variables} {directory text : String} {settings : Settings}

/-- Infinities and what is no number, which are null in one reading and a number in the other. -/
def NotFinite : Value → Prop
  | .float .infinite | .float .nan => True
  | _ => False

/-- What says nothing beside the name of a choice, in one reading or in the other. -/
def Hollow : Value → Prop
  | .array [] | .table [] => True
  | value => NotFinite value

/-- A choice that is written as a table of one entry, with nothing in it. -/
def HollowChoice : Value → Prop
  | .table [(_, beside)] => Hollow beside
  | _ => False

/-- What a field is read from where a record with these fields is expected. -/
def fieldAt (names : List String) (key : String) : Value → Option Value
  | .table entries => entries.lookup key
  | .array items => (names.zip items).lookup key
  | .datetime text => [(Value.datetimeField, Value.string text)].lookup key
  | _ => none

/-- A section that is read alike in both ways: as a list it is no longer than the
record, fields that may be left out are no infinities, and no choice is hollow. -/
structure SectionAlike (names free choices : List String) (value : Value) : Prop where
  fits : ∀ items, value = .array items → items.length ≤ names.length
  finite : ∀ key ∈ free, ∀ field ∈ fieldAt names key value, ¬ NotFinite field
  choice : ∀ key ∈ choices, ∀ field ∈ fieldAt names key value, ¬ HollowChoice field

/-- A document that is read alike in both ways: it is taken over as it stands, and
all its sections are read alike. -/
structure ReadAlike (document : Value) : Prop where
  kept : document.kept? = some document
  environment : ∀ value ∈ at? document ["environment"], ¬ HollowChoice value
  database : ∀ value ∈ at? document ["database"],
    SectionAlike ["backend", "url", "timezone"] ["backend", "url"] ["backend"] value
  formats : ∀ value ∈ at? document ["formats"], SectionAlike ["date", "date_time"] [] [] value
  tenants : ∀ identifier, ∀ value ∈ at? document ["tenants", identifier],
    SectionAlike ["backend", "url", "timezone"] ["backend", "url", "timezone"] ["backend"] value

theorem text_plain {value : Value} (text : value.typeName = "string") :
    ¬ NotFinite value ∧ ¬ HollowChoice value := by
  obtain ⟨content, rfl⟩ := eq_string text
  exact ⟨id, id⟩

theorem section_of_tabular {path free choices : List String} (tabular : Tabular document)
    (known : SectionPath path) (fields : ∀ key ∈ free, FieldPath (path ++ [key])) (within : choices ⊆ free) :
    ∀ value ∈ at? document path, SectionAlike names free choices value := by
  intro value found
  obtain ⟨entries, rfl⟩ := eq_table (tabular.sections path known value found)
  have texts : ∀ key ∈ free, ∀ field ∈ fieldAt names key (.table entries), field.typeName = "string" := by
    intro key member field inside
    apply tabular.fields _ (fields key member) field
    have one : at? (.table entries) [key] = entries.lookup key := at_one
    rw [at_append, Option.mem_def.mp found]
    exact one.trans inside
  constructor
  · intro items same
    cases same
  · intro key member field inside
    exact (text_plain (texts key member field inside)).1
  · intro key member field inside
    exact (text_plain (texts key (within member) field inside)).2

/-- Where sections are tables and fields are texts, nothing can be read in two ways. -/
theorem readAlike_of_tabular (kept : document.kept? = some document) (tabular : Tabular document)
    (environment : ∀ value ∈ at? document ["environment"], value.typeName = "string") : ReadAlike document := by
  constructor
  case kept => exact kept
  case environment =>
    intro value found
    exact (text_plain (environment value found)).2
  case database =>
    have known : ["backend", "url"] ⊆ ["backend", "url", "timezone"] := by simp
    refine section_of_tabular tabular SectionPath.database ?_ (by simp)
    exact fun key free => FieldPath.database (known free)
  case formats =>
    exact section_of_tabular tabular SectionPath.formats (List.forall_mem_nil _) (List.nil_subset _)
  case tenants =>
    intro identifier
    exact section_of_tabular tabular (SectionPath.tenant identifier) (fun key => FieldPath.tenant) (by simp)

/-! ### What can be looked at -/

theorem inReach_of_storable {number : Int} (storable : Value.isStorable number = true) :
    Value.isInReach number = true := by
  have small : Int.pow 2 63 = 9223372036854775808 := rfl
  have large : Int.pow 2 127 = 170141183460469231731687303715884105728 := rfl
  have larger : Int.pow 2 128 = 340282366920938463463374607431768211456 := rfl
  simp only [Value.isStorable, Value.isInReach, Bool.and_eq_true, decide_eq_true_eq, small, large, larger] at *
  omega

mutual
/-- Everything in a value that was taken over can be looked at. -/
theorem kept_readable {notFinite : Tree} (fine : notFinite.isReadable = true) :
    (value : Value) → ∀ {kept : Value}, value.kept? = some kept → (kept.tree notFinite).isReadable = true
  | .string _, _, taken | .boolean _, _, taken | .datetime _, _, taken | .float .finite, _, taken => by
    cases taken
    rfl
  | .float .infinite, _, taken | .float .nan, _, taken => by
    cases taken
    exact fine
  | .integer number, _, taken => by
    unfold Value.kept? at taken
    split at taken
    · rename_i storable
      cases taken
      rw [Value.tree, if_pos (inReach_of_storable storable)]
      rfl
    · cases taken
  | .array items, _, taken => by
    obtain ⟨kept, inside, same⟩ := Option.map_eq_some_iff.mp taken
    cases same
    exact keptItems_readable fine items inside
  | .table entries, _, taken => by
    obtain ⟨text, rfl⟩ | ⟨held, inside, rfl⟩ := kept_table taken
    · rfl
    · exact keptEntries_readable fine entries inside

theorem keptItems_readable {notFinite : Tree} (fine : notFinite.isReadable = true) : (items : List Value) →
    ∀ {kept : List Value}, Value.keptItems? items = some kept →
    Tree.itemsReadable (Value.itemTrees notFinite kept) = true
  | [], _, taken => by
    cases taken
    rfl
  | item :: rest, _, taken => by
    obtain ⟨first, one, taken⟩ := Option.bind_eq_some_iff.mp taken
    obtain ⟨others, later, same⟩ := Option.bind_eq_some_iff.mp taken
    cases same
    have head := kept_readable fine item one
    have tail := keptItems_readable fine rest later
    simp [Value.itemTrees, Tree.itemsReadable, head, tail]

theorem keptEntries_readable {notFinite : Tree} (fine : notFinite.isReadable = true) :
    (entries : List (String × Value)) → ∀ {kept : List (String × Value)},
    Value.keptEntries? entries = some kept → Tree.fieldsReadable (Value.entryTrees notFinite kept) = true
  | [], _, taken => by
    cases taken
    rfl
  | (_, value) :: rest, _, taken => by
    obtain ⟨first, one, taken⟩ := Option.bind_eq_some_iff.mp taken
    obtain ⟨others, later, same⟩ := Option.bind_eq_some_iff.mp taken
    cases same
    have head := kept_readable fine value one
    have tail := keptEntries_readable fine rest later
    simp [Value.entryTrees, Tree.fieldsReadable, head, tail]
end

/-- Everything in a value can be looked at, in either reading. -/
def Readable (value : Value) : Prop :=
  (value.tree .null).isReadable = true ∧ (value.tree .number).isReadable = true

theorem fieldsReadable_iff {fields : List (String × Tree)} :
    Tree.fieldsReadable fields = true ↔ ∀ field ∈ fields, field.2.isReadable = true := by
  induction fields with
  | nil => simp [Tree.fieldsReadable]
  | cons field rest ih => simp [Tree.fieldsReadable, ih]

theorem array_readable_iff {notFinite : Tree} {items : List Value} :
    ((Value.array items).tree notFinite).isReadable = true ↔
      ∀ item ∈ items, (item.tree notFinite).isReadable = true := by
  simp only [Value.tree, Tree.isReadable]
  induction items with
  | nil => simp [Value.itemTrees, Tree.itemsReadable]
  | cons item rest ih => simp [Value.itemTrees, Tree.itemsReadable, ih]

theorem table_readable_iff {notFinite : Tree} {entries : List (String × Value)} :
    ((Value.table entries).tree notFinite).isReadable = true ↔
      ∀ entry ∈ entries, (entry.2.tree notFinite).isReadable = true := by
  simp only [Value.tree, Tree.isReadable]
  induction entries with
  | nil => simp [Value.entryTrees, Tree.fieldsReadable]
  | cons entry rest ih => simp [Value.entryTrees, Tree.fieldsReadable, ih]

theorem entry_readable {entries : List (String × Value)} (readable : Readable (.table entries))
    {entry : String × Value} (member : entry ∈ entries) : Readable entry.2 :=
  ⟨table_readable_iff.mp readable.1 entry member, table_readable_iff.mp readable.2 entry member⟩

/-! ### Fields -/

/-- Two decoders that come to the same on a value, each in its own way of reading. -/
def AgreeOn {α : Type} (one other : Tree → Except Mismatch α) (value : Value) : Prop :=
  Agree Eq (one (value.tree .null)) (other (value.tree .number))

theorem text_agree (value : Value) : AgreeOn Tree.asText Tree.asText value := by
  unfold AgreeOn
  cases value with
  | string text => exact Agree.ok rfl
  | integer number =>
    unfold Value.tree
    split <;> exact Agree.error
  | float kind => cases kind <;> exact Agree.error
  | boolean | datetime | array | table | unreadable => exact Agree.error

theorem addsNothing_json {value : Value} (solid : ¬ Hollow value) :
    Convention.json.addsNothing (value.tree .null) = false := by
  cases value with
  | integer number =>
    unfold Value.tree
    split <;> rfl
  | float kind =>
    cases kind with
    | infinite | nan => exact absurd trivial solid
    | finite | overflowing => rfl
  | string | boolean | datetime | array | table | unreadable => rfl

theorem addsNothing_toml {value : Value} (solid : ¬ Hollow value) :
    Convention.toml.addsNothing (value.tree .number) = false := by
  cases value with
  | integer number =>
    unfold Value.tree
    split <;> rfl
  | float kind => cases kind <;> rfl
  | array items =>
    cases items with
    | nil => exact absurd trivial solid
    | cons => rfl
  | table entries =>
    cases entries with
    | nil => exact absurd trivial solid
    | cons => rfl
  | string | boolean | datetime | unreadable => rfl

/-- A choice with something beside its name is refused, whatever the name. -/
theorem choice_refused {α : Type} {convention : Convention} {beside : Tree} (names : List (String × α))
    (name : String) (adds : convention.addsNothing beside = false) :
    ∃ mismatch, Tree.asChoice convention names (.record [(name, beside)]) = .error mismatch := by
  cases named : Tree.asChoice.named names name with
  | ok choice => exact ⟨_, by simp only [Tree.asChoice, named, adds]; rfl⟩
  | error mismatch => exact ⟨mismatch, by simp only [Tree.asChoice, named]; rfl⟩

theorem choice_agree {α : Type} {names : List (String × α)} (solid : ¬ HollowChoice value) :
    AgreeOn (Tree.asChoice .json names) (Tree.asChoice .toml names) value := by
  have refused : ∀ {name : String} {one other : Tree}, Convention.json.addsNothing one = false →
      Convention.toml.addsNothing other = false →
      Agree Eq (Tree.asChoice .json names (.record [(name, one)]))
        (Tree.asChoice .toml names (.record [(name, other)])) := by
    intro name one other first second
    obtain ⟨mismatch, json⟩ := choice_refused names name first
    obtain ⟨mismatch, toml⟩ := choice_refused names name second
    rw [json, toml]
    exact Agree.error
  unfold AgreeOn
  cases value with
  | string text => exact Agree.refl _
  | integer number =>
    unfold Value.tree
    split <;> exact Agree.error
  | float kind => cases kind <;> exact Agree.error
  | boolean | array | unreadable => exact Agree.error
  | datetime text => exact refused rfl rfl
  | table entries =>
    cases entries with
    | nil => exact Agree.error
    | cons entry rest =>
      cases rest with
      | nil => exact refused (addsNothing_json solid) (addsNothing_toml solid)
      | cons => exact Agree.error

theorem defaulted_agree {α : Type} {default : α} {one other : Tree → Except Mismatch α}
    (each : ∀ value ∈ part, AgreeOn one other value) :
    Agree Eq (Tree.defaulted default one (part.map (Value.tree .null)))
      (Tree.defaulted default other (part.map (Value.tree .number))) := by
  cases part with
  | none => exact Agree.ok rfl
  | some value => exact each value rfl

theorem optional_of_ne_null {α : Type} {decode : Tree → Except Mismatch α} {tree : Tree}
    (present : tree ≠ .null) : Tree.optional decode (some tree) = (do return some (← decode tree)) := by
  cases tree with
  | null => exact absurd rfl present
  | boolean | number | unreadable | text | list | record => rfl

theorem tree_ne_null (finite : ¬ NotFinite value) : value.tree .null ≠ .null := by
  intro null
  obtain ⟨kind, rfl⟩ := eq_float null
  cases kind with
  | infinite | nan => exact finite trivial
  | finite | overflowing => cases null

theorem number_ne_null : value.tree .number ≠ .null := by
  cases value with
  | integer number =>
    unfold Value.tree
    split <;> nofun
  | float kind => cases kind <;> nofun
  | string | boolean | datetime | array | table | unreadable => nofun

theorem optional_agree {α : Type} {one other : Tree → Except Mismatch α}
    (finite : ∀ value ∈ part, ¬ NotFinite value) (each : ∀ value ∈ part, AgreeOn one other value) :
    Agree Eq (Tree.optional one (part.map (Value.tree .null)))
      (Tree.optional other (part.map (Value.tree .number))) := by
  cases part with
  | none => exact Agree.ok rfl
  | some value =>
    rw [Option.map_some, Option.map_some, optional_of_ne_null (tree_ne_null (finite value rfl)),
      optional_of_ne_null number_ne_null]
    refine (each value rfl).bind ?_
    rintro field _ rfl
    exact Agree.ok rfl

/-! ### Sections -/

theorem asRecord_of_readable {convention : Convention} {fields : List (String × Tree)}
    (readable : Tree.fieldsReadable fields = true) :
    Tree.asRecord convention names (.record fields) = .ok fun name => fields.lookup name := by
  simp only [Tree.asRecord]
  split
  · rename_i name field found
    have unread := List.find?_some found
    have read : field.isReadable = true := fieldsReadable_iff.mp readable _ (List.mem_of_find?_eq_some found)
    simp [read] at unread
  · rfl

theorem zip_itemTrees (notFinite : Tree) (names : List String) (items : List Value) (key : String) :
    (names.zip (Value.itemTrees notFinite items)).lookup key =
      ((names.zip items).lookup key).map (Value.tree notFinite) := by
  induction items generalizing names with
  | nil => simp [Value.itemTrees]
  | cons item rest ih =>
    cases names with
    | nil => rfl
    | cons name names =>
      rw [Value.itemTrees, List.zip_cons_cons, List.zip_cons_cons, List.lookup_cons, List.lookup_cons]
      split
      · rfl
      · exact ih names

theorem length_itemTrees (notFinite : Tree) (items : List Value) :
    (Value.itemTrees notFinite items).length = items.length := by
  induction items with
  | nil => rfl
  | cons item rest ih => simp [Value.itemTrees, ih]

/-- Two views of a section show the same fields, each as one way of reading has it. -/
def Views (names : List String) (value : Value) (one other : String → Option Tree) : Prop :=
  ∀ key, one key = (fieldAt names key value).map (Value.tree .null) ∧
    other key = (fieldAt names key value).map (Value.tree .number)

/-- A section can be read in both ways or in neither, and shows the same fields. -/
theorem record_agree (readable : Readable value)
    (fits : ∀ items, value = .array items → items.length ≤ names.length) :
    Agree (Views names value) (Tree.asRecord .json names (value.tree .null))
      (Tree.asRecord .toml names (value.tree .number)) := by
  cases value with
  | table entries =>
    simp only [Value.tree]
    rw [asRecord_of_readable readable.1, asRecord_of_readable readable.2]
    exact Agree.ok fun key => ⟨entryTrees_lookup .null entries key, entryTrees_lookup .number entries key⟩
  | datetime text =>
    simp only [Value.tree]
    rw [asRecord_of_readable rfl, asRecord_of_readable rfl]
    refine Agree.ok fun key => ?_
    simp only [fieldAt, List.lookup_cons, List.lookup_nil]
    split <;> exact ⟨rfl, rfl⟩
  | array items =>
    have short : items.length ≤ names.length := fits items rfl
    simp only [Value.tree, Tree.asRecord, length_itemTrees, short, decide_true, Bool.true_or, if_true]
    exact Agree.ok fun key => ⟨zip_itemTrees .null names items key, zip_itemTrees .number names items key⟩
  | integer number =>
    unfold Value.tree
    split <;> exact Agree.error
  | float kind => cases kind <;> exact Agree.error
  | string | boolean | unreadable => exact Agree.error

section Sections

variable (readable : Readable value)

include readable

theorem database_agree
    (alike : SectionAlike ["backend", "url", "timezone"] ["backend", "url"] ["backend"] value) :
    AgreeOn (decodeDatabase .json) (decodeDatabase .toml) value := by
  refine (record_agree readable alike.fits).bind fun one other views => ?_
  rw [(views "backend").1, (views "backend").2, (views "url").1, (views "url").2, (views "timezone").1,
    (views "timezone").2]
  have choice : ∀ field ∈ fieldAt ["backend", "url", "timezone"] "backend" value,
      AgreeOn (Backend.decode .json) (Backend.decode .toml) field :=
    fun field found => choice_agree (alike.choice _ (by simp) field found)
  refine (optional_agree (alike.finite _ (by simp)) choice).bind ?_
  rintro backend _ rfl
  refine (optional_agree (alike.finite _ (by simp)) fun field _ => text_agree field).bind ?_
  rintro url _ rfl
  refine (defaulted_agree fun field _ => text_agree field).bind ?_
  rintro timezone _ rfl
  exact Agree.ok rfl

theorem tenant_agree
    (alike : SectionAlike ["backend", "url", "timezone"] ["backend", "url", "timezone"] ["backend"] value) :
    AgreeOn (decodeTenant .json) (decodeTenant .toml) value := by
  refine (record_agree readable alike.fits).bind fun one other views => ?_
  rw [(views "backend").1, (views "backend").2, (views "url").1, (views "url").2, (views "timezone").1,
    (views "timezone").2]
  have choice : ∀ field ∈ fieldAt ["backend", "url", "timezone"] "backend" value,
      AgreeOn (Backend.decode .json) (Backend.decode .toml) field :=
    fun field found => choice_agree (alike.choice _ (by simp) field found)
  refine (optional_agree (alike.finite _ (by simp)) choice).bind ?_
  rintro backend _ rfl
  refine (optional_agree (alike.finite _ (by simp)) fun field _ => text_agree field).bind ?_
  rintro url _ rfl
  refine (optional_agree (alike.finite _ (by simp)) fun field _ => text_agree field).bind ?_
  rintro timezone _ rfl
  exact Agree.ok rfl

theorem formats_agree (alike : SectionAlike ["date", "date_time"] [] [] value) :
    AgreeOn (decodeFormats .json) (decodeFormats .toml) value := by
  refine (record_agree readable alike.fits).bind fun one other views => ?_
  rw [(views "date").1, (views "date").2, (views "date_time").1, (views "date_time").2]
  refine (defaulted_agree fun field _ => text_agree field).bind ?_
  rintro date _ rfl
  refine (defaulted_agree fun field _ => text_agree field).bind ?_
  rintro dateTime _ rfl
  exact Agree.ok rfl

end Sections

/-- Maps agree if what is read from each of their entries does. -/
theorem entries_agree {α : Type} {one other : Tree → Except Mismatch α} {entries : List (String × Value)}
    (each : ∀ entry ∈ entries, AgreeOn one other entry.2) :
    Agree Eq
      ((Value.entryTrees .null entries).mapM fun (name, field) => do return (name, ← one field))
      ((Value.entryTrees .number entries).mapM fun (name, field) => do return (name, ← other field)) := by
  induction entries with
  | nil => exact Agree.ok rfl
  | cons entry rest ih =>
    obtain ⟨first, later⟩ := List.forall_mem_cons.mp each
    have head : Agree Eq (do return (entry.1, ← one (entry.2.tree .null)))
        (do return (entry.1, ← other (entry.2.tree .number))) := by
      refine first.bind ?_
      rintro result _ rfl
      exact Agree.ok rfl
    simp only [Value.entryTrees, List.mapM_cons]
    refine head.bind ?_
    rintro pair _ rfl
    refine (ih later).bind ?_
    rintro pairs _ rfl
    exact Agree.ok rfl

theorem tenants_agree (ordered : Ordered value) (readable : Readable value)
    (alike : ∀ identifier, ∀ tenant ∈ under? identifier value,
      SectionAlike ["backend", "url", "timezone"] ["backend", "url", "timezone"] ["backend"] tenant) :
    AgreeOn (Tree.asMap (decodeTenant .json)) (Tree.asMap (decodeTenant .toml)) value := by
  unfold AgreeOn
  cases value with
  | table entries =>
    have distinct : Assoc.Distinct entries := ordered.1.distinct
    have each : ∀ entry ∈ entries, AgreeOn (decodeTenant .json) (decodeTenant .toml) entry.2 := by
      intro entry member
      have found : under? entry.1 (.table entries) = some entry.2 := Assoc.lookup_of_mem distinct member
      exact tenant_agree (entry_readable readable member) (alike _ _ found)
    refine (entries_agree each).bind ?_
    rintro pairs _ rfl
    exact Agree.ok rfl
  | integer number =>
    unfold Value.tree
    split <;> exact Agree.error
  | float kind => cases kind <;> exact Agree.error
  -- A date-time is a record with a text in it, and no tenant is read from a text.
  | datetime | string | boolean | array | unreadable => exact Agree.error

theorem under_readable {inner : Value} (readable : Readable value) (found : under? key value = some inner) :
    Readable inner := by
  cases value with
  | table entries => exact entry_readable readable (Assoc.mem_of_lookup found)
  | string | integer | float | boolean | datetime | array | unreadable => cases found

theorem fieldAt_of_not_list (plain : document.typeName ≠ "array") (known : key ≠ Value.datetimeField) :
    fieldAt names key document = under? key document := by
  cases document with
  | array items => exact absurd rfl plain
  | datetime text =>
    have miss : (key == Value.datetimeField) = false := by simpa using known
    simp [fieldAt, under?, List.lookup_cons, miss]
  | string | integer | float | boolean | table | unreadable => rfl

/-- Where a document is read alike, both ways come to the same settings or to none. -/
theorem decode_agree (read : Toml.read text = .ok document) (alike : ReadAlike document) :
    AgreeOn (decode .json) (decode .toml) document := by
  have ordered : Ordered document := read_ordered read
  have plain : document.typeName ≠ "array" := by
    obtain ⟨entries, rfl⟩ := read_table read
    simp [Value.typeName]
  have readable : Readable document :=
    ⟨kept_readable rfl document alike.kept, kept_readable rfl document alike.kept⟩
  have fits : ∀ {names : List String} items, document = .array items → items.length ≤ names.length := by
    rintro names items rfl
    exact absurd rfl plain
  have inside : ∀ key, ∀ value ∈ at? document [key], Readable value := by
    intro key value found
    exact under_readable readable (at_one ▸ found)
  refine (record_agree readable fits).bind fun one other views => ?_
  have place : ∀ key, key ≠ Value.datetimeField →
      one key = (at? document [key]).map (Value.tree .null) ∧
        other key = (at? document [key]).map (Value.tree .number) := by
    intro key known
    rw [at_one, ← fieldAt_of_not_list plain known]
    exact views key
  obtain ⟨environmentJson, environmentToml⟩ := place "environment" (by decide)
  obtain ⟨databaseJson, databaseToml⟩ := place "database" (by decide)
  obtain ⟨tenantsJson, tenantsToml⟩ := place "tenants" (by decide)
  obtain ⟨formatsJson, formatsToml⟩ := place "formats" (by decide)
  rw [environmentJson, environmentToml, databaseJson, databaseToml, tenantsJson, tenantsToml, formatsJson,
    formatsToml]
  have environmentAgree : ∀ value ∈ at? document ["environment"],
      AgreeOn (Tree.asChoice .json Environment.documentNames) (Tree.asChoice .toml Environment.documentNames) value :=
    fun value found => choice_agree (alike.environment value found)
  have databaseAgree := fun value found => database_agree (inside _ value found) (alike.database value found)
  have formatsAgree := fun value found => formats_agree (inside _ value found) (alike.formats value found)
  have tenantsAgree : ∀ value ∈ at? document ["tenants"],
      AgreeOn (Tree.asMap (decodeTenant .json)) (Tree.asMap (decodeTenant .toml)) value := by
    intro value found
    refine tenants_agree (entry_ordered ordered (at_one ▸ found)) (inside _ value found) ?_
    intro identifier tenant under
    apply alike.tenants identifier tenant
    rw [at_two, Option.mem_def.mp found]
    exact under
  refine (defaulted_agree environmentAgree).bind ?_
  rintro environment _ rfl
  refine (defaulted_agree databaseAgree).bind ?_
  rintro database _ rfl
  refine (defaulted_agree tenantsAgree).bind ?_
  rintro tenants _ rfl
  refine (defaulted_agree formatsAgree).bind ?_
  rintro formats _ rfl
  exact Agree.ok rfl

/-! ### Settings -/

/-- With no other file beside it, the common file is the document of the directory. -/
theorem documentOfDirectory_alone {environment : Environment}
    (there : files.isThere (commonFile directory) = true)
    (alone : files.isThere (specialFile directory environment) = false) :
    (documentOfDirectory files environment directory).result = documentOfFile files (commonFile directory) := by
  rw [documentOfDirectory_eq]
  simp only [layer, there, overlay, alone, if_true]
  cases documentOfFile files (commonFile directory) with
  | ok document => rfl
  | error error => rfl

theorem override_unset
    (unset : ∀ name ∈ ["SQLDIALECT_BACKEND", "SQLDIALECT_DATABASE_URL", "SQLDIALECT_TIMEZONE"], vars name = none)
    (settings : Settings) : override vars settings = .ok settings := by
  have backend : vars "SQLDIALECT_BACKEND" = none := unset _ (by simp)
  have url : vars "SQLDIALECT_DATABASE_URL" = none := unset _ (by simp)
  have timezone : vars "SQLDIALECT_TIMEZONE" = none := unset _ (by simp)
  unfold override
  rw [backend, url, timezone]
  rfl

theorem ofToml_eq_ok : ofToml text = .ok settings ↔
    ∃ document, Toml.read text = .ok document ∧ decode .toml (document.tree .number) = .ok settings ∧
      settings.validate = .ok () := by
  constructor
  · intro loaded
    obtain ⟨document, read, loaded⟩ := bind_eq_ok.mp loaded
    obtain ⟨decoded, taken, loaded⟩ := bind_eq_ok.mp loaded
    obtain ⟨⟨⟩, valid, same⟩ := bind_eq_ok.mp loaded
    cases same
    exact ⟨document, mapError_eq_ok.mp read, mapError_eq_ok.mp taken, valid⟩
  · rintro ⟨document, read, taken, valid⟩
    refine bind_eq_ok.mpr ⟨document, mapError_eq_ok.mpr read, ?_⟩
    refine bind_eq_ok.mpr ⟨settings, mapError_eq_ok.mpr taken, ?_⟩
    exact bind_eq_ok.mpr ⟨(), valid, rfl⟩

/-- A text that is read alike in both ways makes the same settings on its own and as
the only file of a directory with no variables set, except that those of the
directory are for the detected environment. If it makes none in one way, it makes
none in the other. -/
theorem readings_agree (there : files.isThere (commonFile directory) = true)
    (held : files.text (commonFile directory) = .ok text)
    (alone : files.isThere (specialFile directory (detectEnvironment vars)) = false)
    (unset : ∀ name ∈ ["SQLDIALECT_BACKEND", "SQLDIALECT_DATABASE_URL", "SQLDIALECT_TIMEZONE"], vars name = none)
    (alike : ∀ document, Toml.read text = .ok document → ReadAlike document) (settings : Settings) :
    (ofDirectory files vars directory).result = .ok settings ↔
      ∃ own, ofToml text = .ok own ∧ settings = { own with environment := detectEnvironment vars } := by
  constructor
  · intro loaded
    obtain ⟨document, before, made, decoded, overridden, valid⟩ := ofDirectory_eq_ok.mp loaded
    rw [documentOfDirectory_alone there alone] at made
    obtain ⟨_, value, again, read, taken⟩ := documentOfFile_eq_ok.mp made
    cases again.symm.trans held
    have same := alike value read
    cases taken.symm.trans same.kept
    cases (override_unset unset _).symm.trans overridden
    have agree := decode_agree read same
    exact ⟨before, ofToml_eq_ok.mpr ⟨_, read, agree.eq_ok_iff.mp decoded, valid⟩, rfl⟩
  · rintro ⟨own, loaded, rfl⟩
    obtain ⟨document, read, taken, valid⟩ := ofToml_eq_ok.mp loaded
    have same := alike document read
    have agree := decode_agree read same
    refine ofDirectory_eq_ok.mpr ⟨_, own, ?_, agree.eq_ok_iff.mpr taken, override_unset unset _, valid⟩
    rw [documentOfDirectory_alone there alone]
    exact documentOfFile_eq_ok.mpr ⟨text, _, held, read, same.kept⟩

/-- The text of one half makes the same settings on its own and in a directory, but
for the environment. -/
theorem half_reads_agree :
    let files := filesOf [("app/sqldialect.toml", lowerText)]
    let vars : Variables := fun name => if name = "SQLDIALECT_ENV" then some "prod" else none
    let own : Settings :=
      { database := { backend := some .mysql }, tenants := [("acme", { url := some "mysql://one" })] }
    ofToml lowerText = .ok own ∧
      (ofDirectory files vars "app").result = .ok { own with environment := .production } := by
  intro files vars own
  have loaded : ofToml lowerText = .ok own := by
    apply ok_of_toOption
    decide +kernel
  have active : detectEnvironment vars = .production := by decide +kernel
  have every : ∀ document, Toml.read lowerText = .ok document → ReadAlike document := by
    intro document read
    cases lowerText_read.symm.trans read
    exact readAlike_of_tabular rfl (half_tabular _ _) nofun
  refine ⟨loaded, (readings_agree rfl rfl ?_ ?_ every _).mpr ⟨own, loaded, ?_⟩⟩
  · rw [active]
    decide +kernel
  · simp [vars]
  · rw [active]

/-- A URL that is no number is left out in one reading and refused in the other. -/
theorem nan_url_read_once :
    let text := "[database]\nbackend = 'mysql'\nurl = nan\n"
    (ofDirectory (filesOf [("app/sqldialect.toml", text)]) (fun _ => none) "app").result =
        .ok { database := { backend := some .mysql } } ∧
      ∀ own, ofToml text ≠ .ok own := by
  intro text
  constructor
  · apply ok_of_toOption
    decide +kernel
  · intro own loaded
    have refused : (ofToml text).toOption = none := by decide +kernel
    rw [loaded] at refused
    cases refused

end TenantSql.TwoReadings
