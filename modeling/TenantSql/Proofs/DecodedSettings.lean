import TenantSql.Proofs.LayeredDocument

/-! Settings read from a document, field by field. Where no section is written as
a list, each field is read from one place of the document, whether or not the
section around it is there. -/
namespace TenantSql.DecodedSettings
open Settings Outcomes OrderedDocument LayeredDocument
open TenantSql.Tree (Mismatch)

variable {value document : Value} {part : Option Value} {key identifier : String} {settings : Settings}
  {database : DatabaseSettings} {tenant : TenantSettings} {formats : Formats}

/-- What a field of a section is read from. The section itself may be missing. -/
def fieldOf (part : Option Value) (key : String) : Option Tree :=
  (part.bind (under? key)).map (Value.tree .null)

theorem entryTrees_lookup (notFinite : Tree) (entries : List (String × Value)) (key : String) :
    (Value.entryTrees notFinite entries).lookup key = (entries.lookup key).map (Value.tree notFinite) := by
  induction entries with
  | nil => rfl
  | cons entry rest ih =>
    obtain ⟨name, value⟩ := entry
    by_cases same : key = name
    · subst same
      simp [Value.entryTrees]
    · have miss : (key == name) = false := by simpa using same
      simp [Value.entryTrees, List.lookup_cons, miss, ih]

/-- The fields of a record are the entries of the table it is read from. -/
theorem asRecord_field {names : List String} {field : String → Option Tree}
    (taken : Tree.asRecord .json names (value.tree .null) = .ok field) (plain : value.typeName ≠ "array")
    (known : key ≠ Value.datetimeField) : field key = fieldOf (some value) key := by
  cases value with
  | table entries =>
    unfold Value.tree Tree.asRecord at taken
    dsimp only at taken
    split at taken
    · cases taken
    · cases taken
      exact entryTrees_lookup .null entries key
  | datetime text =>
    unfold Value.tree Tree.asRecord at taken
    dsimp only at taken
    split at taken
    · cases taken
    · cases taken
      have miss : (key == Value.datetimeField) = false := by simpa using known
      simp [List.lookup_cons, miss, fieldOf, under?]
  | array items => exact absurd rfl plain
  | integer number =>
    unfold Value.tree at taken
    split at taken <;> cases taken
  | float kind => cases kind <;> cases taken
  | string | boolean | unreadable => cases taken

/-- A missing section is read like an empty one if its defaults are those of its fields. -/
theorem section_fields {α : Type} {names : List String} {default result : α}
    {next : (String → Option Tree) → Except Mismatch α} (plain : ∀ value ∈ part, value.typeName ≠ "array")
    (taken : Tree.defaulted default (fun tree => tree.asRecord .json names >>= next)
      (part.map (Value.tree .null)) = .ok result)
    (defaults : next (fun _ => none) = .ok default) :
    ∃ field, (∀ key, key ≠ Value.datetimeField → field key = fieldOf part key) ∧ next field = .ok result := by
  cases part with
  | none =>
    -- No section at all: as if every field of it were missing.
    refine ⟨fun _ => none, fun _ _ => rfl, ?_⟩
    rw [defaults]
    exact taken
  | some value =>
    obtain ⟨field, record, taken⟩ := bind_eq_ok.mp taken
    exact ⟨field, fun key known => asRecord_field record (plain value rfl) known, taken⟩

theorem decodeDatabase_fields (plain : ∀ value ∈ part, value.typeName ≠ "array")
    (taken : Tree.defaulted {} (decodeDatabase .json) (part.map (Value.tree .null)) = .ok database) :
    Tree.optional (Backend.decode .json) (fieldOf part "backend") = .ok database.backend ∧
    Tree.optional Tree.asText (fieldOf part "url") = .ok database.url ∧
    Tree.defaulted "UTC" Tree.asText (fieldOf part "timezone") = .ok database.timezone := by
  obtain ⟨field, same, taken⟩ := section_fields plain taken rfl
  obtain ⟨backend, name, taken⟩ := bind_eq_ok.mp taken
  obtain ⟨url, address, taken⟩ := bind_eq_ok.mp taken
  obtain ⟨timezone, zone, taken⟩ := bind_eq_ok.mp taken
  cases taken
  rw [← same "backend" (by decide), ← same "url" (by decide), ← same "timezone" (by decide)]
  exact ⟨name, address, zone⟩

theorem decodeTenant_fields (plain : value.typeName ≠ "array")
    (taken : decodeTenant .json (value.tree .null) = .ok tenant) :
    Tree.optional (Backend.decode .json) (fieldOf (some value) "backend") = .ok tenant.backend ∧
    Tree.optional Tree.asText (fieldOf (some value) "url") = .ok tenant.url ∧
    Tree.optional Tree.asText (fieldOf (some value) "timezone") = .ok tenant.timezone := by
  obtain ⟨field, record, taken⟩ := bind_eq_ok.mp taken
  have same : ∀ key, key ≠ Value.datetimeField → field key = fieldOf (some value) key :=
    fun key known => asRecord_field record plain known
  obtain ⟨backend, name, taken⟩ := bind_eq_ok.mp taken
  obtain ⟨url, address, taken⟩ := bind_eq_ok.mp taken
  obtain ⟨timezone, zone, taken⟩ := bind_eq_ok.mp taken
  cases taken
  rw [← same "backend" (by decide), ← same "url" (by decide), ← same "timezone" (by decide)]
  exact ⟨name, address, zone⟩

theorem decodeFormats_fields (plain : ∀ value ∈ part, value.typeName ≠ "array")
    (taken : Tree.defaulted {} (decodeFormats .json) (part.map (Value.tree .null)) = .ok formats) :
    Tree.defaulted "%Y-%m-%d" Tree.asText (fieldOf part "date") = .ok formats.date ∧
    Tree.defaulted "%Y-%m-%d %H:%M:%S" Tree.asText (fieldOf part "date_time") = .ok formats.dateTime := by
  obtain ⟨field, same, taken⟩ := section_fields plain taken rfl
  obtain ⟨date, one, taken⟩ := bind_eq_ok.mp taken
  obtain ⟨dateTime, other, taken⟩ := bind_eq_ok.mp taken
  cases taken
  rw [← same "date" (by decide), ← same "date_time" (by decide)]
  exact ⟨one, other⟩

/-! ### Fields -/

theorem asText_tree {value : Value} {text : String} (taken : (value.tree .null).asText = .ok text) :
    textIn? value = some text := by
  cases value with
  | string content =>
    cases taken
    rfl
  | integer number =>
    unfold Value.tree at taken
    split at taken <;> cases taken
  | float kind => cases kind <;> cases taken
  | boolean | datetime | array | table | unreadable => cases taken

theorem defaulted_text {default text : String}
    (taken : Tree.defaulted default Tree.asText (part.map (Value.tree .null)) = .ok text) :
    text = (part.bind textIn?).getD default := by
  cases part with
  | none =>
    cases taken
    rfl
  | some value =>
    have held : textIn? value = some text := asText_tree taken
    simp [held]

/-- An optional field is there if a value is, unless that value is no number. -/
theorem optional_of_tree {α : Type} {decode : Tree → Except Mismatch α} {result : Option α}
    (taken : Tree.optional decode (part.map (Value.tree .null)) = .ok result) :
    (part.map (Value.tree .null) = none ∨ part.map (Value.tree .null) = some .null) ∧ result = none ∨
    ∃ value inside, part = some value ∧ decode (value.tree .null) = .ok inside ∧ result = some inside := by
  unfold Tree.optional at taken
  split at taken
  · rename_i absent
    cases taken
    exact Or.inl ⟨Or.inl absent, rfl⟩
  · rename_i null
    cases taken
    exact Or.inl ⟨Or.inr null, rfl⟩
  · rename_i tree present found
    obtain ⟨value, here, rfl⟩ := Option.map_eq_some_iff.mp found
    obtain ⟨inside, read, same⟩ := bind_eq_ok.mp taken
    cases same
    exact Or.inr ⟨value, inside, here, read, rfl⟩

theorem textIn_of_null
    (nothing : part.map (Value.tree .null) = none ∨ part.map (Value.tree .null) = some .null) :
    part.bind textIn? = none := by
  cases part with
  | none => rfl
  | some value =>
    cases value with
    | string text => simp [Value.tree] at nothing
    | integer | float | boolean | datetime | array | table | unreadable => rfl

theorem optional_text {text : Option String}
    (taken : Tree.optional Tree.asText (part.map (Value.tree .null)) = .ok text) :
    text = part.bind textIn? := by
  rcases optional_of_tree taken with ⟨nothing, rfl⟩ | ⟨value, inside, rfl, read, rfl⟩
  · exact (textIn_of_null nothing).symm
  · exact (asText_tree read).symm

theorem decode_named {text : String} {backend : Backend}
    (taken : Backend.decode .json (.text text) = .ok backend) :
    Backend.documentNames.lookup text = some backend :=
  Tree.asChoice.named_eq_ok.mp taken

theorem optional_named {backend : Option Backend} (text : ∀ value ∈ part, value.typeName = "string")
    (taken : Tree.optional (Backend.decode .json) (part.map (Value.tree .null)) = .ok backend) :
    backend.map some = (part.bind textIn?).map fun name => Backend.documentNames.lookup name := by
  rcases optional_of_tree taken with ⟨nothing, rfl⟩ | ⟨value, inside, rfl, read, rfl⟩
  · rw [textIn_of_null nothing]
    rfl
  · obtain ⟨name, rfl⟩ := eq_string (text value rfl)
    have found : Backend.documentNames.lookup name = some inside := decode_named read
    simp [textIn?, found]

theorem eq_float {value : Value} (null : value.tree .null = .null) : ∃ kind, value = .float kind := by
  cases value with
  | float kind => exact ⟨kind, rfl⟩
  | integer number =>
    unfold Value.tree at null
    split at null <;> cases null
  | string | boolean | datetime | array | table | unreadable => cases null

/-! ### Sections -/

/-- A map holds what is read from the entries of a table, each under its own key. -/
theorem mapped_entries {α : Type} {decode : Tree → Except Mismatch α} {entries : List (String × Value)}
    {pairs : List (String × α)}
    (taken : (Value.entryTrees .null entries).mapM (fun (name, field) => return (name, ← decode field)) =
      .ok pairs) :
    pairs.map (·.1) = entries.map (·.1) ∧
      ∀ key, Option.Rel (fun value result => decode (value.tree .null) = .ok result) (entries.lookup key)
        (pairs.lookup key) := by
  induction entries generalizing pairs with
  | nil =>
    cases taken
    exact ⟨rfl, fun _ => Option.Rel.none⟩
  | cons entry rest ih =>
    obtain ⟨name, value⟩ := entry
    rw [Value.entryTrees, List.mapM_cons] at taken
    obtain ⟨pair, first, taken⟩ := bind_eq_ok.mp taken
    obtain ⟨others, later, taken⟩ := bind_eq_ok.mp taken
    obtain ⟨result, one, first⟩ := bind_eq_ok.mp first
    cases first
    cases taken
    obtain ⟨keys, found⟩ := ih later
    refine ⟨by simp [keys], fun key => ?_⟩
    by_cases same : key = name
    · subst same
      rw [List.lookup_cons_self, List.lookup_cons_self]
      exact Option.Rel.some one
    · have miss : (key == name) = false := by simpa using same
      rw [List.lookup_cons, List.lookup_cons, miss]
      exact found key

/-- The tenants are the entries of their section, read one by one. -/
theorem tenants_entries {tenants : { map : List (String × TenantSettings) // Assoc.Distinct map }}
    (ordered : ∀ value ∈ part, Ordered value)
    (taken : Tree.defaulted ⟨[], List.nodup_nil⟩ (Tree.asMap (decodeTenant .json))
      (part.map (Value.tree .null)) = .ok tenants)
    (identifier : String) :
    Option.Rel (fun value tenant => decodeTenant .json (value.tree .null) = .ok tenant)
      (part.bind (under? identifier)) (tenants.1.lookup identifier) := by
  cases part with
  | none =>
    cases taken
    exact Option.Rel.none
  | some value =>
    change Tree.asMap (decodeTenant .json) (value.tree .null) = .ok tenants at taken
    cases value with
    | table entries =>
      obtain ⟨pairs, each, same⟩ := bind_eq_ok.mp taken
      cases same
      obtain ⟨keys, found⟩ := mapped_entries each
      have distinct : Assoc.Distinct pairs := by
        have ascending := (table_ordered_iff.mp (ordered _ rfl)).1
        unfold Assoc.Distinct
        rw [keys]
        exact ascending.distinct
      rw [Assoc.lookup_ofList distinct]
      exact found identifier
    | integer number =>
      unfold Value.tree at taken
      split at taken <;> cases taken
    | float kind => cases kind <;> cases taken
    -- A date-time is a record with a text in it, and no tenant is read from a text.
    | datetime | string | boolean | unreadable | array => cases taken

/-- What is read at a path of a document. -/
def written (document : Value) (path : List String) : Option Tree := (at? document path).map (Value.tree .null)

theorem at_one : at? document [key] = under? key document := by
  simp [at?]

theorem at_two {outer inner : String} :
    at? document [outer, inner] = (at? document [outer]).bind (under? inner) := by
  simp [at?]

theorem at_append (path rest : List String) :
    at? document (path ++ rest) = (at? document path).bind (at? · rest) := by
  induction path generalizing document with
  | nil => rfl
  | cons key path ih => simp [at?, Option.bind_assoc, ih]

theorem fieldOf_at (path : List String) :
    fieldOf (at? document path) key = written document (path ++ [key]) := by
  simp [fieldOf, written, at_append, at_one]

/-- The sections of settings are read from the entries of the document. -/
theorem decode_sections (plain : document.typeName ≠ "array")
    (taken : decode .json (document.tree .null) = .ok settings) :
    Tree.defaulted {} (decodeDatabase .json) (written document ["database"]) = .ok settings.database ∧
    Tree.defaulted ⟨[], List.nodup_nil⟩ (Tree.asMap (decodeTenant .json)) (written document ["tenants"]) =
      .ok ⟨settings.tenants, settings.distinct⟩ ∧
    Tree.defaulted {} (decodeFormats .json) (written document ["formats"]) = .ok settings.formats := by
  obtain ⟨field, record, taken⟩ := bind_eq_ok.mp taken
  have place : ∀ key, key ≠ Value.datetimeField → field key = written document [key] := by
    intro key known
    rw [asRecord_field record plain known, written, at_one]
    rfl
  obtain ⟨environment, -, taken⟩ := bind_eq_ok.mp taken
  obtain ⟨database, first, taken⟩ := bind_eq_ok.mp taken
  obtain ⟨tenants, second, taken⟩ := bind_eq_ok.mp taken
  obtain ⟨formats, third, taken⟩ := bind_eq_ok.mp taken
  cases taken
  rw [← place "database" (by decide), ← place "tenants" (by decide), ← place "formats" (by decide)]
  exact ⟨first, second, third⟩

section Fields

variable (ordered : Ordered document) (plain : document.typeName ≠ "array")
  (taken : decode .json (document.tree .null) = .ok settings)

include plain taken

theorem database_fields (database : Unlisted document ["database"]) :
    Tree.optional (Backend.decode .json) (written document ["database", "backend"]) =
      .ok settings.database.backend ∧
    Tree.optional Tree.asText (written document ["database", "url"]) = .ok settings.database.url ∧
    Tree.defaulted "UTC" Tree.asText (written document ["database", "timezone"]) =
      .ok settings.database.timezone := by
  have fields := decodeDatabase_fields database (decode_sections plain taken).1
  rwa [fieldOf_at, fieldOf_at, fieldOf_at] at fields

theorem formats_fields (formats : Unlisted document ["formats"]) :
    Tree.defaulted "%Y-%m-%d" Tree.asText (written document ["formats", "date"]) = .ok settings.formats.date ∧
    Tree.defaulted "%Y-%m-%d %H:%M:%S" Tree.asText (written document ["formats", "date_time"]) =
      .ok settings.formats.dateTime := by
  have fields := decodeFormats_fields formats (decode_sections plain taken).2.2
  rwa [fieldOf_at, fieldOf_at] at fields

include ordered

theorem tenant_related (identifier : String) :
    Option.Rel (fun value tenant => decodeTenant .json (value.tree .null) = .ok tenant)
      (at? document ["tenants", identifier]) (settings.tenants.lookup identifier) := by
  have inside : ∀ value ∈ at? document ["tenants"], Ordered value := by
    intro value found
    exact entry_ordered ordered (at_one ▸ found)
  rw [at_two]
  exact tenants_entries inside (decode_sections plain taken).2.1 identifier

/-- A tenant is there if there is something to read it from. -/
theorem tenant_isSome (identifier : String) :
    (settings.tenants.lookup identifier).isSome = (at? document ["tenants", identifier]).isSome := by
  have related := tenant_related ordered plain taken identifier
  generalize at? document ["tenants", identifier] = part, settings.tenants.lookup identifier = held at related ⊢
  cases related with
  | some taken => rfl
  | none => rfl

theorem tenant_fields (list : Unlisted document ["tenants", identifier])
    (found : settings.tenants.lookup identifier = some tenant) :
    Tree.optional (Backend.decode .json) (written document ["tenants", identifier, "backend"]) =
      .ok tenant.backend ∧
    Tree.optional Tree.asText (written document ["tenants", identifier, "url"]) = .ok tenant.url ∧
    Tree.optional Tree.asText (written document ["tenants", identifier, "timezone"]) = .ok tenant.timezone := by
  have related := tenant_related ordered plain taken identifier
  rw [found] at related
  cases here : at? document ["tenants", identifier] with
  | none =>
    rw [here] at related
    cases related
  | some value =>
    rw [here] at related
    have taken : decodeTenant .json (value.tree .null) = .ok tenant := by simpa using related
    have fields := decodeTenant_fields (list value here) taken
    rwa [← here, fieldOf_at, fieldOf_at, fieldOf_at] at fields

end Fields

end TenantSql.DecodedSettings
