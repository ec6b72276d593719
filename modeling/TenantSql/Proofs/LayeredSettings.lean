import TenantSql.Proofs.DecodedSettings

/-! Settings of a directory, field by field and layer by layer. The variables lie
over the file of the environment and that file over the common one. Sections are
merged and never replaced, so that each field is that of the highest layer that
sets it, wherever the fields beside it come from. -/
namespace TenantSql.LayeredSettings
open Settings Outcomes OrderedDocument LayeredDocument DecodedSettings

variable {base top merged part : Option Value} {files other : Files} {vars : Variables} {directory : String}
  {environment : Environment} {document lower upper : Value} {before settings : Settings}

/-- What the first layer says that says anything. The highest one comes first. -/
def highest {α : Type} (layers : List (Option α)) : Option α := layers.findSome? id

/-- What the text at a path of a document names, if there is a text. -/
def namedAt? (document : Value) (path : List String) : Option (Option Backend) :=
  (textAt? document path).map fun name => Backend.documentNames.lookup name

/-- Where documents have sections. -/
inductive SectionPath : List String → Prop where
  | database : SectionPath ["database"]
  | formats : SectionPath ["formats"]
  | tenants : SectionPath ["tenants"]
  | tenant (identifier : String) : SectionPath ["tenants", identifier]

/-- Where sections have the fields that are read. -/
inductive FieldPath : List String → Prop where
  | database {key : String} (known : key ∈ ["backend", "url", "timezone"]) : FieldPath ["database", key]
  | formats {key : String} (known : key ∈ ["date", "date_time"]) : FieldPath ["formats", key]
  | tenant {identifier key : String} (known : key ∈ ["backend", "url", "timezone"]) :
    FieldPath ["tenants", identifier, key]

/-- A document in which sections are tables and the fields that are read are
texts, as far as they are there. Of everything else it may hold anything. -/
structure Tabular (document : Value) : Prop where
  sections : ∀ path, SectionPath path → ∀ value ∈ at? document path, value.typeName = "table"
  fields : ∀ path, FieldPath path → ∀ value ∈ at? document path, value.typeName = "string"

/-- Each field of the settings is that of the highest layer that sets it, or else
the default. A tenant is there if one of the documents has it. -/
structure ByLayers (vars : Variables) (top base : Value) (settings : Settings) : Prop where
  backend : settings.database.backend.map some =
    highest [(vars "SQLDIALECT_BACKEND").map Backend.ofName?,
      namedAt? top ["database", "backend"], namedAt? base ["database", "backend"]]
  url : settings.database.url =
    highest [vars "SQLDIALECT_DATABASE_URL", textAt? top ["database", "url"], textAt? base ["database", "url"]]
  timezone : settings.database.timezone =
    (highest [vars "SQLDIALECT_TIMEZONE", textAt? top ["database", "timezone"],
      textAt? base ["database", "timezone"]]).getD "UTC"
  date : settings.formats.date =
    (highest [textAt? top ["formats", "date"], textAt? base ["formats", "date"]]).getD "%Y-%m-%d"
  dateTime : settings.formats.dateTime =
    (highest [textAt? top ["formats", "date_time"],
      textAt? base ["formats", "date_time"]]).getD "%Y-%m-%d %H:%M:%S"
  tenants : ∀ identifier, (settings.tenants.lookup identifier).isSome =
    ((at? top ["tenants", identifier]).isSome || (at? base ["tenants", identifier]).isSome)
  tenant : ∀ identifier tenant, settings.tenants.lookup identifier = some tenant →
    tenant.backend.map some =
      highest [namedAt? top ["tenants", identifier, "backend"],
        namedAt? base ["tenants", identifier, "backend"]] ∧
    tenant.url =
      highest [textAt? top ["tenants", identifier, "url"], textAt? base ["tenants", identifier, "url"]] ∧
    tenant.timezone =
      highest [textAt? top ["tenants", identifier, "timezone"],
        textAt? base ["tenants", identifier, "timezone"]]

theorem highest_two {α : Type} (first second : Option α) : highest [first, second] = first.or second := by
  cases first <;> cases second <;> rfl

theorem highest_cons {α : Type} (first : Option α) (rest : List (Option α)) :
    highest (first :: rest) = first.or (highest rest) := by
  cases first <;> rfl

/-! ### Loading -/

theorem parse_eq_ok {name : String} {backend : Backend} (taken : Backend.parse name = .ok backend) :
    Backend.ofName? name = some backend := by
  unfold Backend.parse at taken
  split at taken
  · rename_i found
    cases taken
    exact found
  · cases taken

/-- The variables lie over the database section and nothing else. -/
theorem override_eq_ok (overridden : override vars before = .ok settings) :
    settings.environment = before.environment ∧ settings.tenants = before.tenants ∧
    settings.formats = before.formats ∧
    settings.database.backend.map some =
      ((vars "SQLDIALECT_BACKEND").map Backend.ofName?).or (before.database.backend.map some) ∧
    settings.database.url = (vars "SQLDIALECT_DATABASE_URL").or before.database.url ∧
    settings.database.timezone = (vars "SQLDIALECT_TIMEZONE").getD before.database.timezone := by
  unfold override at overridden
  cases set : vars "SQLDIALECT_BACKEND" with
  | none =>
    rw [set] at overridden
    cases overridden
    exact ⟨rfl, rfl, rfl, by simp, rfl, rfl⟩
  | some name =>
    rw [set] at overridden
    obtain ⟨chosen, named, overridden⟩ := bind_eq_ok.mp overridden
    obtain ⟨backend, parsed, same⟩ := map_eq_ok.mp named
    cases same
    cases overridden
    exact ⟨rfl, rfl, rfl, by simp [parse_eq_ok parsed], rfl, rfl⟩

/-- The settings of a directory, but for what is reported on the way. -/
theorem ofDirectory_result : (ofDirectory files vars directory).result = (do
    let document ← (documentOfDirectory files (detectEnvironment vars) directory).result
    let settings ← (decode .json (document.tree .null)).mapError fun mismatch =>
      Error.settings (.undecodable mismatch.message)
    (← override vars { settings with environment := detectEnvironment vars }).checked) := by
  have ends : ∀ settings : Settings, (do
      let settings ← (liftM settings.checked : Traced Settings)
      Traced.report (.loadedDirectory (detectEnvironment vars).shortName)
      return settings : Traced Settings).result = settings.checked := by
    intro settings
    rw [Traced.bind_result, Traced.liftM_result]
    cases settings.checked <;> rfl
  unfold ofDirectory
  dsimp only
  rw [Traced.bind_result]
  refine congrArg _ (funext fun document => ?_)
  rw [Traced.bind_result]
  refine congrArg _ (funext fun settings => ?_)
  rw [Traced.bind_result]
  exact congrArg _ (funext ends)

/-- Settings of a directory are those of its document with the active environment
and the variables in place, if they are valid. -/
theorem ofDirectory_eq_ok : (ofDirectory files vars directory).result = .ok settings ↔
    ∃ document before, (documentOfDirectory files (detectEnvironment vars) directory).result = .ok document ∧
      decode .json (document.tree .null) = .ok before ∧
      override vars { before with environment := detectEnvironment vars } = .ok settings ∧
      settings.validate = .ok () := by
  rw [ofDirectory_result]
  constructor
  · intro loaded
    obtain ⟨document, made, loaded⟩ := bind_eq_ok.mp loaded
    obtain ⟨before, decoded, loaded⟩ := bind_eq_ok.mp loaded
    obtain ⟨laid, overridden, loaded⟩ := bind_eq_ok.mp loaded
    obtain ⟨⟨⟩, valid, same⟩ := bind_eq_ok.mp loaded
    cases same
    exact ⟨document, before, made, mapError_eq_ok.mp decoded, overridden, valid⟩
  · rintro ⟨document, before, made, decoded, overridden, valid⟩
    refine bind_eq_ok.mpr ⟨document, made, ?_⟩
    refine bind_eq_ok.mpr ⟨before, mapError_eq_ok.mpr decoded, ?_⟩
    refine bind_eq_ok.mpr ⟨settings, overridden, ?_⟩
    exact bind_eq_ok.mpr ⟨(), valid, rfl⟩

section Merged

variable {path : List String} (laid : Laid (at? lower path) (at? upper path) (at? document path))

include laid

theorem textAt_laid : textAt? document path = highest [textAt? upper path, textAt? lower path] := by
  rw [highest_two]
  exact laid.text

theorem namedAt_laid : namedAt? document path = highest [namedAt? upper path, namedAt? lower path] := by
  rw [highest_two, namedAt?, textAt_laid laid, highest_two, Option.map_or]
  rfl

theorem unlisted_of_tables (below : ∀ value ∈ at? lower path, value.typeName = "table")
    (above : ∀ value ∈ at? upper path, value.typeName = "table") : Unlisted document path := by
  intro value found
  have table : value.typeName = "table" := laid.typeName (· = "table") below above value found
  rw [table]
  decide

end Merged

/-- Where sections are tables and fields are texts, merging and reading come to
the highest layer, field by field. -/
theorem byLayers_of_laid {document base top : Value} (ordered : Ordered document)
    (plain : document.typeName ≠ "array")
    (laid : ∀ key rest, Laid (at? base (key :: rest)) (at? top (key :: rest)) (at? document (key :: rest)))
    (below : Tabular base) (above : Tabular top) (decoded : decode .json (document.tree .null) = .ok before)
    (overridden : override vars { before with environment := environment } = .ok settings) :
    ByLayers vars top base settings := by
  have unlisted : ∀ key rest, SectionPath (key :: rest) → Unlisted document (key :: rest) :=
    fun key rest path => unlisted_of_tables (laid key rest) (below.sections _ path) (above.sections _ path)
  have texts : ∀ key rest, FieldPath (key :: rest) →
      ∀ value ∈ at? document (key :: rest), value.typeName = "string" :=
    fun key rest path => (laid key rest).typeName (· = "string") (below.fields _ path) (above.fields _ path)
  -- From here on each field is its own chain: variables, then the place in the merged document.
  obtain ⟨-, sameTenants, sameFormats, backend, url, timezone⟩ := override_eq_ok overridden
  obtain ⟨ownBackend, ownUrl, ownTimezone⟩ :=
    database_fields plain decoded (unlisted _ _ SectionPath.database)
  obtain ⟨ownDate, ownDateTime⟩ := formats_fields plain decoded (unlisted _ _ SectionPath.formats)
  constructor
  case backend =>
    have own := optional_named (texts _ _ (FieldPath.database (by simp))) ownBackend
    have merged := namedAt_laid (laid "database" ["backend"])
    rw [backend, highest_cons, ← merged]
    exact congrArg _ own
  case url =>
    have own := optional_text ownUrl
    have merged := textAt_laid (laid "database" ["url"])
    rw [url, highest_cons, ← merged]
    exact congrArg _ own
  case timezone =>
    have own := defaulted_text ownTimezone
    have merged := textAt_laid (laid "database" ["timezone"])
    rw [timezone, highest_cons, ← merged, Option.getD_or]
    exact congrArg _ own
  case date =>
    have merged := textAt_laid (laid "formats" ["date"])
    rw [sameFormats, ← merged]
    exact defaulted_text ownDate
  case dateTime =>
    have merged := textAt_laid (laid "formats" ["date_time"])
    rw [sameFormats, ← merged]
    exact defaulted_text ownDateTime
  case tenants =>
    intro identifier
    rw [sameTenants, ← Laid.isSome (laid "tenants" [identifier])]
    exact tenant_isSome ordered plain decoded identifier
  case tenant =>
    intro identifier tenant found
    rw [sameTenants] at found
    have list := unlisted _ _ (SectionPath.tenant identifier)
    obtain ⟨itsBackend, itsUrl, itsTimezone⟩ := tenant_fields ordered plain decoded list found
    rw [← namedAt_laid (laid _ _), ← textAt_laid (laid _ _), ← textAt_laid (laid _ _)]
    exact ⟨optional_named (texts _ _ (FieldPath.tenant (by simp))) itsBackend, optional_text itsUrl,
      optional_text itsTimezone⟩

/-! ### What is not read -/

/-- Views of a file system that agree everywhere but at one path. -/
def AgreeExceptAt (path : String) (one other : Files) : Prop :=
  ∀ place, place ≠ path → one.isThere place = other.isThere place ∧ one.text place = other.text place

theorem commonFile_ne : commonFile directory ≠ specialFile directory environment := by
  intro same
  have names : "sqldialect.toml" = "sqldialect." ++ environment.shortName ++ ".toml" := pathIn_injective same
  cases environment <;> exact absurd names (by decide)

theorem specialFile_ne {one other : Environment} (differs : one ≠ other) :
    specialFile directory one ≠ specialFile directory other := by
  intro same
  have names := pathIn_injective same
  cases one <;> cases other <;> first | exact differs rfl | exact absurd names (by decide)

theorem layer_congr {path : String} (there : files.isThere path = other.isThere path)
    (text : files.text path = other.text path) : layer files path = layer other path := by
  unfold layer documentOfFile readFile
  rw [there, text]

theorem overlay_congr {base : Value}
    (there : files.isThere (specialFile directory environment) =
      other.isThere (specialFile directory environment))
    (text : files.text (specialFile directory environment) = other.text (specialFile directory environment)) :
    overlay files environment directory base = overlay other environment directory base := by
  unfold overlay documentOfFile readFile
  rw [there, text]

/-- The file of another environment is not even looked at. -/
theorem ofDirectory_congr {inactive : Environment} (differs : inactive ≠ detectEnvironment vars)
    (agree : AgreeExceptAt (specialFile directory inactive) files other) :
    ofDirectory files vars directory = ofDirectory other vars directory := by
  obtain ⟨common, commonText⟩ := agree (commonFile directory) commonFile_ne
  obtain ⟨special, specialText⟩ :=
    agree (specialFile directory (detectEnvironment vars)) (specialFile_ne differs.symm)
  have same : documentOfDirectory files (detectEnvironment vars) directory =
      documentOfDirectory other (detectEnvironment vars) directory := by
    rw [documentOfDirectory_eq, documentOfDirectory_eq, layer_congr common commonText]
    exact congrArg _ (funext fun base => overlay_congr special specialText)
  unfold ofDirectory
  dsimp only
  rw [same]

/-- Settings of a directory are for the environment that is detected, and what
the file of another environment holds has no influence on the outcome. Where in
both documents the sections are tables and the fields are texts, each field is
that of the highest layer that sets it. -/
theorem directory_by_layers (files : Files) (vars : Variables) (directory : String) :
    (∀ inactive other, inactive ≠ detectEnvironment vars →
      AgreeExceptAt (specialFile directory inactive) files other →
      ofDirectory files vars directory = ofDirectory other vars directory) ∧
    ∀ settings, (ofDirectory files vars directory).result = .ok settings →
      settings.environment = detectEnvironment vars ∧
      ∃ base top, layer files (commonFile directory) = .ok base ∧
        layer files (specialFile directory (detectEnvironment vars)) = .ok top ∧
        (Tabular base → Tabular top → ByLayers vars top base settings) := by
  constructor
  · intro inactive other differs agree
    exact ofDirectory_congr differs agree
  · intro settings loaded
    obtain ⟨document, before, made, decoded, overridden, -⟩ := ofDirectory_eq_ok.mp loaded
    obtain ⟨base, top, common, special, ordered, plain, laid⟩ := documentOfDirectory_laid made
    refine ⟨(override_eq_ok overridden).1, base, top, common, special, ?_⟩
    intro below above
    exact byLayers_of_laid ordered plain laid below above decoded overridden

/-- The text of the common file: a backend by its name, and a tenant by its address. -/
def lowerText : String := "database.backend = 'mysql'\ntenants.acme.url = 'mysql://one'\n"

/-- The text of the file over it: an address, and the time zone of the tenant. -/
def upperText : String := "database.url = 'postgres://two'\ntenants.acme.timezone = '+01:00'\n"

/-- Two files each of which has one half of the default database and of a tenant. -/
def halves : List (String × String) :=
  [("app/sqldialect.toml", lowerText), ("app/sqldialect.dev.toml", upperText)]

/-- A document with one field of the default database and one of a tenant. -/
def half (database acme : String × String) : Value :=
  .table [("database", .table [(database.1, .string database.2)]),
    ("tenants", .table [("acme", .table [(acme.1, .string acme.2)])])]

/-- What the common file says. -/
def lowerHalf : Value := half ("backend", "mysql") ("url", "mysql://one")

/-- What the file over it says. -/
def upperHalf : Value := half ("url", "postgres://two") ("timezone", "+01:00")

/-- The settings that the two files make. -/
def bothHalves : Settings where
  database := { backend := some .mysql, url := some "postgres://two" }
  tenants := [("acme", { url := some "mysql://one", timezone := some "+01:00" })]

theorem eq_of_lookup_one {α : Type} {name key : String} {held value : α}
    (found : [(name, held)].lookup key = some value) : value = held := by
  rcases List.mem_singleton.mp (Assoc.mem_of_lookup found) with ⟨⟩
  rfl

theorem half_tabular (database acme : String × String) : Tabular (half database acme) := by
  constructor
  · rintro path (_ | _ | _ | identifier) value found
    · cases found
      rfl
    · cases found
    · cases found
      rfl
    · have inside : [("acme", Value.table [(acme.1, .string acme.2)])].lookup identifier = some value := by
        simpa [half, at?, under?, List.lookup_cons] using found
      rw [eq_of_lookup_one inside]
      rfl
  · rintro path (⟨known⟩ | ⟨known⟩ | @⟨identifier, key, known⟩) value found
    · rename_i key
      have inside : [(database.1, Value.string database.2)].lookup key = some value := by
        simpa [half, at?, under?, List.lookup_cons] using found
      rw [eq_of_lookup_one inside]
      rfl
    · cases found
    · obtain ⟨outer, outside, inside⟩ := Option.bind_eq_some_iff.mp found
      cases outside
      obtain ⟨tenant, one, inside⟩ := Option.bind_eq_some_iff.mp inside
      cases eq_of_lookup_one one
      obtain ⟨field, own, inside⟩ := Option.bind_eq_some_iff.mp inside
      cases eq_of_lookup_one own
      cases inside
      rfl

theorem lowerText_read : Toml.read lowerText = .ok lowerHalf := by
  apply ok_of_toOption
  decide +kernel

theorem upperText_read : Toml.read upperText = .ok upperHalf := by
  apply ok_of_toOption
  decide +kernel

theorem lowerHalf_read : layer (filesOf halves) (commonFile "app") = .ok lowerHalf :=
  documentOfFile_eq_ok.mpr ⟨lowerText, lowerHalf, rfl, lowerText_read, rfl⟩

theorem upperHalf_read : layer (filesOf halves) (specialFile "app" .development) = .ok upperHalf :=
  documentOfFile_eq_ok.mpr ⟨upperText, upperHalf, rfl, upperText_read, rfl⟩

theorem halves_loaded : (ofDirectory (filesOf halves) (fun _ => none) "app").result = .ok bothHalves := by
  apply ok_of_toOption
  decide +kernel

/-- Two files that share the sections between them make settings with both
halves, and a third one that is no document does not change that. -/
theorem halves_by_layers :
    let vars : Variables := fun _ => none
    (ofDirectory (filesOf halves) vars "app").result = .ok bothHalves ∧
      ByLayers vars upperHalf lowerHalf bothHalves ∧
      ofDirectory (filesOf halves) vars "app" =
        ofDirectory (filesOf (halves ++ [("app/sqldialect.prod.toml", "[")])) vars "app" := by
  intro vars
  obtain ⟨unread, each⟩ := directory_by_layers (filesOf halves) vars "app"
  obtain ⟨-, lower, upper, below, above, layered⟩ := each bothHalves halves_loaded
  obtain rfl : lower = lowerHalf := Except.ok.inj (below.symm.trans lowerHalf_read)
  obtain rfl : upper = upperHalf := Except.ok.inj (above.symm.trans upperHalf_read)
  refine ⟨halves_loaded, layered (half_tabular _ _) (half_tabular _ _), ?_⟩
  refine unread .production _ (by decide) fun place elsewhere => ?_
  have last : (place == "app/sqldialect.prod.toml") = false := beq_eq_false_iff_ne.mpr elsewhere
  simp [filesOf, List.lookup_append, List.lookup_cons, last]

end TenantSql.LayeredSettings
