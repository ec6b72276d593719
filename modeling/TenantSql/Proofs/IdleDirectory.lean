import TenantSql.Proofs.TwoReadings

/-! A directory with nothing to say. Its files are missing or empty, or have sections
with nothing in them and anything at all under keys that are not read. Two of them can
be laid over each other if no place in them has two types, and what comes of it has
nothing to say either. The settings that are read from it have every default, whether a
section is missing or only its fields are, and so the variables alone make the rest. -/
namespace TenantSql.IdleDirectory
open Settings Outcomes OrderedDocument LayeredDocument DecodedSettings LayeredSettings TwoReadings
open TenantSql.Tree (Mismatch)

variable {base top merged document : Value} {key path directory : String} {files : Files} {vars : Variables}
  {environment : Environment}

/-- A document that sets nothing: it names no environment, and the sections that are
read are missing or empty. -/
structure Idle (document : Value) : Prop where
  environment : under? "environment" document = none
  sections : ∀ key ∈ ["database", "tenants", "formats"], ∀ part ∈ under? key document, part = .table []

/-- Wherever both of two documents have something, it is of the same type. -/
def Compatible (base top : Value) : Prop :=
  ∀ path, ∀ lower ∈ at? base path, ∀ upper ∈ at? top path, lower.typeName = upper.typeName

/-- There is a file, and its text is read as the document. -/
def Holds (files : Files) (path : String) (document : Value) : Prop :=
  files.isThere path = true ∧ ∃ text, files.text path = .ok text ∧ Toml.read text = .ok document

/-- A directory that says nothing in an environment: neither of its files sets anything,
and as they are taken over, no place in them has two types. -/
structure Quiet (files : Files) (environment : Environment) (directory : String) : Prop where
  common : ∀ document, Holds files (commonFile directory) document → Idle document
  special : ∀ document, Holds files (specialFile directory environment) document → Idle document
  compatible : files.isThere (specialFile directory environment) = true → ∀ base top,
    layer files (commonFile directory) = .ok base →
    layer files (specialFile directory environment) = .ok top → Compatible base top

/-! ### Taking over -/

/-- A document without any entries sets nothing. -/
theorem idle_of_bare (bare : ∀ key, under? key document = none) : Idle document := by
  constructor
  · exact bare "environment"
  · intro key known part found
    rw [bare key] at found
    cases found

/-- Taken over, a table has under each key what was there, taken over. -/
theorem keptEntries_lookup {entries kept : List (String × Value)}
    (taken : Value.keptEntries? entries = some kept) (key : String) :
    kept.lookup key = (entries.lookup key).bind Value.kept? := by
  induction entries generalizing kept with
  | nil =>
    cases taken
    rfl
  | cons entry rest ih =>
    obtain ⟨name, value⟩ := entry
    obtain ⟨first, one, taken⟩ := Option.bind_eq_some_iff.mp taken
    obtain ⟨others, later, same⟩ := Option.bind_eq_some_iff.mp taken
    cases same
    by_cases first : key = name
    · subst first
      rw [List.lookup_cons_self, List.lookup_cons_self]
      exact one.symm
    · have miss : (key == name) = false := by simpa using first
      rw [List.lookup_cons, List.lookup_cons, miss]
      exact ih later

theorem kept_idle {entries : List (String × Value)} {kept : Value} (idle : Idle (.table entries))
    (taken : (Value.table entries).kept? = some kept) : Idle kept := by
  obtain ⟨text, rfl⟩ | ⟨held, inside, rfl⟩ := kept_table taken
  -- A date-time has nothing under any key.
  · exact idle_of_bare fun _ => rfl
  · have place : ∀ key, held.lookup key = (entries.lookup key).bind Value.kept? := keptEntries_lookup inside
    constructor
    · have absent : entries.lookup "environment" = none := idle.environment
      rw [under?, place, absent, Option.bind_none]
    · intro key known part found
      obtain ⟨before, there, same⟩ := Option.bind_eq_some_iff.mp ((place key).symm.trans found)
      obtain rfl := idle.sections key known before there
      cases same
      rfl

theorem layer_idle (idle : ∀ document, Holds files path document → Idle document)
    (read : layer files path = .ok document) : Idle document := by
  unfold layer at read
  split at read
  · rename_i there
    obtain ⟨text, value, held, parsed, taken⟩ := documentOfFile_eq_ok.mp read
    obtain ⟨entries, rfl⟩ := read_table parsed
    exact kept_idle (idle _ ⟨there, text, held, parsed⟩) taken
  · cases read
    exact idle_of_bare fun _ => rfl

/-! ### Laying over -/

theorem Compatible.root (compatible : Compatible base top) : base.typeName = top.typeName :=
  compatible [] base rfl top rfl

theorem Compatible.under {lower upper : Value} (compatible : Compatible base top)
    (below : under? key base = some lower) (above : under? key top = some upper) : Compatible lower upper := by
  intro rest inner inside outer outside
  apply compatible (key :: rest)
  · rw [at?, below]
    exact inside
  · rw [at?, above]
    exact outside

theorem replacing_succeeds (same : base.typeName = top.typeName) :
    ∃ merged, Value.replacing path base top = .ok merged := ⟨top, if_pos same⟩

mutual
/-- Nothing stands in the way of laying a document over a compatible one. -/
theorem merge_succeeds : (top : Value) → Ordered top → ∀ {path : String} {base : Value},
    Compatible base top → ∃ merged, Value.merge path base top = .ok merged
  | .string _, _, _, _, compatible | .integer _, _, _, _, compatible | .float _, _, _, _, compatible
  | .boolean _, _, _, _, compatible | .datetime _, _, _, _, compatible | .unreadable, _, _, _, compatible =>
    replacing_succeeds compatible.root
  | .array items, _, _, base, compatible => by
    have list : base.typeName = "array" := compatible.root
    cases base with
    | array held => exact ⟨.array (held ++ items), rfl⟩
    | string | integer | float | boolean | datetime | table | unreadable => simp [Value.typeName] at list
  | .table entries, ordered, _, base, compatible => by
    obtain ⟨held, rfl⟩ := eq_table compatible.root
    obtain ⟨merged, laid⟩ := mergeEntries_succeeds entries ordered.2 ordered.1.distinct
      fun _ _ _ below above => Compatible.under compatible below above
    exact ⟨.table merged, map_eq_ok.mpr ⟨merged, laid, rfl⟩⟩

theorem mergeEntries_succeeds : (entries : List (String × Value)) → EntriesOrdered entries →
    Assoc.Distinct entries → ∀ {path : String} {held : List (String × Value)},
    (∀ key lower upper, held.lookup key = some lower → entries.lookup key = some upper →
      Compatible lower upper) →
    ∃ merged, Value.mergeEntries path held entries = .ok merged
  | [], _, _, _, held, _ => ⟨held, rfl⟩
  | (key, value) :: rest, ordered, distinct, path, held, each => by
    obtain ⟨fresh, others⟩ := List.nodup_cons.mp distinct
    -- What is put under the first key is never met again: the keys behind it are others.
    have later : ∀ inner, ∃ merged, Value.mergeEntries path (Assoc.put key inner held) rest = .ok merged := by
      intro inner
      apply mergeEntries_succeeds rest ordered.2 others
      intro other lower upper below above
      have differs : other ≠ key := by
        rintro rfl
        exact fresh (List.mem_map.mpr ⟨_, Assoc.mem_of_lookup above, rfl⟩)
      have miss : (other == key) = false := by simpa using differs
      rw [Assoc.lookup_put_of_ne differs] at below
      apply each other lower upper below
      rwa [List.lookup_cons, miss]
    unfold Value.mergeEntries
    cases found : held.lookup key with
    | none => exact later value
    | some lower =>
      have inside : Compatible lower value := each key lower value found List.lookup_cons_self
      obtain ⟨inner, one⟩ : ∃ inner, Value.merge (path ++ "." ++ key) lower value = .ok inner :=
        merge_succeeds value ordered.1 inside
      obtain ⟨merged, laid⟩ := later inner
      exact ⟨merged, bind_eq_ok.mpr ⟨inner, one, laid⟩⟩
end

/-- A document can be laid over another exactly if the two are compatible. -/
theorem merges_iff (ordered : Ordered top) :
    (∃ merged, Value.merge path base top = .ok merged) ↔ Compatible base top := by
  constructor
  · rintro ⟨merged, laid⟩ rest lower below upper above
    have whole : Laid (some base) (some top) (some merged) := Laid.both laid
    have place := whole.at (by simpa using ordered) rest
    rw [Option.bind_some, Option.bind_some, Option.mem_def.mp below, Option.mem_def.mp above] at place
    generalize (some merged).bind (at? · rest) = inside at place
    cases place with
    | both inner => exact (merge_typeName inner).1
  · exact merge_succeeds top ordered

/-! ### Reading -/

/-- A document that settings can be read from as far as its fields allow: it is a
record, and everything in it can be looked at. -/
structure Legible (document : Value) : Prop where
  root : document.typeName = "table" ∨ document.typeName = "datetime"
  readable : (document.tree .null).isReadable = true

theorem Legible.record (legible : Legible document) : ∃ fields, document.tree .null = .record fields := by
  obtain ⟨root, -⟩ := legible
  cases document with
  | table entries => exact ⟨_, rfl⟩
  | datetime text => exact ⟨_, rfl⟩
  | string | integer | float | boolean | array | unreadable => simp [Value.typeName] at root

theorem layer_legible (read : layer files path = .ok document) : Legible document := by
  refine ⟨layer_typeName read, ?_⟩
  unfold layer at read
  split at read
  · obtain ⟨text, value, -, -, taken⟩ := documentOfFile_eq_ok.mp read
    exact kept_readable rfl value taken
  · cases read
    rfl

theorem readable_inherited : Inherited (fun value => (value.tree .null).isReadable = true) fun _ => True where
  lists := array_readable_iff
  tables := table_readable_iff.trans (iff_of_eq (true_and _)).symm
  puts _ _ _ fits := fits

theorem merge_legible (below : Legible base) (above : Legible top)
    (laid : Value.merge path base top = .ok merged) : Legible merged := by
  constructor
  · rw [(merge_typeName laid).2]
    exact above.root
  · exact merge_keeps readable_inherited top above.readable below.readable laid

theorem laid_empty {lower upper whole : Option Value} (laid : Laid lower upper whole)
    (below : ∀ part ∈ lower, part = .table []) (above : ∀ part ∈ upper, part = .table []) :
    ∀ part ∈ whole, part = .table [] := by
  cases laid with
  | below => exact below
  | above => exact above
  | both laid =>
    obtain rfl := below _ rfl
    obtain rfl := above _ rfl
    cases laid
    rintro _ ⟨⟩
    rfl

theorem merge_idle (ordered : Ordered top) (below : Idle base) (above : Idle top)
    (laid : Value.merge path base top = .ok merged) : Idle merged := by
  constructor
  · have place := merge_laid ordered laid "environment"
    rw [below.environment, above.environment] at place
    exact place.eq_base
  · intro key known
    exact laid_empty (merge_laid ordered laid key) (below.sections key known) (above.sections key known)

/-- A section reads the same if it is missing and if it is empty, provided that its own
default is made of those of its fields. -/
theorem section_default {α : Type} (default : α) (decode : Tree → Except Mismatch α) {part : Option Value}
    (fields : decode (.record []) = .ok default) (empty : ∀ value ∈ part, value = .table []) :
    Tree.defaulted default decode (part.map (Value.tree .null)) = .ok default := by
  cases part with
  | none => rfl
  | some value =>
    obtain rfl := empty value rfl
    exact fields

/-- What a document sets nothing for has the default. -/
theorem decode_idle (idle : Idle document) (legible : Legible document) :
    decode .json (document.tree .null) = .ok {} := by
  obtain ⟨fields, shape⟩ := legible.record
  have record : Tree.asRecord .json ["environment", "database", "tenants", "formats"] (document.tree .null) =
      .ok fun name => fields.lookup name := by
    have readable := legible.readable
    rw [shape] at readable ⊢
    exact asRecord_of_readable readable
  have place : ∀ key, key ≠ Value.datetimeField →
      fields.lookup key = (under? key document).map (Value.tree .null) :=
    fun key known => asRecord_field record (ne_array legible.root) known
  refine bind_eq_ok.mpr ⟨_, record, ?_⟩
  rw [place "environment" (by decide), place "database" (by decide), place "tenants" (by decide),
    place "formats" (by decide), idle.environment]
  have database := section_default {} (decodeDatabase .json) rfl (idle.sections "database" (by simp))
  have tenants := section_default ⟨[], List.nodup_nil⟩ (Tree.asMap (decodeTenant .json)) rfl
    (idle.sections "tenants" (by simp))
  have formats := section_default {} (decodeFormats .json) rfl (idle.sections "formats" (by simp))
  rw [database, tenants, formats]
  rfl

/-! ### Loading -/

/-- Two layers of a directory that says nothing make a document that says nothing. -/
theorem Quiet.makes_idle (quiet : Quiet files environment directory)
    (below : layer files (commonFile directory) = .ok base)
    (above : layer files (specialFile directory environment) = .ok top) :
    ∃ document, (documentOfDirectory files environment directory).result = .ok document ∧ Idle document ∧
      Legible document := by
  rw [documentOfDirectory_result, below, above]
  have ordered : Ordered top := layer_ordered above
  have lower : Idle base := layer_idle quiet.common below
  by_cases there : files.isThere (specialFile directory environment) = true
  · obtain ⟨merged, laid⟩ : ∃ merged, Value.merge "$" base top = .ok merged :=
      merge_succeeds top ordered (quiet.compatible there base top below above)
    refine ⟨merged, ?_, merge_idle ordered lower (layer_idle quiet.special above) laid,
      merge_legible (layer_legible below) (layer_legible above) laid⟩
    change (if files.isThere (specialFile directory environment) then _ else _) = _
    rw [if_pos there]
    exact mapError_eq_ok.mpr laid
  · exact ⟨base, if_neg there, lower, layer_legible below⟩

/-- Once every default is read from the document, the variables alone make the settings,
and also the error if there is one. -/
theorem ofDirectory_of_defaults
    (made : (documentOfDirectory files (detectEnvironment vars) directory).result = .ok document)
    (decoded : decode .json (document.tree .null) = .ok {}) :
    (ofDirectory files vars directory).result = ofVariables vars := by
  rw [ofDirectory_result, made]
  change ((decode .json (document.tree .null)).mapError _ >>= _) = _
  rw [decoded]
  rfl

/-- A directory with nothing to say is loaded as the variables alone are: the same
settings come of it or the same error, whatever the variables. Only a file that cannot
be taken over makes a difference, and the error is then that of the file. -/
theorem idle_directory_adds_nothing (files : Files) (vars : Variables) (directory : String)
    (quiet : Quiet files (detectEnvironment vars) directory) :
    (ofDirectory files vars directory).result = (do
      let _ ← layer files (commonFile directory)
      let _ ← layer files (specialFile directory (detectEnvironment vars))
      ofVariables vars) := by
  cases below : layer files (commonFile directory) with
  | error error =>
    rw [ofDirectory_result, documentOfDirectory_result, below]
    rfl
  | ok base =>
    cases above : layer files (specialFile directory (detectEnvironment vars)) with
    | error error =>
      rw [ofDirectory_result, documentOfDirectory_result, below, above]
      rfl
    | ok top =>
      obtain ⟨document, made, idle, legible⟩ := quiet.makes_idle below above
      exact ofDirectory_of_defaults made (decode_idle idle legible)

/-- A text with one empty section and a table of its own. -/
def emptyDatabase : String := "[database]\n[other]\nkeep = [1, 'one']\n"

/-- A text with the other sections empty, and more in the table that is no section. -/
def emptyFormats : String := "[formats]\n[tenants]\n[other]\nkeep = [2]\nalone = true\n"

/-- Two files with empty sections, and with a table of their own, make what the
variables make. -/
theorem empty_sections_add_nothing :
    let files := filesOf [("app/sqldialect.toml", emptyDatabase), ("app/sqldialect.prod.toml", emptyFormats)]
    let vars : Variables := fun name =>
      if name = "SQLDIALECT_ENV" then some "prod" else if name = "SQLDIALECT_BACKEND" then some "mysql" else none
    let settings : Settings := { environment := .production, database := { backend := some .mysql } }
    Quiet files (detectEnvironment vars) "app" ∧ ofVariables vars = .ok settings ∧
      (ofDirectory files vars "app").result = .ok settings := by
  intro files vars settings
  let base : Value := .table [("database", .table []),
    ("other", .table [("keep", .array [.integer 1, .string "one"])])]
  let top : Value := .table [("formats", .table []),
    ("other", .table [("alone", .boolean true), ("keep", .array [.integer 2])]), ("tenants", .table [])]
  have made : ofVariables vars = .ok settings := by
    apply ok_of_toOption
    decide +kernel
  have active : detectEnvironment vars = .production := by decide +kernel
  have lowerRead : Toml.read emptyDatabase = .ok base := by
    apply ok_of_toOption
    decide +kernel
  have upperRead : Toml.read emptyFormats = .ok top := by
    apply ok_of_toOption
    decide +kernel
  have below : layer files (commonFile "app") = .ok base :=
    documentOfFile_eq_ok.mpr ⟨emptyDatabase, base, rfl, lowerRead, rfl⟩
  have above : layer files (specialFile "app" .production) = .ok top :=
    documentOfFile_eq_ok.mpr ⟨emptyFormats, top, rfl, upperRead, rfl⟩
  have lower : Idle base := by
    refine ⟨rfl, ?_⟩
    simp [base, under?, List.lookup_cons]
  have upper : Idle top := by
    refine ⟨rfl, ?_⟩
    simp [top, under?, List.lookup_cons]
  have laid : ∃ merged, Value.merge "$" base top = .ok merged := ⟨_, rfl⟩
  have both : Compatible base top := (merges_iff (layer_ordered above)).mp laid
  rw [← active] at above
  have quiet : Quiet files (detectEnvironment vars) "app" := by
    constructor
    · rintro document ⟨-, text, ⟨⟩, read⟩
      cases lowerRead.symm.trans read
      exact lower
    · rw [active]
      rintro document ⟨-, text, ⟨⟩, read⟩
      cases upperRead.symm.trans read
      exact upper
    · intro there held upon read readUpon
      cases below.symm.trans read
      cases above.symm.trans readUpon
      exact both
  refine ⟨quiet, made, ?_⟩
  rw [idle_directory_adds_nothing files vars "app" quiet]
  exact bind_eq_ok.mpr ⟨base, below, bind_eq_ok.mpr ⟨top, above, made⟩⟩

/-- A file is taken over as a whole, so that a number of more than 64 bits is refused
even where nobody would read it. -/
theorem wide_unknown_number_refused :
    let text := "extra = 18446744073709551615\n"
    let files := filesOf [("app/sqldialect.toml", text)]
    let vars : Variables := fun name => if name = "SQLDIALECT_BACKEND" then some "mysql" else none
    Holds files (commonFile "app") (.table [("extra", .integer 18446744073709551615)]) ∧
      Quiet files (detectEnvironment vars) "app" ∧
      ofVariables vars = .ok { database := { backend := some .mysql } } ∧
      (ofDirectory files vars "app").result ≠ ofVariables vars := by
  intro text files vars
  let document : Value := .table [("extra", .integer 18446744073709551615)]
  have active : detectEnvironment vars = .development := by decide +kernel
  have read : Toml.read text = .ok document := by
    apply ok_of_toOption
    decide +kernel
  have refused : ∀ base, layer files (commonFile "app") ≠ .ok base := by
    intro base taken
    obtain ⟨_, _, ⟨⟩, again, kept⟩ := documentOfFile_eq_ok.mp taken
    cases read.symm.trans again
    cases kept
  have made : ofVariables vars = .ok { database := { backend := some .mysql } } := by
    apply ok_of_toOption
    decide +kernel
  refine ⟨⟨rfl, text, rfl, read⟩, ?_, made, ?_⟩
  · rw [active]
    constructor
    · rintro _ ⟨-, _, ⟨⟩, again⟩
      cases read.symm.trans again
      refine ⟨rfl, ?_⟩
      simp [document, under?, List.lookup_cons]
    · rintro _ ⟨⟨⟩, -⟩
    · rintro ⟨⟩
  · intro same
    obtain ⟨_, _, loaded, -⟩ := ofDirectory_eq_ok.mp (same.trans made)
    rw [documentOfDirectory_result] at loaded
    obtain ⟨base, below, -⟩ := bind_eq_ok.mp loaded
    exact refused base below

end TenantSql.IdleDirectory
