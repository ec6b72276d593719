import TenantSql.Proofs.AcceptedSettings
import TenantSql.Proofs.LayeredSettings

/-! Which layer decides on a backend. Layers are merged key by key, and only in
what has come out a name goes before a URL. So the highest name decides, and a
URL only where no layer has a name, however high the URL stands. -/
namespace TenantSql.BackendPrecedence
open Settings Outcomes OrderedDocument LayeredDocument DecodedSettings LayeredSettings

variable {base top merged part : Option Value} {files : Files} {vars : Variables} {directory identifier : String}
  {settings : Settings} {backend : Backend}

/-- What one layer says about a backend. -/
structure Word where
  name : Option Backend
  url : Option String

variable {layers : List Word}

/-- Whether the layer says anything. -/
def Word.speaks (word : Word) : Bool := word.name.isSome || word.url.isSome

/-- The backend that the layer gives, by its name and otherwise by its URL. -/
def Word.backend? (word : Word) : Option Backend := word.name.or (word.url.bind Backend.ofUrl?)

/-- What the variables say. -/
def ofVariables (vars : Variables) : Word where
  name := (vars "SQLDIALECT_BACKEND").bind Backend.ofName?
  url := vars "SQLDIALECT_DATABASE_URL"

/-- The backend that a value names. -/
def backendIn? (value : Value) : Option Backend := (Backend.decode .json (value.tree .null)).toOption

/-- What a section of a document says. -/
def inSection (document : Value) (path : List String) : Word where
  name := (at? document (path ++ ["backend"])).bind backendIn?
  url := textAt? document (path ++ ["url"])

/-- The backend of the highest layer that says anything. The highest layer comes first. -/
def mostSpecific (layers : List Word) : Option Backend := (layers.find? Word.speaks).bind Word.backend?

/-- The backend of the highest name, or else of the highest URL. -/
def namesFirst (layers : List Word) : Option Backend :=
  (layers.findSome? Word.name).or ((layers.findSome? Word.url).bind Backend.ofUrl?)

/-- The highest layer that says anything has a URL alone, and one below it a name. -/
def UrlAboveName (layers : List Word) : Prop :=
  ∃ word ∈ layers.find? Word.speaks, word.name = none ∧ layers.findSome? Word.name ≠ none

/-- The answer is a backend that the layers give, names first. The most specific
layer gives the same one unless it has a URL that stands above a name. -/
structure GivenBy (layers : List Word) (answer : Except Error Backend) : Prop where
  names : ∃ backend, answer = .ok backend ∧ namesFirst layers = some backend
  specific : ¬ UrlAboveName layers → ∃ backend, answer = .ok backend ∧ mostSpecific layers = some backend

theorem mostSpecific_eq_namesFirst (settled : ¬ UrlAboveName layers) :
    mostSpecific layers = namesFirst layers := by
  induction layers with
  | nil => rfl
  | cons word rest ih =>
    obtain ⟨name, url⟩ := word
    cases name with
    | some backend => simp [mostSpecific, namesFirst, Word.speaks, Word.backend?]
    | none =>
      cases url with
      | some url =>
        -- This layer speaks with a URL alone, so a name further down would be below a URL.
        cases below : rest.findSome? Word.name with
        | none => simp [mostSpecific, namesFirst, Word.speaks, Word.backend?, below]
        | some backend =>
          have above : UrlAboveName (⟨none, some url⟩ :: rest) :=
            ⟨⟨none, some url⟩, by simp [Word.speaks], rfl, by simp [below]⟩
          exact absurd above settled
      | none =>
        have below : ¬ UrlAboveName rest := by
          rintro ⟨word, found, alone, named⟩
          exact settled ⟨word, by simpa [Word.speaks] using found, alone, by simpa using named⟩
        simpa [mostSpecific, namesFirst, Word.speaks] using ih below

/-! ### The name at a place -/

theorem backendIn_of_decode {value : Value} (taken : Backend.decode .json (value.tree .null) = .ok backend) :
    backendIn? value = some backend := by
  rw [backendIn?, taken]
  rfl

theorem backendIn_of_null {value : Value} (null : value.tree .null = .null) : backendIn? value = none := by
  rw [backendIn?, null]
  rfl

theorem optional_backend {named : Option Backend}
    (taken : Tree.optional (Backend.decode .json) (part.map (Value.tree .null)) = .ok named) :
    named = part.bind backendIn? := by
  rcases optional_of_tree taken with ⟨nothing, rfl⟩ | ⟨value, inside, rfl, read, rfl⟩
  · cases part with
    | none => rfl
    | some value =>
      have null : value.tree .null = .null := by simpa using nothing
      exact (backendIn_of_null null).symm
  · exact (backendIn_of_decode read).symm

/-- A record names a choice if it has one field, and null in it. -/
theorem choice_of_record {fields : List (String × Tree)}
    (taken : Backend.decode .json (.record fields) = .ok backend) :
    ∃ name, fields = [(name, .null)] ∧ Backend.documentNames.lookup name = some backend := by
  cases fields with
  | nil => cases taken
  | cons field rest =>
    cases rest with
    | cons => cases taken
    | nil =>
      obtain ⟨name, beside⟩ := field
      obtain ⟨choice, named, taken⟩ := bind_eq_ok.mp taken
      have found : Backend.documentNames.lookup name = some choice := decode_named named
      cases beside with
      | null =>
        cases taken
        exact ⟨name, rfl, found⟩
      | boolean | number | unreadable | text | list | record => cases taken

theorem backendIn_one {name : String} {value : Value} (null : value.tree .null = .null)
    (found : Backend.documentNames.lookup name = some backend) :
    backendIn? (.table [(name, value)]) = some backend := by
  have named : Tree.asChoice.named Backend.documentNames name = .ok backend := by
    rw [Tree.asChoice.named, found]
  apply backendIn_of_decode
  simp only [Value.tree, Value.entryTrees, null]
  exact bind_eq_ok.mpr ⟨backend, named, rfl⟩

/-- What is no number is laid over nothing but a number, and then nothing is left of that. -/
theorem merge_of_null {path : String} {base top merged : Value} (laid : Value.merge path base top = .ok merged)
    (null : merged.tree .null = .null) : merged = top := by
  obtain ⟨kind, rfl⟩ := eq_float null
  have type : "float" = top.typeName := (merge_typeName laid).2
  cases top with
  | float => exact replacing_eq laid
  | string | integer | boolean | datetime | array | table | unreadable => simp [Value.typeName] at type

section Entries

variable {entries held : List (String × Value)} {name : String} {value : Value}

theorem eq_nil_of_lookup (empty : ∀ key, entries.lookup key = none) : entries = [] := by
  cases entries with
  | nil => rfl
  | cons entry rest =>
    have found := empty entry.1
    rw [List.lookup_cons_self] at found
    cases found

theorem eq_one_of_lookup (distinct : Assoc.Distinct entries) (found : entries.lookup name = some value)
    (only : ∀ key, key ≠ name → entries.lookup key = none) : entries = [(name, value)] := by
  cases entries with
  | nil => cases found
  | cons entry rest =>
    obtain ⟨key, first⟩ := entry
    obtain ⟨fresh, others⟩ := List.nodup_cons.mp distinct
    have same : key = name := by
      apply Decidable.byContradiction
      intro differs
      have nothing := only key differs
      rw [List.lookup_cons_self] at nothing
      cases nothing
    subst same
    rw [List.lookup_cons_self] at found
    cases found
    have empty : ∀ other, rest.lookup other = none := by
      intro other
      by_cases again : other = key
      · rw [again]
        exact Assoc.lookup_of_notMem fresh
      · have miss : (other == key) = false := by simpa using again
        have nothing := only other again
        rwa [List.lookup_cons, miss] at nothing
    rw [eq_nil_of_lookup empty]

/-- A choice written as a table of one entry is that of the upper layer, or the
upper table is empty and the choice is that of the lower layer. -/
theorem laid_choice {entries held merged : List (String × Value)} (below : Assoc.Distinct held)
    (above : Assoc.Distinct entries)
    (laid : ∀ key, Laid (held.lookup key) (entries.lookup key) (merged.lookup key))
    (taken : Backend.decode .json (Value.tree .null (.table merged)) = .ok backend) :
    some backend = (backendIn? (.table entries)).or (backendIn? (.table held)) := by
  obtain ⟨name, alone, named⟩ := choice_of_record taken
  have looked : ∀ key, (merged.lookup key).map (Value.tree .null) = [(name, Tree.null)].lookup key := by
    intro key
    rw [← alone, entryTrees_lookup]
  obtain ⟨value, found, null⟩ : ∃ value, merged.lookup name = some value ∧ value.tree .null = .null := by
    have here := looked name
    rw [List.lookup_cons_self] at here
    exact Option.map_eq_some_iff.mp here
  -- What is laid together to nothing was nothing in both layers.
  have elsewhere : ∀ key, key ≠ name → held.lookup key = none ∧ entries.lookup key = none := by
    intro key differs
    have miss : (key == name) = false := by simpa using differs
    have nothing : merged.lookup key = none := by
      simpa [List.lookup_cons, miss] using looked key
    have here := laid key
    rw [nothing] at here
    generalize held.lookup key = lower, entries.lookup key = upper at here ⊢
    cases here with
    | below => exact ⟨rfl, rfl⟩
    | above => exact ⟨rfl, rfl⟩
  have here := laid name
  rw [found] at here
  cases upper : entries.lookup name with
  | none =>
    rw [upper] at here
    have lower : held.lookup name = some value := here.eq_base.symm
    -- The upper table has nothing under any key, so it names nothing.
    have empty : entries = [] := by
      apply eq_nil_of_lookup
      intro key
      by_cases same : key = name
      · rw [same, upper]
      · exact (elsewhere key same).2
    have one := eq_one_of_lookup below lower fun key differs => (elsewhere key differs).1
    rw [empty, one, backendIn_one null named]
    rfl
  | some top =>
    rw [upper] at here
    have whole : value = top := by
      generalize held.lookup name = lower at here
      cases here with
      | above => rfl
      | both laid => exact merge_of_null laid null
    rw [← whole] at upper
    have one := eq_one_of_lookup above upper fun key differs => (elsewhere key differs).2
    rw [one, backendIn_one null named]
    rfl

end Entries

/-- Only texts and tables name backends. -/
theorem backendIn_of_typeName {value : Value} (string : value.typeName ≠ "string")
    (table : value.typeName ≠ "table") : backendIn? value = none := by
  cases value with
  | string text => exact absurd rfl string
  | table entries => exact absurd rfl table
  | integer number =>
    unfold backendIn? Value.tree
    split <;> rfl
  | float kind => cases kind <;> rfl
  | boolean | datetime | array | unreadable => rfl

/-- The name at a place is that of the upper layer, or else that of the lower one. -/
theorem laid_backend {named : Option Backend} (laid : Laid base top merged)
    (below : ∀ value ∈ base, Ordered value) (above : ∀ value ∈ top, Ordered value)
    (taken : Tree.optional (Backend.decode .json) (merged.map (Value.tree .null)) = .ok named) :
    named = (top.bind backendIn?).or (base.bind backendIn?) := by
  have own : named = merged.bind backendIn? := optional_backend taken
  cases laid with
  | below => exact own
  | above => simpa using own
  | @both path base top merged laid =>
    obtain ⟨sameBelow, sameMerged⟩ := merge_typeName laid
    change named = (backendIn? top).or (backendIn? base)
    by_cases string : top.typeName = "string"
    · obtain ⟨text, rfl⟩ := eq_string string
      have same : merged = .string text := replacing_eq laid
      subst same
      obtain ⟨inside, read, same⟩ := bind_eq_ok.mp taken
      cases same
      rw [backendIn_of_decode read]
      rfl
    by_cases table : top.typeName = "table"
    · obtain ⟨entries, rfl⟩ := eq_table table
      obtain ⟨held, rfl⟩ := eq_table (sameBelow.trans table)
      obtain ⟨inside, rfl⟩ := eq_table (sameMerged.trans table)
      obtain ⟨backend, read, same⟩ := bind_eq_ok.mp taken
      cases same
      have lower : Assoc.Distinct held := (below _ rfl).1.distinct
      have upper : Assoc.Distinct entries := (above _ rfl).1.distinct
      exact laid_choice lower upper (fun key => merge_laid (above _ rfl) laid key) read
    -- Neither a text nor a table, and both layers are of that type: there is no name in any of them.
    · have plainBase : backendIn? base = none := by
        apply backendIn_of_typeName <;> rwa [sameBelow]
      have plainMerged : backendIn? merged = none := by
        apply backendIn_of_typeName <;> rwa [sameMerged]
      rw [own, Option.bind_some, plainMerged, backendIn_of_typeName string table, plainBase]
      rfl

/-! ### The backend of settings -/

/-- The backend that is chosen is that of the name, or else that of the URL. -/
theorem chosen {name : Option Backend} {url : Option String}
    (choice : chosenBackend name url = .ok (some backend)) :
    name.or (url.bind Backend.ofUrl?) = some backend := by
  cases name with
  | some name =>
    cases choice
    rfl
  | none =>
    cases url with
    | none => cases choice
    | some url =>
      obtain ⟨found, read, same⟩ := map_eq_ok.mp choice
      cases same
      unfold Backend.ofUrl at read
      split at read
      · rename_i led
        cases read
        simpa using led
      · cases read

theorem givenBy_of_chosen {answer : Except Error Backend} {name : Option Backend} {url : Option String}
    (answered : answer = .ok backend) (choice : chosenBackend name url = .ok (some backend))
    (names : name = layers.findSome? Word.name) (urls : url = layers.findSome? Word.url) :
    GivenBy layers answer := by
  have given : namesFirst layers = some backend := by
    rw [namesFirst, ← names, ← urls]
    exact chosen choice
  constructor
  · exact ⟨backend, answered, given⟩
  · intro settled
    exact ⟨backend, answered, (mostSpecific_eq_namesFirst settled).trans given⟩

theorem chosen_of_default (answered : settings.defaultBackend = .ok backend) :
    chosenBackend settings.database.backend settings.database.url = .ok (some backend) := by
  obtain ⟨choice, chosen, answered⟩ := bind_eq_ok.mp answered
  cases choice with
  | none => cases answered
  | some found =>
    cases answered
    exact chosen

theorem chosen_of_tenant {tenant : TenantSettings} (answered : backendOf identifier tenant = .ok backend) :
    chosenBackend tenant.backend tenant.url = .ok (some backend) := by
  obtain ⟨choice, chosen, answered⟩ := bind_eq_ok.mp answered
  cases choice with
  | none => cases answered
  | some found =>
    cases answered
    exact chosen

theorem named_of_override {α β : Type} {set : Option β} {name : β → Option α} {before after : Option α}
    (overridden : after.map some = (set.map name).or (before.map some)) :
    after = (set.bind name).or before := by
  cases set with
  | none =>
    cases after <;> cases before <;> simp_all
  | some word =>
    cases after with
    | none => simp at overridden
    | some backend =>
      have same : name word = some backend := by simpa using overridden.symm
      simp [same]

theorem findSome_cons {α β : Type} (say : α → Option β) (first : α) (rest : List α) :
    (first :: rest).findSome? say = (say first).or (rest.findSome? say) := by
  rw [List.findSome?_cons]
  cases say first <;> rfl

/-- The backend of settings is given by the layers they were loaded from, names
first: that of work without a tenant by the variables and the two files, that of
a tenant by the two files. -/
theorem backend_given_by_layers (files : Files) (vars : Variables) (directory : String) {settings : Settings}
    (loaded : (ofDirectory files vars directory).result = .ok settings) :
    ∃ base top, layer files (commonFile directory) = .ok base ∧
      layer files (specialFile directory (detectEnvironment vars)) = .ok top ∧
      (Unlisted base ["database"] → Unlisted top ["database"] →
        GivenBy [ofVariables vars, inSection top ["database"], inSection base ["database"]]
          settings.defaultBackend) ∧
      ∀ identifier ∈ settings.tenants.map (·.1),
        Unlisted base ["tenants", identifier] → Unlisted top ["tenants", identifier] →
        GivenBy [inSection top ["tenants", identifier], inSection base ["tenants", identifier]]
          (settings.tenantBackend identifier) := by
  obtain ⟨document, before, made, decoded, overridden, valid⟩ := ofDirectory_eq_ok.mp loaded
  obtain ⟨base, top, common, special, ordered, plain, laid⟩ := documentOfDirectory_laid made
  have below : ∀ path, ∀ value ∈ at? base path, Ordered value := fun _ _ => at_ordered (layer_ordered common)
  have above : ∀ path, ∀ value ∈ at? top path, Ordered value := fun _ _ => at_ordered (layer_ordered special)
  obtain ⟨-, sameTenants, -, backend, url, -⟩ := override_eq_ok overridden
  obtain ⟨⟨default, answered⟩, -, passed, -⟩ := AcceptedSettings.validate_iff.mp valid
  refine ⟨base, top, common, special, ?_, ?_⟩
  · intro lower upper
    have unlisted : Unlisted document ["database"] := (laid "database" []).typeName (· ≠ "array") lower upper
    obtain ⟨ownBackend, ownUrl, -⟩ := database_fields plain decoded unlisted
    have name := laid_backend (laid "database" ["backend"]) (below _) (above _) ownBackend
    have address := (optional_text ownUrl).trans (Laid.text (laid "database" ["url"]))
    apply givenBy_of_chosen answered (chosen_of_default answered)
    · rw [named_of_override backend, name, findSome_cons, findSome_cons, findSome_cons, List.findSome?_nil,
        Option.or_none]
      rfl
    · rw [url, address, findSome_cons, findSome_cons, findSome_cons, List.findSome?_nil, Option.or_none]
      rfl
  · intro identifier listed lower upper
    obtain ⟨⟨_, tenant⟩, member, rfl⟩ := List.mem_map.mp listed
    rename_i identifier
    have found : before.tenants.lookup identifier = some tenant := by
      rw [← sameTenants]
      exact Assoc.lookup_of_mem settings.distinct member
    have unlisted : Unlisted document ["tenants", identifier] :=
      (laid "tenants" [identifier]).typeName (· ≠ "array") lower upper
    obtain ⟨ownBackend, ownUrl, -⟩ := tenant_fields ordered plain decoded unlisted found
    have name := laid_backend (laid "tenants" [identifier, "backend"]) (below _) (above _) ownBackend
    have address := (optional_text ownUrl).trans (Laid.text (laid "tenants" [identifier, "url"]))
    obtain ⟨⟨backend, answered⟩, -⟩ := AcceptedSettings.validateTenant_iff.mp (passed _ member)
    have bound : settings.tenantBackend identifier = .ok backend :=
      (AcceptedSettings.tenantBackend_of_mem member).trans answered
    apply givenBy_of_chosen bound (chosen_of_tenant answered)
    · rw [name, findSome_cons, findSome_cons, List.findSome?_nil, Option.or_none]
      rfl
    · rw [address, findSome_cons, findSome_cons, List.findSome?_nil, Option.or_none]
      rfl

theorem halves_unlisted (database acme : String × String) :
    Unlisted (half database acme) ["database"] ∧ Unlisted (half database acme) ["tenants", "acme"] := by
  constructor <;> rintro value ⟨⟩ <;> simp [Value.typeName]

/-- In halves of a section the name is below and the URL above, and the name is
the one that counts. What the tenant has is a URL alone. -/
theorem halves_given_by_layers :
    (ofDirectory (filesOf halves) (fun _ => none) "app").result = .ok bothHalves ∧
    GivenBy [ofVariables fun _ => none, inSection upperHalf ["database"], inSection lowerHalf ["database"]]
      bothHalves.defaultBackend ∧
    GivenBy [inSection upperHalf ["tenants", "acme"], inSection lowerHalf ["tenants", "acme"]]
      (bothHalves.tenantBackend "acme") := by
  obtain ⟨lower, upper, below, above, default, tenants⟩ :=
    backend_given_by_layers (filesOf halves) (fun _ => none) "app" halves_loaded
  obtain rfl : lower = lowerHalf := Except.ok.inj (below.symm.trans lowerHalf_read)
  obtain rfl : upper = upperHalf := Except.ok.inj (above.symm.trans upperHalf_read)
  obtain ⟨databaseBelow, tenantBelow⟩ := halves_unlisted ("backend", "mysql") ("url", "mysql://one")
  obtain ⟨databaseAbove, tenantAbove⟩ := halves_unlisted ("url", "postgres://two") ("timezone", "+01:00")
  have acme := tenants "acme" (by decide) tenantBelow tenantAbove
  exact ⟨halves_loaded, default databaseBelow databaseAbove, acme⟩

/-- The file of the environment is the most specific layer that says anything, and
its URL leads to PostgreSQL; the settings made of it are for MySQL all the same. -/
theorem name_below_beats_url_above :
    (ofDirectory (filesOf halves) (fun _ => none) "app").result = .ok bothHalves ∧
    layer (filesOf halves) (commonFile "app") = .ok lowerHalf ∧
    layer (filesOf halves) (specialFile "app" (detectEnvironment fun _ => none)) = .ok upperHalf ∧
    bothHalves.defaultBackend = .ok .mysql ∧
    mostSpecific [ofVariables fun _ => none, inSection upperHalf ["database"],
      inSection lowerHalf ["database"]] = some .postgres := by
  refine ⟨halves_loaded, lowerHalf_read, upperHalf_read, rfl, ?_⟩
  decide +kernel

end TenantSql.BackendPrecedence
