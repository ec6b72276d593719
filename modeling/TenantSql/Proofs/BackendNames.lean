import TenantSql.Proofs.TypeNames
import TenantSql.Settings.Decode

/-! The ways to name a backend agree. People may write every name that documents know, in
letters of any case and with blanks around it, and mean the same backend. A connection URL
names its backend before the first colon by a name that people may write, and nothing
behind its scheme counts; since such a name belongs to one backend, the schemes of two
backends never begin one URL, and they can be tried in any order. -/
namespace TenantSql.BackendNames
open Text TypeNames Backend
open TenantSql.Tree (Convention)

variable {backend backend' : Backend} {name text url scheme : String} {one other core : List Char}

/-- A text that shows a name, with letters of ASCII in any case and blanks around it. -/
def Shown (name text : List Char) : Prop :=
  ∃ before core after, text = before ++ core ++ after ∧ Blanks before ∧ Blanks after ∧ SameLetters core name

/-- The name in a document that names a choice. -/
def nameIn? : Tree → Option String
  | .text name => some name
  | .record [(name, _)] => some name
  | _ => none

/-- What stands before the first colon of a URL. -/
def schemeName (url : String) : String := String.ofList (url.toList.takeWhile (· ≠ ':'))

/-- A URL begins with a scheme of the backend. -/
def LeadsTo (url : String) (backend : Backend) : Prop :=
  ∃ scheme, (scheme, backend) ∈ schemes ∧ scheme.toList <+: url.toList

/-! ### Letter case -/

theorem toLower_toUpper (c : Char) : c.toUpper.toLower = c.toLower :=
  of_plain_toUpper (fun c capital => capital.toLower = c.toLower) (by decide) rfl

theorem toUpper_toLower (c : Char) : c.toLower.toUpper = c.toUpper := by
  obtain plain | foreign := Nat.lt_or_ge c.toNat 128
  · exact of_plain (fun c => c.toLower.toUpper = c.toUpper) (by decide) plain
  · rw [toLower_foreign c foreign]

theorem sameLetters_iff : SameLetters one other ↔ one.map Char.toLower = other.map Char.toLower := by
  unfold SameLetters
  constructor
  · intro same
    have lowered := congrArg (List.map Char.toLower) same
    simpa only [List.map_map, Function.comp_def, toLower_toUpper] using lowered
  · intro same
    have raised := congrArg (List.map Char.toUpper) same
    simpa only [List.map_map, Function.comp_def, toUpper_toLower] using raised

/-- The names people use are words in lower case, without a letter that lower case borrows. -/
theorem spokenNames_plain : ∀ entry ∈ spokenNames, entry.1.toList ≠ [] ∧ ∀ c ∈ entry.1.toList,
    isBlank c = false ∧ c.toLower = c ∧ ¬ Borrowed smallsBorrowed c := by
  simp [spokenNames, Borrowed, smallsBorrowed, isBlank]

/-- Letters of any case make a word of a word. -/
theorem solid_of_sameLetters {word : List Char} (solid : Solid word) (same : SameLetters core word) : Solid core := by
  refine ⟨?_, fun c within => ?_⟩
  · rintro rfl
    exact solid.1 (List.map_eq_nil_iff.mp same.symm)
  · have shown : c.toUpper ∈ word.map Char.toUpper := same ▸ List.mem_map_of_mem within
    obtain ⟨d, inside, alike⟩ := List.mem_map.mp shown
    rw [← isBlank_toUpper, ← alike, isBlank_toUpper]
    exact solid.2 d inside

/-! ### Names -/

/-- Of a text that people write, this name is left exactly if the text shows it. -/
theorem plainName_eq_iff (listed : (name, backend) ∈ spokenNames) :
    plainName text = name ↔ Shown name.toList text.toList := by
  obtain ⟨filled, plain⟩ := spokenNames_plain _ listed
  have solid : Solid name.toList := ⟨filled, fun c within => (plain c within).1⟩
  have lowered : name.toList.map Char.toLower = name.toList :=
    (List.map_congr_left fun c within => (plain c within).2.1).trans (List.map_id _)
  have unborrowed : ∀ c ∈ name.toList, ¬ Borrowed smallsBorrowed c := fun c within => (plain c within).2.2
  have left : plainName text = name ↔ SameLetters (trim text.toList) name.toList := by
    rw [plainName, ← String.toList_inj, String.toList_ofList, lower_eq_iff unborrowed, sameLetters_iff, lowered]
  rw [left]
  constructor
  · intro same
    obtain blanks | ⟨before, core, after, split, front, back, trimmed⟩ := blanks_or_around text.toList
    · rw [trim_blanks blanks] at same
      exact absurd rfl (solid_of_sameLetters solid same).1
    · rw [split, trim_around front back trimmed] at same
      exact ⟨before, core, after, split, front, back, same⟩
  · rintro ⟨before, core, after, split, front, back, same⟩
    rwa [split, trim_around front back (solid_of_sameLetters solid same).trimmed]

/-- People name a backend by every text that shows one of its names, and by no other. -/
theorem parse_eq_ok_iff : Backend.parse text = .ok backend ↔
    ∃ name, spokenNames.lookup name = some backend ∧ Shown name.toList text.toList := by
  have read : Backend.parse text = .ok backend ↔ spokenNames.lookup (plainName text) = some backend := by
    rw [Backend.parse, ofName?]
    cases spokenNames.lookup (plainName text) <;> simp
  rw [read]
  constructor
  · intro found
    exact ⟨_, found, (plainName_eq_iff (Assoc.mem_of_lookup found)).mp rfl⟩
  · rintro ⟨name, found, shown⟩
    rwa [(plainName_eq_iff (Assoc.mem_of_lookup found)).mpr shown]

theorem shown_self (text : List Char) : Shown text text :=
  ⟨[], text, [], (List.append_nil text).symm, blanks_nil, blanks_nil, rfl⟩

/-- People may write what documents may. -/
theorem documentNames_spoken : ∀ entry ∈ documentNames, spokenNames.lookup entry.1 = some entry.2 := by
  decide

/-- A document that names a backend does so by one of the names for documents. -/
theorem name_of_decode {convention : Convention} {tree : Tree} (taken : Backend.decode convention tree = .ok backend) :
    ∃ name, nameIn? tree = some name ∧ documentNames.lookup name = some backend := by
  cases tree with
  | text name => exact ⟨name, rfl, Tree.asChoice.named_eq_ok.mp taken⟩
  | record fields =>
    match fields, taken with
    | [(name, beside)], taken =>
      cases named : Tree.asChoice.named documentNames name with
      | error mismatch => simp [Backend.decode, Tree.asChoice, named, bind, Except.bind] at taken
      | ok choice =>
        obtain rfl : choice = backend := by
          simp only [Backend.decode, Tree.asChoice, named, bind, Except.bind] at taken
          split at taken
          · exact Except.ok.inj taken
          · cases taken
        exact ⟨name, rfl, Tree.asChoice.named_eq_ok.mp named⟩
  | _ => cases taken

/-! ### URLs -/

/-- Each scheme has a colon, and before it a name of its backend that people may write. -/
theorem schemes_spoken : ∀ entry ∈ schemes, ':' ∈ entry.1.toList ∧
    spokenNames.lookup (schemeName entry.1) = some entry.2 := by
  decide +kernel

/-- What begins a URL and has a colon has the same before it as the URL. -/
theorem schemeName_of_prefix (begins : scheme.toList <+: url.toList) (marked : ':' ∈ scheme.toList) :
    schemeName url = schemeName scheme := by
  obtain ⟨rest, split⟩ := begins
  have stopped : (scheme.toList.takeWhile (· ≠ ':')).length ≠ scheme.toList.length := by
    intro whole
    have kept := (List.takeWhile_prefix (· ≠ ':')).eq_of_length whole
    exact absurd (List.takeWhile_eq_self_iff.mp kept ':' marked) (by decide)
  rw [schemeName, ← split, List.takeWhile_append, if_neg stopped, schemeName]

theorem LeadsTo.spoken (leads : LeadsTo url backend) :
    ':' ∈ url.toList ∧ spokenNames.lookup (schemeName url) = some backend := by
  obtain ⟨scheme, listed, begins⟩ := leads
  obtain ⟨marked, spoken⟩ := schemes_spoken _ listed
  exact ⟨begins.subset marked, schemeName_of_prefix begins marked ▸ spoken⟩

/-- A URL leads to one backend at most. -/
theorem LeadsTo.unique (leads : LeadsTo url backend) (leads' : LeadsTo url backend') : backend = backend' :=
  Option.some.inj (leads.spoken.2.symm.trans leads'.spoken.2)

/-- The schemes can be tried in any order. -/
theorem find_eq_some_iff {order : List (String × Backend)} (all : order.Perm schemes) :
    (order.find? fun (scheme, _) => scheme.toList.isPrefixOf url.toList).map (·.2) = some backend ↔
      LeadsTo url backend := by
  constructor
  · intro found
    obtain ⟨⟨scheme, _⟩, first, rfl⟩ := Option.map_eq_some_iff.mp found
    exact ⟨scheme, all.mem_iff.mp (List.mem_of_find?_eq_some first), by simpa using List.find?_some first⟩
  · rintro ⟨scheme, listed, begins⟩
    have some : (order.find? fun (scheme, _) => scheme.toList.isPrefixOf url.toList).isSome :=
      List.find?_isSome.mpr ⟨(scheme, backend), all.mem_iff.mpr listed, by simpa using begins⟩
    obtain ⟨⟨first, held⟩, found⟩ := Option.isSome_iff_exists.mp some
    have leads : LeadsTo url held :=
      ⟨first, all.mem_iff.mp (List.mem_of_find?_eq_some found), by simpa using List.find?_some found⟩
    rw [found, Option.map_some, leads.unique ⟨scheme, listed, begins⟩]

theorem ofUrl_eq_ok_iff : Backend.ofUrl url = .ok backend ↔ LeadsTo url backend := by
  rw [← find_eq_some_iff (List.Perm.refl schemes), ← ofUrl?, Backend.ofUrl]
  cases ofUrl? url <;> simp

/-- What begins a URL begins every longer one. -/
theorem LeadsTo.append (leads : LeadsTo url backend) (further : String) : LeadsTo (url ++ further) backend := by
  obtain ⟨scheme, listed, begins⟩ := leads
  refine ⟨scheme, listed, ?_⟩
  rw [String.toList_append]
  exact begins.trans (List.prefix_append _ _)

/-- A name by which a document, in either format, names a backend is understood from
people as that backend, with its letters of ASCII in any case and any blanks around it. A
URL that leads to a backend has a colon, and before the first one a name that is
understood from people as that backend; whatever is put behind the URL, it leads there
still. No URL begins with schemes of two backends, and in whatever order the schemes are
tried, it leads where it leads. -/
theorem decoders_agree :
    (∀ convention tree backend, Backend.decode convention tree = .ok backend →
      ∃ name, nameIn? tree = some name ∧
        ∀ text : String, Shown name.toList text.toList → Backend.parse text = .ok backend) ∧
    (∀ url backend, Backend.ofUrl url = .ok backend →
      ':' ∈ url.toList ∧ Backend.parse (schemeName url) = .ok backend ∧
        ∀ further, Backend.ofUrl (url ++ further) = .ok backend) ∧
    (∀ url backend backend', LeadsTo url backend → LeadsTo url backend' → backend = backend') ∧
    ∀ (order : List (String × Backend)) (url : String), order.Perm schemes →
      (order.find? fun (scheme, _) => scheme.toList.isPrefixOf url.toList).map (·.2) = Backend.ofUrl? url := by
  refine ⟨?_, ?_, fun _ _ _ => LeadsTo.unique, ?_⟩
  · intro convention tree backend taken
    obtain ⟨name, named, known⟩ := name_of_decode taken
    have spoken := documentNames_spoken _ (Assoc.mem_of_lookup known)
    exact ⟨name, named, fun text shown => parse_eq_ok_iff.mpr ⟨name, spoken, shown⟩⟩
  · intro url backend found
    have leads := ofUrl_eq_ok_iff.mp found
    obtain ⟨marked, spoken⟩ := leads.spoken
    exact ⟨marked, parse_eq_ok_iff.mpr ⟨_, spoken, shown_self _⟩,
      fun further => ofUrl_eq_ok_iff.mpr (leads.append further)⟩
  · intro order url all
    exact Option.ext fun backend => (find_eq_some_iff all).trans (find_eq_some_iff (List.Perm.refl schemes)).symm

/-- A name from a document in capitals and between blanks, one of them beyond ASCII; a URL
without slashes, and with more behind it; and the schemes tried from the last on. -/
theorem postgresql_and_sqlite_named :
    Backend.decode .json (.text "postgresql") = .ok .postgres ∧
      Backend.parse "\u3000\tPostgreSQL " = .ok .postgres ∧
      Backend.ofUrl "sqlite::memory:" = .ok .sqlite ∧ Backend.parse (schemeName "sqlite::memory:") = .ok .sqlite ∧
      Backend.ofUrl ("sqlite::memory:" ++ "?cache=mysql://") = .ok .sqlite ∧
      LeadsTo "sqlite://db" .sqlite ∧ (∀ backend, LeadsTo "sqlite://db" backend → backend = .sqlite) ∧
      schemes.reverse.Perm schemes ∧
      (schemes.reverse.find? fun (scheme, _) => scheme.toList.isPrefixOf "sqlite://db".toList).map (·.2) =
        Backend.ofUrl? "sqlite://db" := by
  obtain ⟨documents, urls, unique, order⟩ := decoders_agree
  have taken : Backend.decode .json (.text "postgresql") = .ok .postgres := by decide
  obtain ⟨name, named, people⟩ := documents .json (.text "postgresql") .postgres taken
  obtain rfl : "postgresql" = name := Option.some.inj named
  have shown : Shown "postgresql".toList "\u3000\tPostgreSQL ".toList :=
    ⟨['\u3000', '\t'], "PostgreSQL".toList, [' '], by decide, by decide, by decide, by decide⟩
  have found : Backend.ofUrl "sqlite::memory:" = .ok .sqlite := by decide +kernel
  obtain ⟨-, scheme, further⟩ := urls _ _ found
  have leads : LeadsTo "sqlite://db" .sqlite := ⟨"sqlite:", by decide, by decide⟩
  exact ⟨taken, people _ shown, found, scheme, further _, leads, fun backend other => unique _ _ _ other leads,
    List.reverse_perm schemes, order _ _ (List.reverse_perm schemes)⟩

end TenantSql.BackendNames
