import TenantSql.Settings.Load
import TenantSql.Proofs.OrderedDocument

/-! One document laid over another, seen from the places in them. At every place
the same rule holds as for the whole: a value that only one of the two has stays
as it is, and where both have one, one is laid over the other. The document of a
directory is made that way from its common file and the file of the environment,
of which either may be missing. -/
namespace TenantSql.LayeredDocument
open Settings Outcomes OrderedDocument

variable {base top merged : Option Value} {key : String} {files : Files} {directory : String}
  {environment : Environment} {document : Value}

/-- The value under a key of a table. -/
def under? (key : String) : Value → Option Value
  | .table entries => entries.lookup key
  | _ => none

/-- The value that a path of keys leads to. -/
def at? (value : Value) : List String → Option Value
  | [] => some value
  | key :: rest => (under? key value).bind (at? · rest)

/-- What two layers make of one place. -/
inductive Laid : Option Value → Option Value → Option Value → Prop where
  | below {base : Option Value} : Laid base none base
  | above {top : Option Value} : Laid none top top
  | both {path : String} {base top merged : Value} (laid : Value.merge path base top = .ok merged) :
    Laid (some base) (some top) (some merged)

theorem Laid.eq_base (laid : Laid base none merged) : merged = base := by
  cases laid <;> rfl

/-- Of two tables, the entries of the upper one are laid over the lower one in
turn. Those before the key and after it do not touch what is under it. -/
theorem mergeEntries_laid {path : String} {held entries merged : List (String × Value)}
    (distinct : Assoc.Distinct entries) (laid : Value.mergeEntries path held entries = .ok merged)
    (key : String) :
    Laid (held.lookup key) (entries.lookup key) (merged.lookup key) := by
  induction entries generalizing held with
  | nil =>
    cases laid
    exact Laid.below
  | cons entry rest ih =>
    obtain ⟨name, value⟩ := entry
    obtain ⟨fresh, others⟩ := List.nodup_cons.mp distinct
    -- Whatever has been put under the name by now is there at the end.
    have final : ∀ {inner : Value}, Value.mergeEntries path (Assoc.put name inner held) rest = .ok merged →
        key = name → merged.lookup key = some inner := by
      rintro inner later rfl
      have kept := ih others later
      rw [Assoc.lookup_of_notMem fresh, Assoc.lookup_put_self] at kept
      exact kept.eq_base
    have elsewhere : ∀ {inner : Value}, Value.mergeEntries path (Assoc.put name inner held) rest = .ok merged →
        key ≠ name → Laid (held.lookup key) (rest.lookup key) (merged.lookup key) := by
      intro inner later differs
      have kept := ih others later
      rwa [Assoc.lookup_put_of_ne differs] at kept
    unfold Value.mergeEntries at laid
    by_cases same : key = name
    · subst same
      rw [List.lookup_cons_self]
      split at laid
      · rename_i absent
        rw [absent, final laid rfl]
        exact Laid.above
      · rename_i base found
        obtain ⟨inner, one, later⟩ := bind_eq_ok.mp laid
        rw [found, final later rfl]
        exact Laid.both one
    · have miss : (key == name) = false := by simpa using same
      rw [List.lookup_cons, miss]
      split at laid
      · exact elsewhere laid same
      · obtain ⟨inner, -, later⟩ := bind_eq_ok.mp laid
        exact elsewhere later same

theorem entry_of_not_table {value : Value} (plain : value.typeName ≠ "table") : under? key value = none := by
  cases value <;> first | rfl | exact absurd rfl plain

theorem replacing_laid {path : String} {base top merged : Value} (plain : top.typeName ≠ "table")
    (laid : Value.replacing path base top = .ok merged) :
    Laid (under? key base) (under? key top) (under? key merged) := by
  have same : merged = top := replacing_eq laid
  unfold Value.replacing at laid
  split at laid
  · rename_i types
    rw [same, entry_of_not_table plain, entry_of_not_table (types ▸ plain)]
    exact Laid.below
  · cases laid

/-- What is laid over something at a place is laid over it at every place inside. -/
theorem merge_laid {path : String} {base top merged : Value} (ordered : Ordered top)
    (laid : Value.merge path base top = .ok merged) (key : String) :
    Laid (under? key base) (under? key top) (under? key merged) := by
  cases top with
  | table entries =>
    unfold Value.merge at laid
    split at laid
    · obtain ⟨inside, each, same⟩ := map_eq_ok.mp laid
      cases same
      exact mergeEntries_laid ordered.1.distinct each key
    · cases laid
  | array items =>
    unfold Value.merge at laid
    split at laid <;> cases laid
    exact Laid.below
  | string | integer | float | boolean | datetime | unreadable =>
    exact replacing_laid (by simp [Value.typeName]) laid

theorem Laid.entry (laid : Laid base top merged) (ordered : ∀ value ∈ top, Ordered value) (key : String) :
    Laid (base.bind (under? key)) (top.bind (under? key)) (merged.bind (under? key)) := by
  cases laid with
  | below => exact Laid.below
  | above => exact Laid.above
  | both laid => exact merge_laid (ordered _ rfl) laid key

theorem entry_ordered {value inner : Value} (ordered : Ordered value) (found : under? key value = some inner) :
    Ordered inner := by
  cases value with
  | table entries => exact (table_ordered_iff.mp ordered).lookup found
  | string | integer | float | boolean | datetime | unreadable | array => cases found

theorem at_ordered {value inner : Value} {path : List String} (ordered : Ordered value)
    (found : at? value path = some inner) : Ordered inner := by
  induction path generalizing value with
  | nil =>
    cases found
    exact ordered
  | cons key rest ih =>
    obtain ⟨outer, here, found⟩ := Option.bind_eq_some_iff.mp found
    exact ih (entry_ordered ordered here) found

theorem Laid.at (laid : Laid base top merged) (ordered : ∀ value ∈ top, Ordered value) (path : List String) :
    Laid (base.bind (at? · path)) (top.bind (at? · path)) (merged.bind (at? · path)) := by
  induction path generalizing base top merged with
  | nil => simpa [at?] using laid
  | cons key rest ih =>
    have inside : ∀ value ∈ top.bind (under? key), Ordered value := by
      intro value found
      obtain ⟨outer, held, found⟩ := Option.bind_eq_some_iff.mp found
      exact entry_ordered (ordered outer held) found
    simpa [at?, Option.bind_assoc] using ih (laid.entry ordered key) inside

/-- A path of a document at which there is no list, and maybe nothing at all. -/
def Unlisted (document : Value) (path : List String) : Prop :=
  ∀ value ∈ at? document path, value.typeName ≠ "array"

/-! ### Types -/

theorem eq_string {value : Value} (type : value.typeName = "string") : ∃ text, value = .string text := by
  cases value with
  | string text => exact ⟨text, rfl⟩
  | integer | float | boolean | datetime | array | table | unreadable => simp [Value.typeName] at type

theorem eq_table {value : Value} (type : value.typeName = "table") : ∃ entries, value = .table entries := by
  cases value with
  | table entries => exact ⟨entries, rfl⟩
  | string | integer | float | boolean | datetime | array | unreadable => simp [Value.typeName] at type

theorem replacing_typeName {path : String} {base top merged : Value}
    (laid : Value.replacing path base top = .ok merged) :
    base.typeName = top.typeName ∧ merged.typeName = top.typeName := by
  have same : merged = top := replacing_eq laid
  unfold Value.replacing at laid
  split at laid
  · rename_i types
    exact ⟨types, by rw [same]⟩
  · cases laid

/-- Only values of one type are laid over one another, and they make one of that type. -/
theorem merge_typeName {path : String} {base top merged : Value}
    (laid : Value.merge path base top = .ok merged) :
    base.typeName = top.typeName ∧ merged.typeName = top.typeName := by
  cases top with
  | table entries =>
    unfold Value.merge at laid
    split at laid
    · obtain ⟨inside, -, same⟩ := map_eq_ok.mp laid
      cases same
      exact ⟨rfl, rfl⟩
    · cases laid
  | array items =>
    unfold Value.merge at laid
    split at laid <;> cases laid
    exact ⟨rfl, rfl⟩
  | string | integer | float | boolean | datetime | unreadable => exact replacing_typeName laid

/-- What both layers are at a place, the place is as well. -/
theorem Laid.typeName (laid : Laid base top merged) (holds : String → Prop)
    (below : ∀ value ∈ base, holds value.typeName) (above : ∀ value ∈ top, holds value.typeName) :
    ∀ value ∈ merged, holds value.typeName := by
  cases laid with
  | below => exact below
  | above => exact above
  | both laid =>
    rintro _ ⟨⟩
    rw [(merge_typeName laid).2]
    exact above _ rfl

theorem Laid.isSome (laid : Laid base top merged) : merged.isSome = (top.isSome || base.isSome) := by
  cases laid with
  | below => simp
  | above => simp
  | both => rfl

/-! ### Texts -/

/-- The text that a value is. -/
def textIn? : Value → Option String
  | .string text => some text
  | _ => none

/-- The text at a path of a document. -/
def textAt? (document : Value) (path : List String) : Option String := (at? document path).bind textIn?

theorem textIn_of_typeName {value : Value} (other : value.typeName ≠ "string") : textIn? value = none := by
  cases value with
  | string text => exact absurd rfl other
  | integer | float | boolean | datetime | array | table | unreadable => rfl

/-- The text at a place is that of the upper layer, or else that of the lower one. -/
theorem Laid.text (laid : Laid base top merged) :
    merged.bind textIn? = (top.bind textIn?).or (base.bind textIn?) := by
  cases laid with
  | below => rfl
  | above => simp
  | @both path base top merged laid =>
    obtain ⟨below, whole⟩ := merge_typeName laid
    change textIn? merged = (textIn? top).or (textIn? base)
    by_cases string : top.typeName = "string"
    · obtain ⟨text, rfl⟩ := eq_string string
      have same : merged = .string text := replacing_eq laid
      rw [same]
      rfl
    · have plain : base.typeName ≠ "string" := by rwa [below]
      have still : merged.typeName ≠ "string" := by rwa [whole]
      rw [textIn_of_typeName string, textIn_of_typeName plain, textIn_of_typeName still]
      rfl

/-! ### The document of a directory -/

/-- The file that is read in every environment. -/
def commonFile (directory : String) : String := pathIn directory "sqldialect.toml"

/-- The file that is read in one environment. -/
def specialFile (directory : String) (environment : Environment) : String :=
  pathIn directory ("sqldialect." ++ environment.shortName ++ ".toml")

/-- A file system with these texts under their paths and nothing else. -/
def filesOf (texts : List (String × String)) : Files where
  isThere path := (texts.lookup path).isSome
  text path :=
    match texts.lookup path with
    | some text => .ok text
    | none => .error .notFound

/-- The document in a file, which holds nothing if the file is not there. -/
def layer (files : Files) (path : String) : Except Error Value :=
  if files.isThere path then documentOfFile files path else .ok (.table [])

/-- The document in a file is what its text is read as, taken over. -/
theorem documentOfFile_eq_ok {path : String} : documentOfFile files path = .ok document ↔
    ∃ text value, files.text path = .ok text ∧ Toml.read text = .ok value ∧ value.kept? = some document := by
  constructor
  · intro read
    obtain ⟨text, held, read⟩ := bind_eq_ok.mp read
    obtain ⟨value, parsed, read⟩ := bind_eq_ok.mp read
    refine ⟨text, value, mapError_eq_ok.mp (seenFrom_eq_ok.mp held), mapError_eq_ok.mp parsed, ?_⟩
    dsimp only at read
    split at read
    · rename_i kept taken
      cases read
      exact taken
    · cases read
  · rintro ⟨text, value, held, parsed, taken⟩
    refine bind_eq_ok.mpr ⟨text, seenFrom_eq_ok.mpr (mapError_eq_ok.mpr held), ?_⟩
    refine bind_eq_ok.mpr ⟨value, mapError_eq_ok.mpr parsed, ?_⟩
    simp only [taken]

/-- Every document is a table. -/
theorem read_table {text : String} (read : Toml.read text = .ok document) :
    ∃ entries, document = .table entries := by
  obtain ⟨all, -, read⟩ := bind_eq_ok.mp read
  obtain ⟨draft, -, same⟩ := bind_eq_ok.mp read
  cases same
  exact ⟨_, rfl⟩

theorem documentOfFile_ordered {path : String} (read : documentOfFile files path = .ok document) :
    Ordered document := by
  obtain ⟨text, value, -, parsed, taken⟩ := documentOfFile_eq_ok.mp read
  exact kept_ordered value (read_ordered parsed) taken

theorem kept_typeName {entries : List (String × Value)} {kept : Value}
    (taken : (Value.table entries).kept? = some kept) : kept.typeName = "table" ∨ kept.typeName = "datetime" := by
  obtain ⟨text, rfl⟩ | ⟨held, -, rfl⟩ := kept_table taken
  · exact .inr rfl
  · exact .inl rfl

theorem ne_array {value : Value} (root : value.typeName = "table" ∨ value.typeName = "datetime") :
    value.typeName ≠ "array" := by
  rcases root with type | type
  · simp [type]
  · simp [type]

theorem documentOfFile_typeName {path : String} (read : documentOfFile files path = .ok document) :
    document.typeName = "table" ∨ document.typeName = "datetime" := by
  obtain ⟨text, value, -, parsed, taken⟩ := documentOfFile_eq_ok.mp read
  obtain ⟨entries, rfl⟩ := read_table parsed
  exact kept_typeName taken

theorem layer_ordered {path : String} (read : layer files path = .ok document) : Ordered document := by
  unfold layer at read
  split at read
  · exact documentOfFile_ordered read
  · cases read
    exact table_ordered_iff.mpr Sound.nil

/-- A document with that of the environment laid over it. -/
def overlay (files : Files) (environment : Environment) (directory : String) (base : Value) : Traced Value :=
  if files.isThere (specialFile directory environment) then do
    Traced.report (.overlaying (specialFile directory environment))
    let top ← documentOfFile files (specialFile directory environment)
    (Value.merge "$" base top).mapError fun conflict => Error.settings (.conflicting conflict)
  else pure base

theorem documentOfDirectory_eq : documentOfDirectory files environment directory =
    (do overlay files environment directory (← layer files (commonFile directory))) := by
  unfold documentOfDirectory layer
  by_cases there : files.isThere (pathIn directory "sqldialect.toml") = true
  · simp only [commonFile, there, if_true]
    rfl
  · simp only [commonFile, there]
    rfl

/-- The document of a directory, but for what is reported on the way. -/
theorem documentOfDirectory_result : (documentOfDirectory files environment directory).result = (do
    let base ← layer files (commonFile directory)
    let top ← layer files (specialFile directory environment)
    if files.isThere (specialFile directory environment) then
      (Value.merge "$" base top).mapError fun conflict => Error.settings (.conflicting conflict)
    else .ok base) := by
  rw [documentOfDirectory_eq, Traced.bind_result]
  refine congrArg _ (funext fun base => ?_)
  unfold overlay layer
  by_cases there : files.isThere (specialFile directory environment) = true
  · simp only [there, if_true]
    rw [Traced.bind_result, Traced.bind_result]
    rfl
  · simp only [there]
    rfl

theorem layer_typeName {path : String} (read : layer files path = .ok document) :
    document.typeName = "table" ∨ document.typeName = "datetime" := by
  unfold layer at read
  split at read
  · exact documentOfFile_typeName read
  · cases read
    exact .inl rfl

theorem overlay_laid {base : Value} (ordered : Ordered base) (plain : base.typeName ≠ "array")
    (made : (overlay files environment directory base).result = .ok document) :
    ∃ top, layer files (specialFile directory environment) = .ok top ∧ Ordered document ∧
      document.typeName ≠ "array" ∧ ∀ key, Laid (under? key base) (under? key top) (under? key document) := by
  unfold overlay at made
  unfold layer
  split at made
  · rename_i there
    obtain ⟨_, -, made⟩ := Traced.bind_result_eq_ok.mp made
    obtain ⟨top, read, laid⟩ := Traced.bind_result_eq_ok.mp made
    have above : Ordered top := documentOfFile_ordered read
    have laid : Value.merge "$" base top = .ok document := mapError_eq_ok.mp laid
    refine ⟨top, (if_pos there).trans read, merge_ordered above ordered laid, ?_, merge_laid above laid⟩
    rw [(merge_typeName laid).2]
    exact ne_array (documentOfFile_typeName read)
  · rename_i missing
    cases made
    exact ⟨.table [], if_neg missing, ordered, plain, fun key => Laid.below⟩

/-- What a directory says at any place is what its two files say there, one laid
over the other. -/
theorem documentOfDirectory_laid
    (made : (documentOfDirectory files environment directory).result = .ok document) :
    ∃ base top, layer files (commonFile directory) = .ok base ∧
      layer files (specialFile directory environment) = .ok top ∧ Ordered document ∧
      document.typeName ≠ "array" ∧ ∀ key rest, Laid (at? base (key :: rest)) (at? top (key :: rest)) (at? document (key :: rest)) := by
  rw [documentOfDirectory_eq] at made
  obtain ⟨base, below, made⟩ := Traced.bind_result_eq_ok.mp made
  obtain ⟨top, above, ordered, plain, laid⟩ := overlay_laid (layer_ordered below) (ne_array (layer_typeName below)) made
  refine ⟨base, top, below, above, ordered, plain, ?_⟩
  intro key rest
  exact (laid key).at (fun value found => entry_ordered (layer_ordered above) found) rest

end TenantSql.LayeredDocument
