import TenantSql.Proofs.ComposedClauses
import TenantSql.Proofs.SpacedWords

/-! The words joins are asked for with. Capitals decide whether a word is one of SQL's,
and no letter is lost in them, so only blank text leaves a join without keyword. A listed
word is taken in capitals and any other as it stands; either asks for the same join
again, and its clause is the one of the word as it stands but for that word. -/
namespace TenantSql.JoinKeywords
open Text Join Writer ClauseText ComposedClauses

variable {text name : String} {kind : Join} {letters : List Char} {σ : Type} {writer : Writer σ}
  {state : σ}

/-- A text without the blanks around it. -/
def word (text : String) : String := String.ofList (trim text.toList)

/-- A text in upper case. -/
def capitals (text : String) : String := String.ofList (upper text.toList)

/-- A word as a keyword: the empty one is none. -/
def spoken (name : String) : Option String := if name = "" then none else some name

/-- The join a text asks for: the one its word is listed for in capitals, or one of its
own if its word is not listed. -/
inductive Asks (text : String) : Join → Prop where
  | listed {kind : Join} (found : (capitals (word text), kind) ∈ keywords) : Asks text kind
  | own (missing : capitals (word text) ∉ keywords.map (·.1)) : Asks text (.custom (word text))

/-- What stands behind the keyword of a join and JOIN itself. -/
def joined (backend : Backend) (table : String) (label : Option String) (column : String)
    (otherLabel : Option String) (otherColumn : String) : String :=
  backend.identifier table ++ labelled label ++ " ON " ++
    Fragment.qualified (backend.identifier column) label ++ " = " ++
    Fragment.qualified (backend.identifier otherColumn) otherLabel

/-! ### Letters -/

theorem upperSpellings_filled : ∀ entry ∈ upperSpellings, entry.2 ≠ [] := by decide +kernel

/-- No character is lost in upper case. -/
theorem upperChar_ne_nil (c : Char) : upperChar c ≠ [] := by
  unfold upperChar mapped
  split
  · exact List.cons_ne_nil _ _
  · split
    next spelling found =>
      have filled := upperSpellings_filled _ (Assoc.mem_of_lookup found)
      exact fun empty => filled (List.map_eq_nil_iff.mp empty)
    next => exact List.cons_ne_nil _ _

theorem upper_eq_nil_iff : upper letters = [] ↔ letters = [] := by
  constructor
  · intro empty
    cases letters with
    | nil => rfl
    | cons c rest => exact absurd (List.append_eq_nil_iff.mp empty).1 (upperChar_ne_nil c)
  · rintro rfl
    rfl

theorem capitals_eq_empty_iff : capitals text = "" ↔ text = "" := by
  rw [capitals, ← String.toList_inj, String.toList_ofList, ← String.toList_inj]
  exact upper_eq_nil_iff

theorem word_word (text : String) : word (word text) = word text := by
  rw [word, word, String.toList_ofList, trim_trim]

/-! ### Keywords -/

theorem spoken_getD (name : String) : (spoken name).getD "" = name := by
  unfold spoken
  split
  next empty => exact empty.symm
  next => rfl

theorem spoken_capitals (name : String) : spoken (capitals name) = (spoken name).map capitals := by
  by_cases empty : name = ""
  · rw [spoken, spoken, if_pos (capitals_eq_empty_iff.mpr empty), if_pos empty, Option.map_none]
  · rw [spoken, spoken, if_neg (mt capitals_eq_empty_iff.mp empty), if_neg empty, Option.map_some]

theorem keyword_custom (text : String) : (custom text).keyword = spoken (word text) := by
  have blank : (trim text.toList).isEmpty = true ↔ word text = "" := by
    rw [List.isEmpty_iff, word, ← String.toList_inj, String.toList_ofList]
    rfl
  simp only [keyword, spoken, blank]
  rfl

/-- No word is listed twice. -/
theorem keywords_distinct : Assoc.Distinct keywords := by decide

/-- Listed words are in capitals, have no blanks around them, and are the keywords of
their joins. -/
theorem keywords_written : ∀ entry ∈ keywords,
    word entry.1 = entry.1 ∧ capitals entry.1 = entry.1 ∧ entry.2.keyword = spoken entry.1 := by
  decide

/-- A keyword is not blank and neither begins nor ends with a blank. -/
theorem keyword_trimmed (shown : name ∈ kind.keyword) : Trimmed name.toList := by
  cases kind with
  | plain => cases shown
  | custom text =>
    rw [keyword_custom, spoken] at shown
    split at shown
    next => cases shown
    next filled =>
      obtain rfl := Option.some.inj shown
      rw [word, String.toList_ofList]
      refine (trim_cases text.toList).resolve_left fun empty => filled ?_
      rw [word, empty]
  | _ =>
    obtain rfl := Option.some.inj shown
    exact Solid.trimmed (by decide)

/-! ### Texts -/

theorem ofText_eq (text : String) :
    ofText text = (keywords.lookup (capitals (word text))).getD (custom (word text)) := by
  rw [ofText, capitals, word, String.toList_ofList]

/-- A text asks for the join that is read from it, and for no other. -/
theorem asks_iff : Asks text kind ↔ ofText text = kind := by
  rw [ofText_eq]
  constructor
  · intro asks
    cases asks with
    | listed found => rw [Assoc.lookup_of_mem keywords_distinct found, Option.getD_some]
    | own missing => rw [Assoc.lookup_of_notMem missing, Option.getD_none]
  · rintro rfl
    cases found : keywords.lookup (capitals (word text)) with
    | some kind => exact .listed (Assoc.mem_of_lookup found)
    | none =>
      refine .own fun listed => ?_
      obtain ⟨⟨name, kind⟩, member, rfl⟩ := List.mem_map.mp listed
      rw [Assoc.lookup_of_mem keywords_distinct member] at found
      cases found

/-- The keyword of what a text asks for is its word, in capitals if they are listed. -/
theorem Asks.keyword_eq (asks : Asks text kind) :
    kind.keyword = (custom text).keyword ∨ kind.keyword = (custom text).keyword.map capitals := by
  rw [keyword_custom, ← spoken_capitals]
  cases asks with
  | listed found => exact .inr (keywords_written _ found).2.2
  | own missing => exact .inl (by rw [keyword_custom, word_word])

/-- What a text asks for has a keyword of the same capitals as its word. -/
theorem Asks.same_capitals (asks : Asks text kind) :
    kind.keyword.map capitals = (custom text).keyword.map capitals := by
  rw [keyword_custom]
  cases asks with
  | listed found =>
    obtain ⟨-, raised, named⟩ := keywords_written _ found
    rw [named, ← spoken_capitals, raised, spoken_capitals]
  | own missing => rw [keyword_custom, word_word]

/-- The keyword of what a text asks for asks for the same. -/
theorem Asks.again (asks : Asks text kind) : Asks (kind.keyword.getD "") kind := by
  cases asks with
  | listed found =>
    obtain ⟨bare, raised, named⟩ := keywords_written _ found
    rw [named, spoken_getD]
    refine .listed ?_
    rwa [bare, raised]
  | own missing =>
    rw [keyword_custom, spoken_getD, word_word]
    -- The word is read again without its blanks, of which it has none.
    have own : Asks (word text) (custom (word (word text))) := .own (by rwa [word_word])
    rwa [word_word] at own

/-- A text asks for a join of SQL exactly if its word in capitals is the keyword of that
join, and for the one without keyword if it has no word. -/
theorem ofText_eq_iff (listed : (name, kind) ∈ keywords) :
    ofText text = kind ↔ (custom text).keyword.map capitals = kind.keyword := by
  obtain ⟨-, -, named⟩ := keywords_written _ listed
  rw [← asks_iff, keyword_custom, ← spoken_capitals, named]
  constructor
  · intro asks
    cases asks with
    | listed found => rw [← (keywords_written _ found).2.2, ← named]
    | own missing => simp [keywords] at listed
  · intro same
    have word_listed : capitals (word text) = name := by
      rw [← spoken_getD (capitals (word text)), same, spoken_getD]
    exact .listed (word_listed ▸ listed)

/-! ### Clauses -/

/-- A join is its keyword, JOIN, and what does not depend on the keyword. -/
theorem write_join (table : String) (label : Option String) (column : String) (otherLabel : Option String)
    (otherColumn : String) (kind : Join) :
    writer.write (.join table label column otherLabel otherColumn kind) state =
      reworded (joining kind ++ ·)
        (writer.withBackend (fun backend => pure (joined backend table label column otherLabel otherColumn))
          state) := by
  have clause : ∀ backend, Fragment.joinClause backend table label column otherLabel otherColumn kind =
      joining kind ++ joined backend table label column otherLabel otherColumn := by
    intro backend
    rw [joinClause_eq, joined]
    simp only [String.append_assoc]
  simp only [Writer.write, clause]
  exact withBackend_reworded _ _

/-- For every text, the join it asks for beside the one with the text itself as keyword.
The keyword of what it asks for asks for the same join again, and what it asks for is one
of SQL's joins exactly if its own keyword in capitals is that join's. One of the two
joins has no keyword exactly if the other has none; the keyword of the first is that of
the second as it stands or in upper case, and has the same upper case either way.
Whatever else is asked of a join, on every backend and in every state, its clause is the
keyword, JOIN, and a rest that is the same for all joins, or the same error for all. And
no join has a keyword that is blank or begins or ends with a blank. -/
theorem joins_differ_in_capitals (text : String) :
    ofText ((ofText text).keyword.getD "") = ofText text ∧
    (∀ name kind, (name, kind) ∈ keywords →
      (ofText text = kind ↔ (custom text).keyword.map capitals = kind.keyword)) ∧
    ((ofText text).keyword = none ↔ (custom text).keyword = none) ∧
    (ofText text).keyword.map capitals = (custom text).keyword.map capitals ∧
    ((ofText text).keyword = (custom text).keyword ∨
      (ofText text).keyword = (custom text).keyword.map capitals) ∧
    (∀ {σ : Type} (writer : Writer σ) (state : σ) (table : String) (label : Option String)
      (column : String) (otherLabel : Option String) (otherColumn : String),
      ∃ rest : Traced String × σ, ∀ kind : Join,
        writer.write (.join table label column otherLabel otherColumn kind) state =
          reworded (joining kind ++ ·) rest) ∧
    ∀ kind : Join, ∀ keyword ∈ kind.keyword, Trimmed keyword.toList := by
  have asks : Asks text (ofText text) := asks_iff.mpr rfl
  have alike := asks.same_capitals
  have missing : ∀ keyword : Option String, keyword.map capitals = none ↔ keyword = none :=
    fun _ => Option.map_eq_none_iff
  refine ⟨asks_iff.mp asks.again, fun name kind => ofText_eq_iff, ?_, alike, asks.keyword_eq, ?_,
    fun kind keyword => keyword_trimmed⟩
  · rw [← missing, alike, missing]
  · intro σ writer state table label column otherLabel otherColumn
    exact ⟨_, write_join table label column otherLabel otherColumn⟩

/-- A sharp s is a double S in capitals, so this word asks for one of SQL's joins. -/
theorem sharp_s_join_in_capitals :
    let text := "\u2003croß\n"
    let writer := (Resolver.fixed .mysql).writer (.system .utc) {} none .epoch
    (custom text).keyword = some "croß" ∧ Trimmed "croß".toList ∧ ("CROSS", cross) ∈ keywords ∧
      ofText text = cross ∧ ofText "CROSS" = cross ∧ capitals "CROSS" = capitals "croß" ∧
      ∃ rest,
        writer.write (.join "t" none "id" (some "u") "t_id" (ofText text)) () =
          reworded ("CROSS JOIN " ++ ·) rest ∧
        writer.write (.join "t" none "id" (some "u") "t_id" (custom text)) () =
          reworded ("croß JOIN " ++ ·) rest := by
  intro text writer
  have own : (custom text).keyword = some "croß" := by decide +kernel
  have listed : ("CROSS", cross) ∈ keywords := by decide
  obtain ⟨again, named, -, alike, -, clauses, tidy⟩ := joins_differ_in_capitals text
  have asked : ofText text = cross := by
    refine (named _ _ listed).mpr ?_
    rw [own]
    decide +kernel
  rw [asked] at again alike
  rw [own] at alike
  obtain ⟨rest, clause⟩ := clauses writer () "t" none "id" (some "u") "t_id"
  have word_joining : joining (custom text) = "croß JOIN " := by
    rw [joining, own]
    rfl
  refine ⟨own, tidy _ _ own, listed, asked, again, Option.some.inj alike, rest, ?_, ?_⟩
  · rw [asked, clause]
    rfl
  · rw [clause, word_joining]

end TenantSql.JoinKeywords
