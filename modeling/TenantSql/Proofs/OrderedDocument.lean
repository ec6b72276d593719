import TenantSql.Document.Kept
import TenantSql.Document.Merge
import TenantSql.Proofs.Outcomes
import TenantSql.Toml.Reader

/-! In every table of a document the keys ascend, however deep the table lies.
The reader begins with an empty table and only ever puts entries in their place,
so that what it returns is ordered; taking a document over and laying one over
another keep the order. No key is ever held twice, and so looking a key up finds
all there is under it. -/
namespace TenantSql.OrderedDocument
open Toml Outcomes

/-- A map in ascending order whose values all have a property. -/
def Sound {α : Type} (holds : α → Prop) (map : List (String × α)) : Prop :=
  Assoc.Ascending map ∧ ∀ pair ∈ map, holds pair.2

section Maps

variable {α β : Type} {holds : α → Prop} {map : List (String × α)} {key : String} {value : α}

theorem Sound.nil : Sound holds [] := ⟨List.Pairwise.nil, List.forall_mem_nil _⟩

theorem Sound.put (sound : Sound holds map) (new : holds value) : Sound holds (Assoc.put key value map) := by
  refine ⟨Assoc.put_ascending key value sound.1, ?_⟩
  intro pair member
  rcases Assoc.mem_of_mem_put member with rfl | old
  · exact new
  · exact sound.2 pair old

theorem Sound.lookup (sound : Sound holds map) (found : map.lookup key = some value) : holds value :=
  sound.2 _ (Assoc.mem_of_lookup found)

/-- Only the keys decide whether a map is in order. -/
theorem ascending_of_keys {other : List (String × β)} (same : other.map (·.1) = map.map (·.1))
    (ascending : Assoc.Ascending map) : Assoc.Ascending other := by
  have keys : (map.map (·.1)).Pairwise (· < ·) := List.pairwise_map.mpr ascending
  exact List.pairwise_map.mp (same ▸ keys)

end Maps

mutual
/-- The keys of every table in a value ascend. -/
def Ordered : Value → Prop
  | .array items => ItemsOrdered items
  | .table entries => Assoc.Ascending entries ∧ EntriesOrdered entries
  | _ => True

/-- Every item of an array is ordered. -/
def ItemsOrdered : List Value → Prop
  | [] => True
  | item :: rest => Ordered item ∧ ItemsOrdered rest

/-- Every value of a table is ordered. -/
def EntriesOrdered : List (String × Value) → Prop
  | [] => True
  | (_, value) :: rest => Ordered value ∧ EntriesOrdered rest
end

mutual
/-- The keys of every table in a node ascend. -/
def NodeOrdered : Node → Prop
  | .value held => Ordered held
  | .table _ held => Assoc.Ascending held ∧ NodesOrdered held
  | .rows held => RowsOrdered held

/-- Every node of a section is ordered. -/
def NodesOrdered : List (String × Node) → Prop
  | [] => True
  | (_, node) :: rest => NodeOrdered node ∧ NodesOrdered rest

/-- Every table of an array of tables is ordered. -/
def RowsOrdered : List (List (String × Node)) → Prop
  | [] => True
  | row :: rest => (Assoc.Ascending row ∧ NodesOrdered row) ∧ RowsOrdered rest
end

theorem itemsOrdered_iff {items : List Value} : ItemsOrdered items ↔ ∀ item ∈ items, Ordered item := by
  induction items with
  | nil => simp [ItemsOrdered]
  | cons item rest ih => simp [ItemsOrdered, ih]

theorem entriesOrdered_iff {entries : List (String × Value)} :
    EntriesOrdered entries ↔ ∀ entry ∈ entries, Ordered entry.2 := by
  induction entries with
  | nil => simp [EntriesOrdered]
  | cons entry rest ih => simp [EntriesOrdered, ih]

theorem nodesOrdered_iff {entries : Section} :
    NodesOrdered entries ↔ ∀ entry ∈ entries, NodeOrdered entry.2 := by
  induction entries with
  | nil => simp [NodesOrdered]
  | cons entry rest ih => simp [NodesOrdered, ih]

theorem array_ordered_iff {items : List Value} : Ordered (.array items) ↔ ∀ item ∈ items, Ordered item :=
  itemsOrdered_iff

theorem table_ordered_iff {entries : List (String × Value)} : Ordered (.table entries) ↔ Sound Ordered entries :=
  and_congr Iff.rfl entriesOrdered_iff

theorem section_ordered_iff {origin : Origin} {entries : Section} :
    NodeOrdered (.table origin entries) ↔ Sound NodeOrdered entries :=
  and_congr Iff.rfl nodesOrdered_iff

theorem rows_ordered_iff {rows : List Section} :
    NodeOrdered (.rows rows) ↔ ∀ row ∈ rows, Sound NodeOrdered row := by
  unfold NodeOrdered
  induction rows with
  | nil => simp [RowsOrdered]
  | cons row rest ih => simp [RowsOrdered, ih, Sound, nodesOrdered_iff]

/-! ### Values of nodes -/

theorem entryValues_keys (entries : Section) : (Node.entryValues entries).map (·.1) = entries.map (·.1) := by
  induction entries with
  | nil => rfl
  | cons entry rest ih => simp [Node.entryValues, ih]

mutual
/-- What a node has come to is as ordered as the node. -/
theorem toValue_ordered : (node : Node) → NodeOrdered node → Ordered node.toValue
  | .value _, ordered => ordered
  | .table _ held, ordered =>
    ⟨ascending_of_keys (entryValues_keys held) ordered.1, entryValues_ordered held ordered.2⟩
  | .rows held, ordered => rowValues_ordered held ordered

theorem entryValues_ordered : (entries : List (String × Node)) → NodesOrdered entries →
    EntriesOrdered (Node.entryValues entries)
  | [], _ => trivial
  | (_, node) :: rest, ordered => ⟨toValue_ordered node ordered.1, entryValues_ordered rest ordered.2⟩

theorem rowValues_ordered : (rows : List (List (String × Node))) → RowsOrdered rows →
    ItemsOrdered (Node.rowValues rows)
  | [], _ => trivial
  | row :: rest, ordered =>
    ⟨⟨ascending_of_keys (entryValues_keys row) ordered.1.1, entryValues_ordered row ordered.1.2⟩,
      rowValues_ordered rest ordered.2⟩
end

/-! ### Changing sections -/

section Sections

variable {value : Value} {key : String} {path : List String} {entries after : Section} {rows : List Section}

/-- The table that an array of tables is entered by is ordered, if there is one. -/
theorem lastRow_sound (ordered : ∀ row ∈ rows, Sound NodeOrdered row) :
    Sound NodeOrdered (rows.getLast?.getD []) := by
  cases last : rows.getLast? with
  | none => exact Sound.nil
  | some row => exact ordered row (List.mem_of_getLast? last)

theorem rows_replaced (ordered : ∀ row ∈ rows, Sound NodeOrdered row) {last : Section}
    (sound : Sound NodeOrdered last) : NodeOrdered (.rows (rows.dropLast ++ [last])) := by
  refine rows_ordered_iff.mpr fun row member => ?_
  rcases List.mem_append.mp member with earlier | new
  · exact ordered row (List.dropLast_subset rows earlier)
  · exact List.mem_singleton.mp new ▸ sound

theorem assign_sound (ordered : Ordered value) (sound : Sound NodeOrdered entries)
    (assigned : Section.assign value path entries = .ok after) : Sound NodeOrdered after := by
  fun_induction Section.assign value path entries generalizing after with
  | case1 | case3 | case6 | case8 | case10 => cases assigned
  | case2 entries key absent =>
    cases assigned
    exact sound.put ordered
  | case4 entries key rest _ absent ih =>
    obtain ⟨inner, made, put⟩ := bind_eq_ok.mp assigned
    cases put
    exact sound.put (section_ordered_iff.mpr (ih Sound.nil made))
  | case5 entries key rest _ held found ih | case7 entries key rest _ held found _ ih =>
    obtain ⟨inner, made, put⟩ := bind_eq_ok.mp assigned
    cases put
    exact sound.put (section_ordered_iff.mpr (ih (section_ordered_iff.mp (sound.lookup found)) made))
  | case9 entries key rest _ rows found _ ih =>
    obtain ⟨last, made, put⟩ := bind_eq_ok.mp assigned
    cases put
    have ordered := rows_ordered_iff.mp (sound.lookup found)
    exact sound.put (rows_replaced ordered (ih (lastRow_sound ordered) made))

theorem changeAt_sound {change : Section → Except Fault Section}
    (keeps : ∀ before after, Sound NodeOrdered before → change before = .ok after → Sound NodeOrdered after)
    (sound : Sound NodeOrdered entries) (changed : Section.changeAt change path entries = .ok after) :
    Sound NodeOrdered after := by
  fun_induction Section.changeAt change path entries generalizing after with
  | case1 entries => exact keeps entries after sound changed
  | case2 entries key rest absent ih =>
    obtain ⟨inner, made, put⟩ := bind_eq_ok.mp changed
    cases put
    exact sound.put (section_ordered_iff.mpr (ih Sound.nil made))
  | case3 entries key rest origin held found ih =>
    obtain ⟨inner, made, put⟩ := bind_eq_ok.mp changed
    cases put
    exact sound.put (section_ordered_iff.mpr (ih (section_ordered_iff.mp (sound.lookup found)) made))
  | case4 entries key rest rows found ih =>
    obtain ⟨last, made, put⟩ := bind_eq_ok.mp changed
    cases put
    have ordered := rows_ordered_iff.mp (sound.lookup found)
    exact sound.put (rows_replaced ordered (ih (lastRow_sound ordered) made))
  | case5 => cases changed

theorem openTable_sound (sound : Sound NodeOrdered entries)
    (opened : Section.openTable key entries = .ok after) : Sound NodeOrdered after := by
  unfold Section.openTable at opened
  split at opened
  · cases opened
    exact sound.put (section_ordered_iff.mpr Sound.nil)
  · rename_i held found
    cases opened
    have inside := section_ordered_iff.mp (sound.lookup found)
    exact sound.put (section_ordered_iff.mpr inside)
  · cases opened

theorem openRow_sound (sound : Sound NodeOrdered entries)
    (opened : Section.openRow key entries = .ok after) : Sound NodeOrdered after := by
  unfold Section.openRow at opened
  split at opened
  · cases opened
    refine sound.put (rows_ordered_iff.mpr fun row member => ?_)
    exact List.mem_singleton.mp member ▸ Sound.nil
  · rename_i rows found
    cases opened
    refine sound.put (rows_ordered_iff.mpr fun row member => ?_)
    rcases List.mem_append.mp member with earlier | new
    · exact rows_ordered_iff.mp (sound.lookup found) row earlier
    · exact List.mem_singleton.mp new ▸ Sound.nil
  · cases opened

theorem openAt_sound {change : String → Section → Except Fault Section}
    (keeps : ∀ key before after, Sound NodeOrdered before → change key before = .ok after →
      Sound NodeOrdered after)
    (sound : Sound NodeOrdered entries) (opened : Section.openAt change path entries = .ok after) :
    Sound NodeOrdered after := by
  unfold Section.openAt at opened
  split at opened
  · rename_i key _
    exact changeAt_sound (keeps key) sound opened
  · cases opened

end Sections

/-! ### Reading -/

section Reading

variable {text rest : List Char} {value : Value}

theorem scalar?_ordered (found : scalar? text = some value) : Ordered value := by
  unfold scalar? at found
  repeat' split at found
  all_goals cases found
  all_goals trivial

theorem scalar_ordered (scanned : scalar text = .ok (value, rest)) : Ordered value := by
  unfold scalar at scanned
  dsimp only at scanned
  split at scanned
  · rename_i found
    cases scanned
    exact scalar?_ordered found
  · cases scanned

variable {scan : List Char → Scanned Value} {bound depth : Nat}

/-- What is scanned item by item is ordered if each item is. -/
theorem items_ordered {scanned : List Value}
    (each : ∀ text value rest, scan text = .ok (value, rest) → Ordered value)
    (ran : items scan bound text = .ok (scanned, rest)) : ∀ item ∈ scanned, Ordered item := by
  induction bound generalizing text scanned with
  | zero => cases ran
  | succ bound ih =>
    unfold items at ran
    obtain ⟨start, -, ran⟩ := bind_eq_ok.mp ran
    split at ran
    · cases ran
      exact List.forall_mem_nil _
    · obtain ⟨⟨item, more⟩, first, ran⟩ := bind_eq_ok.mp ran
      have ordered : Ordered item := each _ _ _ first
      obtain ⟨next, -, ran⟩ := bind_eq_ok.mp ran
      split at ran
      · obtain ⟨⟨others, _⟩, later, ran⟩ := bind_eq_ok.mp ran
        cases ran
        exact List.forall_mem_cons.mpr ⟨ordered, ih later⟩
      · obtain ⟨_, -, ran⟩ := bind_eq_ok.mp ran
        cases ran
        exact List.forall_mem_cons.mpr ⟨ordered, List.forall_mem_nil _⟩

theorem assignment_ordered {skip : List Char → Except Fault (List Char)} {path : List String}
    (each : ∀ text value rest, scan text = .ok (value, rest) → Ordered value)
    (ran : assignment skip scan text = .ok ((path, value), rest)) : Ordered value := by
  unfold assignment at ran
  obtain ⟨⟨keys, _⟩, -, ran⟩ := bind_eq_ok.mp ran
  obtain ⟨_, -, ran⟩ := bind_eq_ok.mp ran
  obtain ⟨_, -, ran⟩ := bind_eq_ok.mp ran
  obtain ⟨_, -, ran⟩ := bind_eq_ok.mp ran
  obtain ⟨⟨scanned, _⟩, last, ran⟩ := bind_eq_ok.mp ran
  cases ran
  exact each _ _ _ last

theorem entries_sound {held after : Section}
    (each : ∀ text value rest, scan text = .ok (value, rest) → Ordered value) (sound : Sound NodeOrdered held)
    (ran : entries scan bound held text = .ok (after, rest)) : Sound NodeOrdered after := by
  induction bound generalizing text held with
  | zero => cases ran
  | succ bound ih =>
    unfold entries at ran
    obtain ⟨start, -, ran⟩ := bind_eq_ok.mp ran
    split at ran
    · cases ran
      exact sound
    · obtain ⟨⟨⟨path, value⟩, more⟩, scanned, ran⟩ := bind_eq_ok.mp ran
      obtain ⟨grown, assigned, ran⟩ := bind_eq_ok.mp ran
      have still : Sound NodeOrdered grown := assign_sound (assignment_ordered each scanned) sound assigned
      obtain ⟨next, -, ran⟩ := bind_eq_ok.mp ran
      split at ran
      · exact ih still ran
      · obtain ⟨_, -, ran⟩ := bind_eq_ok.mp ran
        cases ran
        exact still

theorem asString_ordered {scanned : Scanned (List Char)}
    (ran : Toml.value.asString scanned = .ok (value, rest)) : Ordered value := by
  obtain ⟨⟨string, _⟩, -, same⟩ := map_eq_ok.mp ran
  cases same
  trivial

theorem value_ordered (scanned : Toml.value depth text = .ok (value, rest)) : Ordered value := by
  -- Whatever stands inside an array or an inline table is scanned with less depth left.
  induction depth using Nat.strongRecOn generalizing text value rest with
  | _ depth inner =>
    unfold Toml.value at scanned
    split at scanned
    case h_1 | h_2 | h_3 | h_4 => exact asString_ordered scanned
    case h_5 =>
      cases depth with
      | zero => cases scanned
      | succ depth =>
        obtain ⟨⟨found, _⟩, ran, same⟩ := map_eq_ok.mp scanned
        cases same
        have each : ∀ text value rest, Toml.value depth text = .ok (value, rest) → Ordered value := by
          intro text value rest
          exact inner depth (Nat.lt_succ_self depth)
        exact array_ordered_iff.mpr (items_ordered each ran)
    case h_6 =>
      cases depth with
      | zero => cases scanned
      | succ depth =>
        obtain ⟨⟨held, _⟩, ran, same⟩ := map_eq_ok.mp scanned
        cases same
        have each : ∀ text value rest, Toml.value depth text = .ok (value, rest) → Ordered value := by
          intro text value rest
          exact inner depth (Nat.lt_succ_self depth)
        have sound := entries_sound each Sound.nil ran
        exact toValue_ordered (.table .header held) (section_ordered_iff.mpr sound)
    case h_7 => exact scalar_ordered scanned

/-- A statement that assigns an ordered value, or none. -/
def StatementOrdered : Statement → Prop
  | .entry _ value => Ordered value
  | _ => True

theorem statement_ordered {first : Statement} (scanned : statement text = .ok (first, rest)) :
    StatementOrdered first := by
  unfold statement at scanned
  split at scanned
  case h_1 =>
    obtain ⟨_, -, scanned⟩ := bind_eq_ok.mp scanned
    obtain ⟨_, -, scanned⟩ := bind_eq_ok.mp scanned
    obtain ⟨_, -, same⟩ := bind_eq_ok.mp scanned
    cases same
    trivial
  case h_2 =>
    obtain ⟨_, -, scanned⟩ := bind_eq_ok.mp scanned
    obtain ⟨_, -, same⟩ := bind_eq_ok.mp scanned
    cases same
    trivial
  case h_3 =>
    obtain ⟨⟨⟨path, value⟩, _⟩, ran, same⟩ := map_eq_ok.mp scanned
    cases same
    exact assignment_ordered (fun _ _ _ => value_ordered) ran

theorem statements_ordered {all : List Statement} (scanned : statements bound text = .ok all) :
    ∀ each ∈ all, StatementOrdered each := by
  induction bound generalizing text all with
  | zero => cases scanned
  | succ bound ih =>
    unfold statements at scanned
    obtain ⟨start, -, scanned⟩ := bind_eq_ok.mp scanned
    split at scanned
    · cases scanned
      exact List.forall_mem_nil _
    · obtain ⟨⟨first, _⟩, one, scanned⟩ := bind_eq_ok.mp scanned
      obtain ⟨_, -, scanned⟩ := bind_eq_ok.mp scanned
      obtain ⟨later, more, same⟩ := bind_eq_ok.mp scanned
      cases same
      exact List.forall_mem_cons.mpr ⟨statement_ordered one, ih more⟩

/-- One statement keeps the root of a draft ordered. -/
theorem obey_sound {draft after : Draft} {next : Statement} (sound : Sound NodeOrdered draft.root)
    (ordered : StatementOrdered next) (obeyed : draft.obey next = .ok after) : Sound NodeOrdered after.root := by
  cases next with
  | table path =>
    obtain ⟨root, opened, same⟩ := bind_eq_ok.mp obeyed
    cases same
    exact openAt_sound (fun _ _ _ => openTable_sound) sound opened
  | row path =>
    obtain ⟨root, opened, same⟩ := bind_eq_ok.mp obeyed
    cases same
    exact openAt_sound (fun _ _ _ => openRow_sound) sound opened
  | entry path value =>
    obtain ⟨root, changed, same⟩ := bind_eq_ok.mp obeyed
    cases same
    exact changeAt_sound (fun _ _ => assign_sound ordered) sound changed

/-- Every document that can be read is ordered. -/
theorem read_ordered {text : String} {document : Value} (read : Toml.read text = .ok document) :
    Ordered document := by
  obtain ⟨all, scanned, read⟩ := bind_eq_ok.mp read
  obtain ⟨draft, obeyed, same⟩ := bind_eq_ok.mp read
  cases same
  have kept : ∀ (draft : Draft) next, next ∈ all → Sound NodeOrdered draft.root →
      ∀ after, draft.obey next = .ok after → Sound NodeOrdered after.root := by
    intro draft next member sound after
    exact obey_sound sound (statements_ordered scanned next member)
  have sound : Sound NodeOrdered draft.root :=
    foldlM_keeps (fun draft => Sound NodeOrdered draft.root) kept Sound.nil obeyed
  exact toValue_ordered (.table .header draft.root) (section_ordered_iff.mpr sound)

end Reading

/-! ### Taking over and laying over -/

theorem keptEntries_keys {entries kept : List (String × Value)} (taken : Value.keptEntries? entries = some kept) :
    kept.map (·.1) = entries.map (·.1) := by
  induction entries generalizing kept with
  | nil =>
    cases taken
    rfl
  | cons entry rest ih =>
    obtain ⟨value, -, taken⟩ := Option.bind_eq_some_iff.mp taken
    obtain ⟨others, later, same⟩ := Option.bind_eq_some_iff.mp taken
    cases same
    simp [ih later]

/-- A table is taken over as a date-time, or entry by entry. -/
theorem kept_table {entries : List (String × Value)} {kept : Value}
    (taken : (Value.table entries).kept? = some kept) :
    (∃ text, kept = .datetime text) ∨ ∃ held, Value.keptEntries? entries = some held ∧ kept = .table held := by
  cases entries with
  | nil =>
    cases taken
    exact .inr ⟨[], rfl, rfl⟩
  | cons entry rest =>
    unfold Value.kept? at taken
    split at taken
    · unfold Value.datetimeIn? at taken
      split at taken
      · split at taken <;> cases taken
        exact .inl ⟨_, rfl⟩
      · cases taken
    · obtain ⟨first, one, taken⟩ := Option.bind_eq_some_iff.mp taken
      obtain ⟨others, later, same⟩ := Option.bind_eq_some_iff.mp taken
      cases same
      exact .inr ⟨(entry.1, first) :: others, by simp [Value.keptEntries?, one, later], rfl⟩

mutual
theorem kept_ordered : (value : Value) → Ordered value → ∀ {kept : Value}, value.kept? = some kept → Ordered kept
  | .string _, _, _, taken | .boolean _, _, _, taken | .datetime _, _, _, taken | .float .finite, _, _, taken
  | .float .infinite, _, _, taken | .float .nan, _, _, taken => by
    cases taken
    trivial
  | .integer value, _, _, taken => by
    unfold Value.kept? at taken
    split at taken <;> cases taken
    trivial
  | .array items, ordered, _, taken => by
    obtain ⟨kept, inside, same⟩ := Option.map_eq_some_iff.mp taken
    cases same
    exact keptItems_ordered items ordered inside
  | .table entries, ordered, _, taken => by
    obtain ⟨text, rfl⟩ | ⟨held, inside, rfl⟩ := kept_table taken
    · trivial
    · exact ⟨ascending_of_keys (keptEntries_keys inside) ordered.1,
        keptEntries_ordered entries ordered.2 inside⟩

theorem keptItems_ordered : (items : List Value) → ItemsOrdered items → ∀ {kept : List Value},
    Value.keptItems? items = some kept → ItemsOrdered kept
  | [], _, _, taken => by
    cases taken
    trivial
  | item :: rest, ordered, _, taken => by
    obtain ⟨first, one, taken⟩ := Option.bind_eq_some_iff.mp taken
    obtain ⟨others, later, same⟩ := Option.bind_eq_some_iff.mp taken
    cases same
    exact ⟨kept_ordered item ordered.1 one, keptItems_ordered rest ordered.2 later⟩

theorem keptEntries_ordered : (entries : List (String × Value)) → EntriesOrdered entries →
    ∀ {kept : List (String × Value)}, Value.keptEntries? entries = some kept → EntriesOrdered kept
  | [], _, _, taken => by
    cases taken
    trivial
  | (_, value) :: rest, ordered, _, taken => by
    obtain ⟨first, one, taken⟩ := Option.bind_eq_some_iff.mp taken
    obtain ⟨others, later, same⟩ := Option.bind_eq_some_iff.mp taken
    cases same
    exact ⟨kept_ordered value ordered.1 one, keptEntries_ordered rest ordered.2 later⟩
end

theorem replacing_eq {path : String} {base top merged : Value}
    (replaced : Value.replacing path base top = .ok merged) : merged = top := by
  unfold Value.replacing at replaced
  split at replaced <;> cases replaced
  rfl

/-- A property that lists have from their items, and tables from their entries and from
something that putting an entry in its place does not change. -/
structure Inherited (holds : Value → Prop) (fit : List (String × Value) → Prop) : Prop where
  lists : ∀ {items}, holds (.array items) ↔ ∀ item ∈ items, holds item
  tables : ∀ {entries}, holds (.table entries) ↔ fit entries ∧ ∀ entry ∈ entries, holds entry.2
  puts : ∀ key value {entries}, fit entries → fit (Assoc.put key value entries)

section Laying

variable {holds : Value → Prop} {fit : List (String × Value) → Prop} (inherited : Inherited holds fit)

include inherited

mutual
/-- A value laid over another keeps what both have. -/
theorem merge_keeps : (top : Value) → holds top → ∀ {path : String} {base merged : Value}, holds base →
    Value.merge path base top = .ok merged → holds merged
  | .string _, above, _, _, _, _, laid | .integer _, above, _, _, _, _, laid | .float _, above, _, _, _, _, laid
  | .boolean _, above, _, _, _, _, laid | .datetime _, above, _, _, _, _, laid
  | .unreadable, above, _, _, _, _, laid => replacing_eq laid ▸ above
  | .array items, above, _, base, _, below, laid => by
    unfold Value.merge at laid
    split at laid <;> cases laid
    refine inherited.lists.mpr fun item member => ?_
    rcases List.mem_append.mp member with lower | upper
    · exact inherited.lists.mp below item lower
    · exact inherited.lists.mp above item upper
  | .table entries, above, _, base, _, below, laid => by
    unfold Value.merge at laid
    split at laid
    · obtain ⟨merged, inside, same⟩ := map_eq_ok.mp laid
      cases same
      have entry := (inherited.tables.mp above).2
      exact inherited.tables.mpr (mergeEntries_keeps entries entry (inherited.tables.mp below) inside)
    · cases laid

theorem mergeEntries_keeps : (entries : List (String × Value)) → (∀ entry ∈ entries, holds entry.2) →
    ∀ {path : String} {held merged : List (String × Value)},
    fit held ∧ (∀ entry ∈ held, holds entry.2) → Value.mergeEntries path held entries = .ok merged →
    fit merged ∧ ∀ entry ∈ merged, holds entry.2
  | [], _, _, _, _, below, laid => by
    cases laid
    exact below
  | (key, value) :: rest, above, _, held, _, below, laid => by
    obtain ⟨first, later⟩ := List.forall_mem_cons.mp above
    have put : ∀ {inner : Value}, holds inner →
        fit (Assoc.put key inner held) ∧ ∀ entry ∈ Assoc.put key inner held, holds entry.2 := by
      intro inner new
      refine ⟨inherited.puts key inner below.1, fun entry member => ?_⟩
      rcases Assoc.mem_of_mem_put member with rfl | old
      · exact new
      · exact below.2 entry old
    unfold Value.mergeEntries at laid
    split at laid
    · exact mergeEntries_keeps rest later (put first) laid
    · rename_i lower found
      obtain ⟨inner, one, laid⟩ := bind_eq_ok.mp laid
      have new : holds inner := merge_keeps value first (below.2 _ (Assoc.mem_of_lookup found)) one
      exact mergeEntries_keeps rest later (put new) laid
end

end Laying

theorem ordered_inherited : Inherited Ordered Assoc.Ascending where
  lists := array_ordered_iff
  tables := table_ordered_iff
  puts key value _ ascending := Assoc.put_ascending key value ascending

/-- A value laid over another is ordered if both are. -/
theorem merge_ordered {path : String} {base top merged : Value} (above : Ordered top) (below : Ordered base)
    (laid : Value.merge path base top = .ok merged) : Ordered merged :=
  merge_keeps ordered_inherited top above below laid

end TenantSql.OrderedDocument
