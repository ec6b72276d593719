import Mathlib.Data.List.Basic
import TenantSql.Text.Blank

/-! Writings that end by themselves. What is written of a value can be read back
whatever follows it, so values can be written one after the other, and a list of them
with commas between, without anything being lost. Only the values that a code admits
can be written, and nothing but their writings can be read. -/
namespace TenantSql

/-- A way of writing the values it admits, and of reading one of them off a text. -/
structure PrefixCode (α : Type) where
  Admits : α → Prop
  written : α → String
  read? : List Char → Option (α × List Char)
  read_iff : ∀ {text value rest},
    read? text = some (value, rest) ↔ Admits value ∧ text = (written value).toList ++ rest

namespace PrefixCode

variable {α β : Type} {code : PrefixCode α} {text rest name opening : List Char} {mark : Char}
  {items : List α}

theorem dropPrefix_iff : text.dropPrefix? opening = some rest ↔ text = opening ++ rest := by
  simp [List.dropPrefix?_eq_some_iff]

/-- What stands before the first such mark, and what stands behind it. -/
def cutAt? (mark : Char) : List Char → Option (List Char × List Char)
  | [] => none
  | c :: text =>
    if c = mark then some ([], text)
    else (cutAt? mark text).map fun (name, rest) => (c :: name, rest)

theorem cutAt_iff : cutAt? mark text = some (name, rest) ↔ mark ∉ name ∧ text = name ++ mark :: rest := by
  induction text generalizing name rest with
  | nil => simp [cutAt?]
  | cons c text ih =>
    unfold cutAt?
    by_cases same : c = mark
    · rw [if_pos same, same]
      cases name with
      | nil => simp
      | cons d name =>
        simp only [Option.some.injEq, Prod.mk.injEq, reduceCtorEq, false_and, List.mem_cons, List.cons_append,
          List.cons.injEq, false_iff, not_and]
        intro absent marked
        exact absurd (.inl marked) absent
    · rw [if_neg same]
      cases name with
      | nil => simp [same]
      | cons d name =>
        simp only [Option.map_eq_some_iff, Prod.exists, Prod.mk.injEq, List.cons.injEq, ih, List.mem_cons,
          List.cons_append, not_or]
        constructor
        · rintro ⟨_, _, ⟨absent, split⟩, ⟨rfl, rfl⟩, rfl⟩
          exact ⟨⟨Ne.symm same, absent⟩, rfl, split⟩
        · rintro ⟨⟨-, absent⟩, rfl, split⟩
          exact ⟨name, rest, ⟨absent, split⟩, ⟨rfl, rfl⟩, rfl⟩

/-- Texts without a mark, each up to the mark. -/
def upTo (mark : Char) : PrefixCode String where
  Admits name := mark ∉ name.toList
  written name := name ++ String.singleton mark
  read? text := (cutAt? mark text).map fun (name, rest) => (String.ofList name, rest)
  read_iff := by
    intro text value rest
    simp only [Option.map_eq_some_iff, Prod.exists, Prod.mk.injEq, cutAt_iff, String.toList_append,
      String.toList_singleton, List.append_assoc, List.singleton_append]
    constructor
    · rintro ⟨name, _, split, rfl, rfl⟩
      rwa [String.toList_ofList]
    · intro split
      exact ⟨value.toList, rest, split, String.ofList_toList, rfl⟩

/-- One of some values, by spellings of which none begins another. -/
def among (values : List α) (spelled : α → String)
    (apart : ∀ one ∈ values, ∀ other ∈ values, (spelled one).toList <+: (spelled other).toList → one = other) :
    PrefixCode α where
  Admits value := value ∈ values
  written := spelled
  read? text := values.findSome? fun value => (text.dropPrefix? (spelled value).toList).map (value, ·)
  read_iff := by
    intro text value rest
    have found : ∀ {value rest}, (values.findSome? fun value =>
        (text.dropPrefix? (spelled value).toList).map (value, ·)) = some (value, rest) →
          value ∈ values ∧ text = (spelled value).toList ++ rest := by
      intro value rest read
      obtain ⟨one, listed, taken⟩ := List.exists_of_findSome?_eq_some read
      obtain ⟨left, dropped, same⟩ := Option.map_eq_some_iff.mp taken
      obtain ⟨rfl, rfl⟩ := Prod.mk.inj same
      exact ⟨listed, dropPrefix_iff.mp dropped⟩
    refine ⟨found, ?_⟩
    rintro ⟨listed, split⟩
    cases read : values.findSome? fun value => (text.dropPrefix? (spelled value).toList).map (value, ·) with
    | none =>
      have missed := List.findSome?_eq_none_iff.mp read value listed
      simp [dropPrefix_iff.mpr split] at missed
    | some taken =>
      obtain ⟨other, left⟩ := taken
      obtain ⟨listed', split'⟩ := found read
      -- both spellings begin the text, so one of them begins the other
      have same : other = value := by
        obtain begins | begins := List.prefix_or_prefix_of_prefix (split' ▸ List.prefix_append _ left)
          (split ▸ List.prefix_append _ rest)
        · exact apart other listed' value listed begins
        · exact (apart value listed other listed' begins).symm
      subst same
      rw [List.append_cancel_left (split'.symm.trans split)]

/-- The same writings, each after the same opening. -/
def after (opening : String) (code : PrefixCode α) : PrefixCode α where
  Admits := code.Admits
  written value := opening ++ code.written value
  read? text := (text.dropPrefix? opening.toList).bind code.read?
  read_iff := by
    intro text value rest
    simp only [Option.bind_eq_some_iff, dropPrefix_iff, code.read_iff, String.toList_append, List.append_assoc]
    constructor
    · rintro ⟨_, rfl, admitted, rfl⟩
      exact ⟨admitted, rfl⟩
    · rintro ⟨admitted, rfl⟩
      exact ⟨_, rfl, admitted, rfl⟩

/-- One value and then another. -/
def seq (first : PrefixCode α) (second : PrefixCode β) : PrefixCode (α × β) where
  Admits value := first.Admits value.1 ∧ second.Admits value.2
  written value := first.written value.1 ++ second.written value.2
  read? text := (first.read? text).bind fun (one, rest) =>
    (second.read? rest).map fun (other, rest) => ((one, other), rest)
  read_iff := by
    rintro text ⟨one, other⟩ rest
    simp only [Option.bind_eq_some_iff, Option.map_eq_some_iff, Prod.exists, Prod.mk.injEq, first.read_iff,
      second.read_iff, String.toList_append, List.append_assoc]
    constructor
    · rintro ⟨_, _, ⟨admitted, rfl⟩, _, _, ⟨admitted', rfl⟩, ⟨rfl, rfl⟩, rfl⟩
      exact ⟨⟨admitted, admitted'⟩, rfl⟩
    · rintro ⟨⟨admitted, admitted'⟩, rfl⟩
      exact ⟨_, _, ⟨admitted, rfl⟩, _, _, ⟨admitted', rfl⟩, ⟨rfl, rfl⟩, rfl⟩

/-- The same writings for values made of others. -/
def via (make : α → β) (parts : β → α) (parted : ∀ value, parts (make value) = value)
    (made : ∀ value, make (parts value) = value) (code : PrefixCode α) : PrefixCode β where
  Admits value := code.Admits (parts value)
  written value := code.written (parts value)
  read? text := (code.read? text).map fun (value, rest) => (make value, rest)
  read_iff := by
    intro text value rest
    simp only [Option.map_eq_some_iff, Prod.exists, Prod.mk.injEq, code.read_iff]
    constructor
    · rintro ⟨one, _, split, rfl, rfl⟩
      rwa [parted]
    · intro split
      exact ⟨parts value, rest, split, made value, rfl⟩

@[simp] theorem upTo_written (mark : Char) (name : String) :
    (upTo mark).written name = name ++ String.singleton mark := rfl

@[simp] theorem after_written (opening : String) (code : PrefixCode α) (value : α) :
    (after opening code).written value = opening ++ code.written value := rfl

@[simp] theorem seq_written (first : PrefixCode α) (second : PrefixCode β) (value : α × β) :
    (seq first second).written value = first.written value.1 ++ second.written value.2 := rfl

@[simp] theorem via_written (make : α → β) (parts : β → α) (parted : ∀ value, parts (make value) = value)
    (made : ∀ value, make (parts value) = value) (code : PrefixCode α) (value : β) :
    (via make parts parted made code).written value = code.written (parts value) := rfl

theorem length_lt_of_read {item : α} (read : code.read? text = some (item, ',' :: ' ' :: rest)) :
    rest.length < text.length := by
  rw [(code.read_iff.mp read).2, List.length_append, List.length_cons, List.length_cons]
  omega

/-- Values with a comma and a blank between neighbours, to the end of the text. -/
def items? (code : PrefixCode α) (text : List Char) : Option (List α) :=
  match read : code.read? text with
  | some (item, []) => some [item]
  | some (item, ',' :: ' ' :: rest) =>
    have : rest.length < text.length := length_lt_of_read read
    (code.items? rest).map (item :: ·)
  | _ => none
termination_by text.length

theorem items_of_last {item : α} (read : code.read? text = some (item, [])) : code.items? text = some [item] := by
  rw [items?]
  split <;> simp_all

theorem items_of_more {item : α} (read : code.read? text = some (item, ',' :: ' ' :: rest)) :
    code.items? text = (code.items? rest).map (item :: ·) := by
  rw [items?]
  split <;> simp_all

theorem written_cons (item : α) (filled : items ≠ []) :
    (Text.joined ", " ((item :: items).map code.written)).toList =
      (code.written item).toList ++ ',' :: ' ' :: (Text.joined ", " (items.map code.written)).toList := by
  rw [List.map_cons, Text.joined_cons (by simpa using filled)]
  simp

/-- A list is read exactly off its own writing. -/
theorem items_iff : code.items? text = some items ↔
    items ≠ [] ∧ (∀ item ∈ items, code.Admits item) ∧
      text = (Text.joined ", " (items.map code.written)).toList := by
  constructor
  · intro read
    fun_induction items? code text generalizing items with
    | case1 text item single =>
      obtain rfl := Option.some.inj read
      obtain ⟨admitted, split⟩ := code.read_iff.mp single
      refine ⟨List.cons_ne_nil _ _, List.forall_mem_singleton.mpr admitted, ?_⟩
      rw [split, List.append_nil]
      rfl
    | case2 text item rest more shorter ih =>
      obtain ⟨others, readOthers, rfl⟩ := Option.map_eq_some_iff.mp read
      obtain ⟨filled, admitted', split'⟩ := ih readOthers
      obtain ⟨admitted, split⟩ := code.read_iff.mp more
      refine ⟨List.cons_ne_nil _ _, List.forall_mem_cons.mpr ⟨admitted, admitted'⟩, ?_⟩
      rw [split, split', written_cons item filled]
    | case3 text other => cases read
  · rintro ⟨filled, admitted, rfl⟩
    induction items with
    | nil => exact absurd rfl filled
    | cons item rest ih =>
      obtain ⟨first, others⟩ := List.forall_mem_cons.mp admitted
      cases rest with
      | nil => exact items_of_last (code.read_iff.mpr ⟨first, (List.append_nil _).symm⟩)
      | cons second rest =>
        have more : second :: rest ≠ [] := List.cons_ne_nil second rest
        rw [items_of_more (code.read_iff.mpr ⟨first, written_cons item more⟩), ih more others, Option.map_some]

end PrefixCode
end TenantSql
