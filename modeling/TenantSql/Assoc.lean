/-!
Finite maps from texts, kept as pairs in ascending order of their keys. `List.lookup` reads them;
`put` and `remove` change one key and leave all others alone.
-/

namespace TenantSql.Assoc

variable {α : Type _}

/-- The map with this value under the key, whether or not the key was there before. -/
def put (key : String) (value : α) : List (String × α) → List (String × α)
  | [] => [(key, value)]
  | (other, held) :: rest =>
    if key = other then (key, value) :: rest
    else if key < other then (key, value) :: (other, held) :: rest
    else (other, held) :: put key value rest

/-- The map without the key. -/
def remove (key : String) (map : List (String × α)) : List (String × α) :=
  map.filter (·.1 ≠ key)

/-- The map of all pairs; a later pair takes the place of an earlier one with the same key. -/
def ofList (pairs : List (String × α)) : List (String × α) :=
  pairs.foldl (fun map (key, value) => put key value map) []

/-- No key occurs twice, whatever the order of the pairs. -/
def Distinct (map : List (String × α)) : Prop := (map.map (·.1)).Nodup

instance (map : List (String × α)) : Decidable (Distinct map) := inferInstanceAs (Decidable (List.Nodup _))

/-- The keys stand in ascending order. -/
def Ascending (map : List (String × α)) : Prop := map.Pairwise fun first second => first.1 < second.1

theorem Ascending.distinct {map : List (String × α)} (ascending : Ascending map) : Distinct map := by
  refine List.pairwise_map.mpr (ascending.imp ?_)
  intro first second less same
  exact String.lt_irrefl second.1 (same ▸ less)

/-- Putting brings in the new pair and no other. -/
theorem mem_of_mem_put {key : String} {value : α} {pair : String × α} {map : List (String × α)}
    (member : pair ∈ put key value map) : pair = (key, value) ∨ pair ∈ map := by
  induction map with
  | nil => simpa [put] using member
  | cons head rest ih =>
    unfold put at member
    split at member
    · rcases List.mem_cons.mp member with new | old
      · exact Or.inl new
      · exact Or.inr (List.mem_cons_of_mem _ old)
    · split at member
      · exact List.mem_cons.mp member
      · rcases List.mem_cons.mp member with rfl | later
        · exact Or.inr List.mem_cons_self
        · exact (ih later).imp_right (List.mem_cons_of_mem _)

theorem put_ascending (key : String) (value : α) {map : List (String × α)} (ascending : Ascending map) :
    Ascending (put key value map) := by
  induction map with
  | nil => exact List.pairwise_singleton _ _
  | cons pair rest ih =>
    obtain ⟨above, tail⟩ := List.pairwise_cons.mp ascending
    unfold put
    split
    · rename_i same
      exact List.pairwise_cons.mpr ⟨by simpa [same] using above, tail⟩
    · split
      · rename_i less
        refine List.pairwise_cons.mpr ⟨?_, ascending⟩
        rintro other (_ | ⟨_, member⟩)
        · exact less
        · exact String.lt_trans less (above other member)
      · rename_i differs notLess
        have greater : pair.1 < key := by grind
        refine List.pairwise_cons.mpr ⟨fun other member => ?_, ih tail⟩
        rcases mem_of_mem_put member with rfl | old
        · exact greater
        · exact above other old

theorem ofList_ascending (pairs : List (String × α)) : Ascending (ofList pairs) := by
  suffices kept : ∀ map : List (String × α), Ascending map →
      Ascending (pairs.foldl (fun map (key, value) => put key value map) map) from
    kept [] List.Pairwise.nil
  induction pairs with
  | nil => exact fun _ ascending => ascending
  | cons pair rest ih => exact fun map ascending => ih _ (put_ascending pair.1 pair.2 ascending)

/-- Where no key occurs twice, each pair is found under its key. -/
theorem lookup_of_mem {map : List (String × α)} (distinct : Distinct map) {key : String} {value : α}
    (member : (key, value) ∈ map) : map.lookup key = some value := by
  induction map with
  | nil => cases member
  | cons first rest ih =>
    obtain ⟨fresh, others⟩ := List.nodup_cons.mp distinct
    rcases List.mem_cons.mp member with rfl | later
    · exact List.lookup_cons_self
    · obtain ⟨other, held⟩ := first
      have differs : key ≠ other := fun same => fresh (List.mem_map.mpr ⟨_, later, same⟩)
      have miss : (key == other) = false := by simpa using differs
      rw [List.lookup_cons, miss]
      exact ih others later

/-- What is found under a key is one of the pairs, whatever the keys are. -/
theorem mem_of_lookup {κ : Type _} [BEq κ] [LawfulBEq κ] {map : List (κ × α)} {key : κ} {value : α}
    (found : map.lookup key = some value) : (key, value) ∈ map := by
  obtain ⟨before, behind, rfl, -⟩ := List.lookup_eq_some_iff.mp found
  exact List.mem_append_cons_self

/-- Where no key occurs twice, the pairs are what is found under the keys. -/
theorem mem_iff_lookup {map : List (String × α)} (distinct : Distinct map) {key : String} {value : α} :
    (key, value) ∈ map ↔ map.lookup key = some value :=
  ⟨lookup_of_mem distinct, mem_of_lookup⟩

theorem lookup_of_notMem {map : List (String × α)} {key : String} (absent : key ∉ map.map (·.1)) :
    map.lookup key = none := by
  refine List.lookup_eq_none_iff.mpr fun pair member => ?_
  simpa using fun same : key = pair.1 => absent (List.mem_map.mpr ⟨pair, member, same.symm⟩)

theorem lookup_put_self (key : String) (value : α) (map : List (String × α)) :
    (put key value map).lookup key = some value := by
  induction map with
  | nil => simp [put]
  | cons pair rest ih =>
    obtain ⟨other, held⟩ := pair
    unfold put
    split
    · simp
    · split
      · simp
      · rename_i differs _
        have miss : (key == other) = false := by simpa using differs
        simp [List.lookup_cons, miss, ih]

theorem lookup_put_of_ne {key sought : String} (differs : sought ≠ key) (value : α)
    (map : List (String × α)) : (put key value map).lookup sought = map.lookup sought := by
  have miss : (sought == key) = false := by simpa using differs
  induction map with
  | nil => simp [put, List.lookup_cons, miss]
  | cons pair rest ih =>
    obtain ⟨other, held⟩ := pair
    unfold put
    split
    · rename_i same
      simp [List.lookup_cons, ← same, miss]
    · split
      · simp [List.lookup_cons, miss]
      · simp only [List.lookup_cons]
        split <;> simp_all

/-- Putting in pairs of different keys changes what is found under these keys and nothing else. -/
theorem lookup_foldl_put {pairs : List (String × α)} (distinct : Distinct pairs) (map : List (String × α))
    (sought : String) :
    (pairs.foldl (fun map (key, value) => put key value map) map).lookup sought =
      (pairs.lookup sought).or (map.lookup sought) := by
  induction pairs generalizing map with
  | nil => rfl
  | cons pair rest ih =>
    obtain ⟨key, value⟩ := pair
    obtain ⟨fresh, others⟩ := List.nodup_cons.mp distinct
    rw [List.foldl_cons, ih others]
    by_cases same : sought = key
    · subst same
      rw [lookup_put_self, lookup_of_notMem fresh, List.lookup_cons_self, Option.none_or, Option.some_or]
    · have miss : (sought == key) = false := by simpa using same
      rw [lookup_put_of_ne same, List.lookup_cons, miss]

/-- A map of pairs whose keys are different holds these pairs. -/
theorem lookup_ofList {pairs : List (String × α)} (distinct : Distinct pairs) (sought : String) :
    (ofList pairs).lookup sought = pairs.lookup sought := by
  rw [ofList, lookup_foldl_put distinct, List.lookup_nil, Option.or_none]

theorem lookup_remove_self (key : String) (map : List (String × α)) :
    (remove key map).lookup key = none := by
  induction map with
  | nil => rfl
  | cons pair rest ih =>
    obtain ⟨other, held⟩ := pair
    unfold remove at ih ⊢
    by_cases same : other = key
    · simpa [same] using ih
    · have miss : (key == other) = false := by simpa using fun held => same held.symm
      simpa [same, List.lookup_cons, miss] using ih

theorem lookup_remove_of_ne {key sought : String} (differs : sought ≠ key) (map : List (String × α)) :
    (remove key map).lookup sought = map.lookup sought := by
  induction map with
  | nil => rfl
  | cons pair rest ih =>
    obtain ⟨other, held⟩ := pair
    unfold remove at ih ⊢
    by_cases same : other = key
    · have miss : (sought == other) = false := by simpa [same] using differs
      simp only [List.lookup_cons, miss, ← ih]
      simp [same]
    · simp only [List.lookup_cons, ← ih]
      simp [same, List.lookup_cons]

/-- The map with every value changed in the same way. -/
def mapValues {β : Type _} (change : α → β) (map : List (String × α)) : List (String × β) :=
  map.map fun (key, value) => (key, change value)

section
variable {β : Type _} (change : α → β)

@[simp] theorem mapValues_length (map : List (String × α)) : (mapValues change map).length = map.length :=
  List.length_map ..

theorem lookup_mapValues (key : String) (map : List (String × α)) :
    (mapValues change map).lookup key = (map.lookup key).map change := by
  induction map with
  | nil => rfl
  | cons pair rest ih =>
    obtain ⟨other, held⟩ := pair
    simp only [mapValues, List.map_cons, List.lookup_cons] at ih ⊢
    cases key == other
    · exact ih
    · rfl

theorem put_mapValues (key : String) (value : α) (map : List (String × α)) :
    put key (change value) (mapValues change map) = mapValues change (put key value map) := by
  induction map with
  | nil => rfl
  | cons pair rest ih =>
    obtain ⟨other, held⟩ := pair
    simp only [mapValues, List.map_cons, put] at ih ⊢
    split
    · rfl
    · split
      · rfl
      · rw [ih, List.map_cons]

theorem remove_mapValues (key : String) (map : List (String × α)) :
    remove key (mapValues change map) = mapValues change (remove key map) := by
  rw [remove, mapValues, List.filter_map]
  rfl

end

end TenantSql.Assoc
