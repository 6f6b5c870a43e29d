/-! # Sorted association lists

Finite maps as lists of pairs in increasing order of their keys, without repeated
keys. `lookup_insert` says what an insertion does to what can be looked up, and
`mem_keys_insert` what it does to the keys.
-/
namespace AtlasManifests.Assoc

variable {α : Type}

/-- Put a value under a key, in place of the one that was there. -/
def insert (key : String) (value : α) : List (String × α) → List (String × α)
  | [] => [(key, value)]
  | (k, v) :: rest =>
    if key < k then (key, value) :: (k, v) :: rest
    else if key = k then (key, value) :: rest
    else (k, v) :: insert key value rest

/-- The map of a list of pairs in any order; of pairs with one key the last counts. -/
def ofList (pairs : List (String × α)) : List (String × α) :=
  pairs.foldl (fun m (k, v) => insert k v m) []

/-- Looking up compares with one key after the other. -/
theorem lookup_cons (k key : String) (value : α) (m : List (String × α)) :
    ((key, value) :: m).lookup k = if k = key then some value else m.lookup k := by
  by_cases h : k = key
  · subst h; simp
  · have hb : (k == key) = false := by simpa using h
    rw [List.lookup_cons, hb, if_neg h]

/-- An insertion is seen under its own key and nowhere else. -/
theorem lookup_insert (key k : String) (value : α) (m : List (String × α)) :
    (insert key value m).lookup k = if k = key then some value else m.lookup k := by
  induction m with
  | nil => rw [insert, lookup_cons]
  | cons head rest ih =>
    obtain ⟨k', v⟩ := head
    rw [insert]
    split
    · rw [lookup_cons]
    · split
      · next h =>
        subst h
        rw [lookup_cons, lookup_cons]
        by_cases h : k = key <;> simp [h]
      · next hne =>
        rw [lookup_cons, lookup_cons, ih]
        by_cases h : k = k'
        · subst h
          simp [Ne.symm hne]
        · simp [h]

theorem mem_keys_insert {key k : String} {value : α} {m : List (String × α)} :
    k ∈ (insert key value m).map (·.1) ↔ k = key ∨ k ∈ m.map (·.1) := by
  induction m with
  | nil => simp [insert]
  | cons head rest ih =>
    obtain ⟨k', v⟩ := head
    rw [insert]
    split
    · simp
    · split
      · next h => subst h; simp
      · simp only [List.map_cons, List.mem_cons, ih]
        constructor
        · rintro (h | h | h)
          · exact .inr (.inl h)
          · exact .inl h
          · exact .inr (.inr h)
        · rintro (h | h | h)
          · exact .inr (.inl h)
          · exact .inl h
          · exact .inr (.inr h)

end AtlasManifests.Assoc
