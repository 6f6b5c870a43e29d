import AtlasManifests.Assoc
import Mathlib.Data.List.Nodup
import Mathlib.Data.List.Perm.Basic
import Mathlib.Data.String.Basic

/-! # Sorted association lists are maps

A list of pairs in increasing order of their keys is determined by the pairs that are in it.  So it
does not matter in which order pairs with different keys are inserted (`insertAll_congr`): what
comes out is the sorted list of all of them.
-/
namespace AtlasManifests.Assoc

variable {α : Type} {m m' pairs pairs' : List (String × α)} {key : String} {value : α}

/-- Pairs in increasing order of their keys. -/
def IsSorted (m : List (String × α)) : Prop := m.Pairwise fun a b => a.1 < b.1

theorem isSorted_nil : IsSorted ([] : List (String × α)) := List.Pairwise.nil

theorem isSorted_singleton (entry : String × α) : IsSorted [entry] := List.pairwise_singleton _ _

theorem mem_insert {entry : String × α} (h : entry ∈ insert key value m) :
    entry = (key, value) ∨ entry ∈ m := by
  induction m with
  | nil => exact .inl (List.mem_singleton.mp h)
  | cons head rest ih =>
    obtain ⟨k, v⟩ := head
    rw [insert] at h
    split at h
    · exact List.mem_cons.mp h
    · split at h
      · rcases List.mem_cons.mp h with h | h
        · exact .inl h
        · exact .inr (List.mem_cons_of_mem _ h)
      · rcases List.mem_cons.mp h with rfl | h
        · exact .inr List.mem_cons_self
        · exact (ih h).imp_right (List.mem_cons_of_mem _)

/-- What is less than all keys goes to the front. -/
theorem insert_of_lt (h : ∀ entry ∈ m, key < entry.1) : insert key value m = (key, value) :: m := by
  cases m with
  | nil => rfl
  | cons head rest => rw [insert, if_pos (h head List.mem_cons_self)]

theorem IsSorted.insert (h : IsSorted m) (key : String) (value : α) :
    IsSorted (insert key value m) := by
  induction m with
  | nil => exact isSorted_singleton _
  | cons head rest ih =>
    obtain ⟨k, v⟩ := head
    obtain ⟨hhead, hrest⟩ := List.pairwise_cons.mp h
    rw [Assoc.insert]
    split
    · next hlt =>
      refine List.pairwise_cons.mpr ⟨fun entry hentry => ?_, h⟩
      rcases List.mem_cons.mp hentry with rfl | hentry
      · exact hlt
      · exact lt_trans hlt (hhead entry hentry)
    · split
      · next heq =>
        subst heq
        exact List.pairwise_cons.mpr ⟨hhead, hrest⟩
      · next hle hne =>
        have hlt : k < key := lt_of_le_of_ne (not_lt.mp hle) (Ne.symm hne)
        refine List.pairwise_cons.mpr ⟨fun entry hentry => ?_, ih hrest⟩
        rcases mem_insert hentry with rfl | hentry
        · exact hlt
        · exact hhead entry hentry

theorem insert_perm (h : key ∉ m.map (·.1)) : (insert key value m).Perm ((key, value) :: m) := by
  induction m with
  | nil => exact .refl _
  | cons head rest ih =>
    obtain ⟨k, v⟩ := head
    obtain ⟨hne, hrest⟩ : key ≠ k ∧ key ∉ rest.map (·.1) := by simpa using h
    rw [insert]
    split
    · exact .refl _
    · exact ((ih hrest).cons _).trans (.swap _ _ _)

/-- A sorted list is determined by what is in it. -/
theorem IsSorted.eq_of_perm (h : IsSorted m) (h' : IsSorted m') (hperm : m.Perm m') : m = m' :=
  hperm.eq_of_pairwise (fun _ _ _ _ hlt hgt => absurd (lt_trans hlt hgt) (lt_irrefl _)) h h'

/-! ## Inserting several pairs -/

/-- Put several values under their keys, one after the other. -/
def insertAll (pairs m : List (String × α)) : List (String × α) :=
  pairs.foldl (fun m (k, v) => insert k v m) m

theorem ofList_eq_insertAll (pairs : List (String × α)) : ofList pairs = insertAll pairs [] := rfl

theorem mem_of_mem_insertAll {entry : String × α} (h : entry ∈ insertAll pairs m) :
    entry ∈ pairs ∨ entry ∈ m := by
  induction pairs generalizing m with
  | nil => exact .inr h
  | cons head rest ih =>
    rcases ih h with hrest | hm
    · exact .inl (List.mem_cons_of_mem _ hrest)
    · rcases mem_insert hm with rfl | hm
      · exact .inl List.mem_cons_self
      · exact .inr hm

theorem IsSorted.insertAll (h : IsSorted m) (pairs : List (String × α)) :
    IsSorted (insertAll pairs m) := by
  induction pairs generalizing m with
  | nil => exact h
  | cons head rest ih => exact ih (h.insert head.1 head.2)

/-- Pairs with new and different keys are added to those that are there. -/
theorem insertAll_perm (h : ((pairs ++ m).map (·.1)).Nodup) :
    (insertAll pairs m).Perm (pairs ++ m) := by
  induction pairs generalizing m with
  | nil => exact .refl _
  | cons head rest ih =>
    obtain ⟨key, value⟩ := head
    rw [List.cons_append, List.map_cons, List.nodup_cons] at h
    -- the first key is not among those that are there
    have hnew : key ∉ m.map (·.1) := by
      intro hmem
      apply h.1
      rw [List.map_append]
      exact List.mem_append_right _ hmem
    have hperm : (rest ++ insert key value m).Perm ((key, value) :: (rest ++ m)) :=
      ((insert_perm hnew).append_left rest).trans List.perm_middle
    exact (ih ((hperm.map (·.1)).nodup_iff.mpr (List.nodup_cons.mpr h))).trans hperm

/-- **The order in which pairs with different keys are inserted does not matter.** -/
theorem insertAll_congr (hm : IsSorted m) (hperm : pairs.Perm pairs')
    (h : ((pairs ++ m).map (·.1)).Nodup) : insertAll pairs m = insertAll pairs' m := by
  have happend : (pairs ++ m).Perm (pairs' ++ m) := hperm.append_right m
  have h' : ((pairs' ++ m).map (·.1)).Nodup := (happend.map (·.1)).nodup_iff.mp h
  refine (hm.insertAll pairs).eq_of_perm (hm.insertAll pairs') ?_
  exact (insertAll_perm h).trans (happend.trans (insertAll_perm h').symm)

theorem ofList_perm (h : (pairs.map (·.1)).Nodup) : (ofList pairs).Perm pairs := by
  have hperm : (insertAll pairs []).Perm (pairs ++ []) :=
    insertAll_perm (by rwa [List.append_nil])
  rwa [List.append_nil] at hperm

theorem lookup_isSome_iff : (m.lookup key).isSome = true ↔ key ∈ m.map (·.1) := by
  induction m with
  | nil => simp
  | cons head rest ih =>
    obtain ⟨k, v⟩ := head
    rw [lookup_cons, List.map_cons, List.mem_cons, ← ih]
    split <;> simp_all

theorem lookup_eq_none (h : key ∉ m.map (·.1)) : m.lookup key = none :=
  Option.not_isSome_iff_eq_none.mp fun hsome => h (lookup_isSome_iff.mp hsome)

theorem mem_of_lookup (h : m.lookup key = some value) : (key, value) ∈ m := by
  induction m with
  | nil => cases h
  | cons head rest ih =>
    obtain ⟨k, v⟩ := head
    rw [lookup_cons] at h
    split at h
    · next heq =>
      cases h
      exact heq ▸ List.mem_cons_self
    · exact List.mem_cons_of_mem _ (ih h)

theorem lookup_of_mem (h : (m.map (·.1)).Nodup) (hmem : (key, value) ∈ m) :
    m.lookup key = some value := by
  induction m with
  | nil => cases hmem
  | cons head rest ih =>
    obtain ⟨k, v⟩ := head
    obtain ⟨hnew, hrest⟩ := List.nodup_cons.mp h
    rw [lookup_cons]
    rcases List.mem_cons.mp hmem with heq | hmem
    · obtain ⟨rfl, rfl⟩ := Prod.mk.inj heq
      rw [if_pos rfl]
    · have hne : key ≠ k := fun heq => hnew (List.mem_map.mpr ⟨_, hmem, heq⟩)
      rw [if_neg hne, ih hrest hmem]

theorem lookup_insertAll_of_not_mem (h : key ∉ pairs.map (·.1)) (m : List (String × α)) :
    (insertAll pairs m).lookup key = m.lookup key := by
  induction pairs generalizing m with
  | nil => rfl
  | cons head rest ih =>
    obtain ⟨hne, hrest⟩ : key ≠ head.1 ∧ key ∉ rest.map (·.1) := by simpa using h
    exact (ih hrest _).trans ((lookup_insert _ _ _ _).trans (if_neg hne))

section
variable {β : Type} (f : α → β)

theorem map_insert (key : String) (value : α) (m : List (String × α)) :
    (insert key value m).map (fun (k, v) => (k, f v)) =
      insert key (f value) (m.map fun (k, v) => (k, f v)) := by
  induction m with
  | nil => rfl
  | cons head rest ih =>
    obtain ⟨k, v⟩ := head
    rw [insert, List.map_cons, insert]
    split
    · rfl
    · split
      · rfl
      · rw [List.map_cons, ih]

theorem map_insertAll (pairs m : List (String × α)) :
    (insertAll pairs m).map (fun (k, v) => (k, f v)) =
      insertAll (pairs.map fun (k, v) => (k, f v)) (m.map fun (k, v) => (k, f v)) := by
  induction pairs generalizing m with
  | nil => rfl
  | cons head rest ih => exact (ih _).trans (congrArg _ (map_insert f head.1 head.2 m))

theorem map_ofList (pairs : List (String × α)) :
    (ofList pairs).map (fun (k, v) => (k, f v)) = ofList (pairs.map fun (k, v) => (k, f v)) :=
  map_insertAll f pairs []

end

/-- An insertion under a key that is left out does not count. -/
theorem filter_insert {p : String → Bool} (h : p key = false) (value : α)
    (m : List (String × α)) :
    (insert key value m).filter (fun (k, _) => p k) = m.filter fun (k, _) => p k := by
  induction m with
  | nil => simp [insert, h]
  | cons head rest ih =>
    obtain ⟨k, v⟩ := head
    rw [insert]
    split
    · simp [h]
    · split
      · next heq =>
        subst heq
        simp [h]
      · rw [List.filter_cons, List.filter_cons, ih]

end AtlasManifests.Assoc
