import AtlasManifests.Proofs.DefinitionLookup

/-! # The versions that a catalogue lists

With a text for each kind, the versions that are listed are those of the texts, without the
repetitions that directly follow one another.  So a version is listed exactly if lookups do not fail
for want of it, and the versions are listed for the first time in the order in which the texts have
them for the first time.  But a version is listed again where its texts are parted by a text of
another version: each version is listed only once exactly if the texts of each version stand
together (`Catalogue.versions_split_exact`).
-/
namespace AtlasManifests

/-! ## Repetitions in lists -/

section

variable {α : Type} {items : List α} {x y : α}

/-- An induction over lists that tells whether the first item is repeated by the second one. -/
@[elab_as_elim]
theorem repetition_induction {motive : List α → Prop} (nil : motive [])
    (single : ∀ x, motive [x])
    (repeated : ∀ x items, motive (x :: items) → motive (x :: x :: items))
    (fresh : ∀ x y items, x ≠ y → motive (y :: items) → motive (x :: y :: items))
    (items : List α) : motive items := by
  induction items with
  | nil => exact nil
  | cons x items ih =>
    cases items with
    | nil => exact single x
    | cons y items =>
      by_cases h : x = y
      · exact h ▸ repeated y items ih
      · exact fresh x y items h ih

/-- Nothing else stands between two equal items. -/
def StandTogether (items : List α) : Prop :=
  ∀ x before between after, items = before ++ x :: (between ++ x :: after) → ∀ y ∈ between, y = x

theorem StandTogether.of_length_le (h : items.length ≤ 1) : StandTogether items := by
  rintro x before between after rfl
  simp only [List.length_append, List.length_cons] at h
  omega

theorem StandTogether.of_cons (h : StandTogether (x :: items)) : StandTogether items :=
  fun y before between after heq => h y (x :: before) between after (congrArg _ heq)

/-- An item that is repeated at once still stands together. -/
theorem standTogether_repeated : StandTogether (x :: x :: items) ↔ StandTogether (x :: items) := by
  refine ⟨.of_cons, fun h y before between after heq => ?_⟩
  cases before with
  | cons z before => exact h y before between after (List.cons.inj heq).2
  | nil =>
    obtain ⟨rfl, heq⟩ := List.cons.inj heq
    cases between with
    | nil => exact fun _ hz => nomatch hz
    | cons z between =>
      have hz : z = x := (List.cons.inj heq).1.symm
      exact List.forall_mem_cons.mpr ⟨hz, h x [] between after (hz ▸ heq)⟩

/-- An item that another one follows must not come again. -/
theorem standTogether_fresh (hne : x ≠ y) :
    StandTogether (x :: y :: items) ↔ x ∉ y :: items ∧ StandTogether (y :: items) := by
  constructor
  · refine fun h => ⟨fun hmem => ?_, h.of_cons⟩
    obtain ⟨between, after, heq⟩ := List.append_of_mem hmem
    cases between with
    | nil => exact hne (List.cons.inj heq).1.symm
    | cons z between =>
      obtain ⟨rfl, -⟩ := List.cons.inj heq
      exact hne (h x [] (y :: between) after (congrArg _ heq) y List.mem_cons_self).symm
  · rintro ⟨hnot, h⟩ z before between after heq
    cases before with
    | cons w before => exact h z before between after (List.cons.inj heq).2
    | nil =>
      obtain ⟨rfl, heq⟩ := List.cons.inj heq
      exact absurd (heq ▸ List.mem_append_right _ List.mem_cons_self) hnot

end

section

variable {α : Type} [DecidableEq α] {items listed : List α} {x : α}

/-- The items of a list, each of them once, in the order in which they first appear. -/
structure ListsOnce (items listed : List α) : Prop where
  mem_iff : ∀ x, x ∈ listed ↔ x ∈ items
  inOrder : listed.Pairwise fun x y => items.idxOf x < items.idxOf y

/-- Two lists agree on which of two items they show first. -/
def FirstAlike (items listed : List α) : Prop :=
  ∀ x y, listed.idxOf x < listed.idxOf y ↔ items.idxOf x < items.idxOf y

theorem FirstAlike.cons (h : FirstAlike items listed) : FirstAlike (x :: items) (x :: listed) := by
  intro a b
  have hab := h a b
  simp only [List.idxOf_cons, cond_eq_ite, beq_iff_eq]
  split <;> split <;> omega

theorem FirstAlike.repeated (h : FirstAlike (x :: items) listed) :
    FirstAlike (x :: x :: items) listed := by
  intro a b
  rw [h a b]
  simp only [List.idxOf_cons, cond_eq_ite, beq_iff_eq]
  split <;> split <;> omega

/-- A list without repetitions shows its items in its own order. -/
theorem pairwise_idxOf_of_nodup (h : items.Nodup) :
    items.Pairwise fun x y => items.idxOf x < items.idxOf y := by
  rw [List.pairwise_iff_getElem]
  intro i j hi hj hij
  rwa [h.idxOf_getElem, h.idxOf_getElem]

/-- Where the items and their order are right, only repetitions can be wrong. -/
theorem FirstAlike.listsOnce_iff (h : FirstAlike items listed)
    (hmem : ∀ x, x ∈ listed ↔ x ∈ items) : ListsOnce items listed ↔ listed.Nodup := by
  constructor
  · intro hlists
    refine hlists.inOrder.imp fun hlt => ?_
    rintro rfl
    exact Nat.lt_irrefl _ hlt
  · intro hnodup
    exact ⟨hmem, (pairwise_idxOf_of_nodup hnodup).imp fun {x y} => (h x y).mp⟩

end

namespace Catalogue

/-! ## What is left without repetitions -/

/-- The first item stays the first. -/
theorem withoutRuns_cons (x : String) (items : List String) :
    ∃ rest, withoutRuns (x :: items) = x :: rest := by
  rw [withoutRuns]
  split
  · exact ⟨[], rfl⟩
  · next y rest _ =>
    split
    · next heq => exact ⟨rest, heq ▸ rfl⟩
    · exact ⟨y :: rest, rfl⟩

theorem withoutRuns_repeated (x : String) (items : List String) :
    withoutRuns (x :: x :: items) = withoutRuns (x :: items) := by
  obtain ⟨rest, hrest⟩ := withoutRuns_cons x items
  rw [withoutRuns, hrest]
  exact if_pos rfl

theorem withoutRuns_fresh {x y : String} (hne : x ≠ y) (items : List String) :
    withoutRuns (x :: y :: items) = x :: withoutRuns (y :: items) := by
  obtain ⟨rest, hrest⟩ := withoutRuns_cons y items
  rw [withoutRuns, hrest]
  exact if_neg hne

theorem mem_withoutRuns {x : String} {items : List String} :
    x ∈ withoutRuns items ↔ x ∈ items := by
  induction items using repetition_induction with
  | nil => rfl
  | single y => rfl
  | repeated y items ih =>
    rw [withoutRuns_repeated, ih, List.mem_cons (l := y :: items)]
    exact (or_iff_right_of_imp fun heq => heq ▸ List.mem_cons_self).symm
  | fresh y z items hne ih => rw [withoutRuns_fresh hne, List.mem_cons, ih, ← List.mem_cons]

theorem firstAlike_withoutRuns (items : List String) : FirstAlike items (withoutRuns items) := by
  induction items using repetition_induction with
  | nil => exact fun _ _ => Iff.rfl
  | single y => exact fun _ _ => Iff.rfl
  | repeated y items ih =>
    rw [withoutRuns_repeated]
    exact ih.repeated
  | fresh y z items hne ih =>
    rw [withoutRuns_fresh hne]
    exact ih.cons

/-- Only items that do not stand together are left more than once. -/
theorem nodup_withoutRuns_iff {items : List String} :
    (withoutRuns items).Nodup ↔ StandTogether items := by
  induction items using repetition_induction with
  | nil => exact iff_of_true List.nodup_nil (.of_length_le (Nat.zero_le 1))
  | single y => exact iff_of_true (List.pairwise_singleton _ y) (.of_length_le (Nat.le_refl 1))
  | repeated y items ih => rw [withoutRuns_repeated, ih, standTogether_repeated]
  | fresh y z items hne ih =>
    rw [withoutRuns_fresh hne, List.nodup_cons, mem_withoutRuns, ih, standTogether_fresh hne]

/-! ## Versions and lookups -/

/-- A lookup fails for want of the version. -/
def LacksVersion (c : Catalogue) (kind version : String) : Prop :=
  c.find kind version = .error (.notFound (.version version))

variable {files : List SplitFile} {version : String}

/-- A version is missing for one kind if it is for each. -/
theorem lacksVersion_split_iff (kind : String) :
    (split files).LacksVersion kind version ↔ version ∉ files.map (·.version) := by
  have hmem : files.filter (·.version == version) = [] ↔ version ∉ files.map (·.version) := by
    simp [List.filter_eq_nil_iff]
  rw [← hmem, LacksVersion]
  simp only [find]
  split
  · next hnone => exact iff_of_true rfl hnone
  · next known hknown =>
    refine iff_of_false (fun h => ?_) hknown
    split at h
    · cases h
    · obtain ⟨_, hread⟩ := DefinitionSource.read_error h
      cases hread

/-- A version is listed exactly if lookups for it do not fail for want of the version, whatever the
kind that is looked up. -/
theorem mem_versions_split_iff (kind : String) :
    version ∈ (split files).versions ↔ ¬ (split files).LacksVersion kind version := by
  rw [lacksVersion_split_iff, Classical.not_not]
  exact mem_withoutRuns

/-- **What versions are listed**, with a text for each kind and whatever the order of the texts.
A version is listed exactly if some lookup for it, and then every lookup, does not fail for want of
the version, and versions are first listed in the order in which they first appear.  Each of them is
listed only once exactly if the texts of each version stand together. -/
theorem versions_split_exact (files : List SplitFile) :
    (∀ version,
      (version ∈ (split files).versions ↔
        ∃ kind, ¬ (split files).LacksVersion kind version) ∧
      (version ∈ (split files).versions ↔
        ∀ kind, ¬ (split files).LacksVersion kind version)) ∧
    (∀ version, version ∈ (split files).versions ↔ version ∈ files.map (·.version)) ∧
    FirstAlike (files.map (·.version)) (split files).versions ∧
    (ListsOnce (files.map (·.version)) (split files).versions ↔
      StandTogether (files.map (·.version))) := by
  have hfirst : FirstAlike (files.map (·.version)) (split files).versions :=
    firstAlike_withoutRuns _
  refine ⟨fun version => ⟨?_, ?_⟩, fun _ => mem_withoutRuns, hfirst, ?_⟩
  · exact ⟨fun h => ⟨"", (mem_versions_split_iff "").mp h⟩,
      fun ⟨kind, h⟩ => (mem_versions_split_iff kind).mpr h⟩
  · exact ⟨fun h kind => (mem_versions_split_iff kind).mp h,
      fun h => (mem_versions_split_iff "").mpr (h "")⟩
  · rw [hfirst.listsOnce_iff fun _ => mem_withoutRuns]
    exact nodup_withoutRuns_iff

/-- The texts that are embedded stand together. -/
example : embedded.versions = ["2.10.0", "2.11.0"] := by decide

/-- Two texts of a version that a text of another one stands between. -/
def partedFiles : List SplitFile :=
  [⟨"1", "A", .written ""⟩, ⟨"2", "A", .written ""⟩, ⟨"1", "B", .written ""⟩]

/-- A version whose texts are parted is listed twice. -/
theorem versions_parted :
    (split partedFiles).versions = ["1", "2", "1"] ∧
      ¬ ListsOnce (partedFiles.map (·.version)) (split partedFiles).versions := by
  refine ⟨by decide, fun h => ?_⟩
  exact absurd h.inOrder (by decide)

end Catalogue

end AtlasManifests
