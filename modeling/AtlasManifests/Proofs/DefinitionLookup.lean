import AtlasManifests.Definition.Catalogue

/-! # What a catalogue answers

A lookup finds a definition, or misses: there is no such version, or none of its definitions is of
the kind.  With a text for each kind a lookup misses exactly if there is no text for the kind, and
otherwise the first such text decides.  A stream is read from the front, and so everything that
stands before the definition has a say: a lookup misses, or finds what is there, exactly if every
document before the first definition of the kind can be read (`Catalogue.find_exact`).  One
document that cannot be read hides the definitions behind it, and turns each miss into a failure
to read (`Catalogue.garbled_not_missing`).
-/
namespace AtlasManifests

/-- An item that only passed items stand before. -/
def FirstBehind {α : Type} (passed : α → Prop) (l : List α) (x : α) : Prop :=
  ∃ before after, l = before ++ x :: after ∧ ∀ y ∈ before, passed y

theorem not_firstBehind_nil {α : Type} {passed : α → Prop} {x : α} :
    ¬ FirstBehind passed [] x := by
  rintro ⟨before, after, heq, _⟩
  exact absurd heq.symm (List.append_ne_nil_of_right_ne_nil _ (List.cons_ne_nil _ _))

theorem firstBehind_cons {α : Type} {passed : α → Prop} {l : List α} {x y : α} :
    FirstBehind passed (y :: l) x ↔ x = y ∨ passed y ∧ FirstBehind passed l x := by
  constructor
  · rintro ⟨before, after, heq, hbefore⟩
    cases before with
    | nil => exact .inl (List.cons.inj heq).1.symm
    | cons z before =>
      obtain ⟨rfl, rfl⟩ := List.cons.inj heq
      obtain ⟨hy, hbefore⟩ := List.forall_mem_cons.mp hbefore
      exact .inr ⟨hy, before, after, rfl, hbefore⟩
  · rintro (rfl | ⟨hy, before, after, rfl, hbefore⟩)
    · exact ⟨[], l, rfl, fun _ hz => nomatch hz⟩
    · exact ⟨y :: before, after, rfl, List.forall_mem_cons.mpr ⟨hy, hbefore⟩⟩

/-- Some item with a property is the first, or no item has it. -/
theorem exists_firstBehind_or_forall {α : Type} (p : α → Prop) (l : List α) :
    (∃ x, FirstBehind (¬ p ·) l x ∧ p x) ∨ ∀ x ∈ l, ¬ p x := by
  induction l with
  | nil => exact .inr fun _ h => nomatch h
  | cons y l ih =>
    by_cases hy : p y
    · exact .inl ⟨y, firstBehind_cons.mpr (.inl rfl), hy⟩
    · rcases ih with ⟨x, hfirst, hx⟩ | hnone
      · exact .inl ⟨x, firstBehind_cons.mpr (.inr ⟨hy, hfirst⟩), hx⟩
      · exact .inr (List.forall_mem_cons.mpr ⟨hy, hnone⟩)

theorem find?_eq_some_iff_firstBehind {α : Type} {p : α → Bool} {q : α → Prop}
    (hpq : ∀ x, p x = true ↔ q x) {l : List α} {x : α} :
    l.find? p = some x ↔ FirstBehind (¬ q ·) l x ∧ q x := by
  rw [List.find?_eq_some_iff_append, hpq]
  constructor
  · rintro ⟨hx, before, after, heq, hbefore⟩
    exact ⟨⟨before, after, heq, fun y hy => by simpa [← hpq] using hbefore y hy⟩, hx⟩
  · rintro ⟨⟨before, after, heq, hbefore⟩, hx⟩
    exact ⟨hx, before, after, heq, fun y hy => by simpa [← hpq] using hbefore y hy⟩

/-- A lookup that ends with the answer that there is nothing. -/
def IsMiss {α : Type} (result : Except Error α) : Prop :=
  ∃ e, result = .error e ∧ e.isNotFound = true

instance {α : Type} : (result : Except Error α) → Decidable (IsMiss result)
  | .ok _ => isFalse fun ⟨_, h, _⟩ => nomatch h
  | .error e =>
    decidable_of_iff (e.isNotFound = true)
      ⟨fun h => ⟨e, rfl, h⟩, fun ⟨_, heq, h⟩ => Except.error.inj heq ▸ h⟩

/-- The text of a kind in a version. -/
def SplitFile.IsFor (kind version : String) (file : SplitFile) : Prop :=
  file.version = version ∧ file.kind = kind

/-- A source fails only if its text cannot be read. -/
theorem DefinitionSource.read_error {source : DefinitionSource} {e : Error}
    (h : source.read = .error e) : ∃ detail, e = .serialization detail := by
  cases source with
  | ready d => cases h
  | written text =>
    rw [read] at h
    split at h
    · cases h
    · exact ⟨_, (Except.error.inj h).symm⟩

namespace Catalogue

/-! ## The documents of a stream -/

/-- A document that holds a definition. -/
def Defines (document : String) (d : Definition) : Prop :=
  ∃ value, Yaml.value? document = some value ∧
    kindOf? value = some "CustomResourceDefinition" ∧ Definition.ofDatum? value = some d

/-- A document that can be read, and as a definition if it calls itself one. -/
def IsLegible (document : String) : Prop :=
  ∃ value, Yaml.value? document = some value ∧
    (kindOf? value = some "CustomResourceDefinition" → ∃ d, Definition.ofDatum? value = some d)

/-- A document behind which a search for a kind goes on. -/
def Passes (kind document : String) : Prop :=
  IsLegible document ∧ ∀ d, Defines document d → d.kind ≠ kind

variable {kind document : String} {rest documents : List String} {d : Definition}

theorem Defines.unique {d' : Definition} (h : Defines document d) (h' : Defines document d') :
    d = d' := by
  obtain ⟨value, hvalue, _, hd⟩ := h
  obtain ⟨value', hvalue', _, hd'⟩ := h'
  obtain rfl := Option.some.inj (hvalue.symm.trans hvalue')
  exact Option.some.inj (hd.symm.trans hd')

theorem Defines.isLegible (h : Defines document d) : IsLegible document :=
  let ⟨value, hvalue, _, hd⟩ := h
  ⟨value, hvalue, fun _ => ⟨d, hd⟩⟩

theorem Defines.not_passes (h : Defines document d) (hkind : d.kind = kind) :
    ¬ Passes kind document :=
  fun hpasses => hpasses.2 d h hkind

theorem exists_defines_iff :
    (∃ d, Defines document d ∧ d.kind = kind) ↔
      (Yaml.value? document).bind kindOf? = some "CustomResourceDefinition" ∧
        ((Yaml.value? document).bind Definition.ofDatum?).map Definition.kind = some kind := by
  constructor
  · rintro ⟨d, ⟨value, hvalue, hdefinition, hd⟩, hkind⟩
    rw [hvalue, Option.bind_some, Option.bind_some, hd, Option.map_some, hkind]
    exact ⟨hdefinition, rfl⟩
  · rintro ⟨hdefinition, hkind⟩
    obtain ⟨value, hvalue, hdefinition⟩ := Option.bind_eq_some_iff.mp hdefinition
    obtain ⟨d, hd, hkind⟩ := Option.map_eq_some_iff.mp hkind
    rw [hvalue, Option.bind_some] at hd
    exact ⟨d, ⟨value, hvalue, hdefinition, hd⟩, hkind⟩

/-- What a search can meet. -/
theorem passes_or_defines_or_not_isLegible (kind document : String) :
    Passes kind document ∨ (∃ d, Defines document d ∧ d.kind = kind) ∨ ¬ IsLegible document := by
  by_cases hlegible : IsLegible document
  · by_cases hdefines : ∃ d, Defines document d ∧ d.kind = kind
    · exact .inr (.inl hdefines)
    · exact .inl ⟨hlegible, fun d hd hkind => hdefines ⟨d, hd, hkind⟩⟩
  · exact .inr (.inr hlegible)

theorem findDocument_cons_of_passes (h : Passes kind document) :
    findDocument kind (document :: rest) = findDocument kind rest := by
  obtain ⟨⟨value, hvalue, hlegible⟩, hother⟩ := h
  rw [findDocument, hvalue]
  by_cases hdefinition : kindOf? value = some "CustomResourceDefinition"
  · obtain ⟨d, hd⟩ := hlegible hdefinition
    have hkind : d.kind ≠ kind := hother d ⟨value, hvalue, hdefinition, hd⟩
    simp only [hdefinition, hd, bne_self_eq_false, Bool.false_eq_true, if_false, if_neg hkind]
  · simp only [bne_iff_ne.mpr hdefinition, if_true]

theorem findDocument_cons_of_defines (h : Defines document d) (hkind : d.kind = kind) :
    findDocument kind (document :: rest) = .ok (some d) := by
  obtain ⟨value, hvalue, hdefinition, hd⟩ := h
  rw [findDocument, hvalue]
  simp only [hdefinition, hd, bne_self_eq_false, Bool.false_eq_true, if_false, if_pos hkind]

theorem findDocument_cons_of_not_isLegible (h : ¬ IsLegible document) (rest : List String) :
    ∃ detail, findDocument kind (document :: rest) = .error (.serialization detail) := by
  rw [findDocument]
  cases hvalue : Yaml.value? document with
  | none => exact ⟨_, rfl⟩
  | some value =>
    by_cases hdefinition : kindOf? value = some "CustomResourceDefinition"
    · cases hd : Definition.ofDatum? value with
      | none =>
        refine ⟨"definition", ?_⟩
        simp only [hdefinition, hd, bne_self_eq_false, Bool.false_eq_true, if_false]
      | some d => exact absurd ⟨value, hvalue, fun _ => ⟨d, hd⟩⟩ h
    · exact absurd ⟨value, hvalue, fun hcalls => absurd hcalls hdefinition⟩ h

/-! ## A search through them -/

theorem findDocument_eq_none_iff :
    findDocument kind documents = .ok none ↔ ∀ document ∈ documents, Passes kind document := by
  induction documents with
  | nil => exact ⟨fun _ _ h => (nomatch h), fun _ => rfl⟩
  | cons document rest ih =>
    rw [List.forall_mem_cons]
    rcases passes_or_defines_or_not_isLegible kind document with
      hpasses | ⟨d, hd, hkind⟩ | hillegible
    · rw [findDocument_cons_of_passes hpasses, ih]
      exact (and_iff_right hpasses).symm
    · rw [findDocument_cons_of_defines hd hkind]
      exact ⟨fun h => (nomatch h), fun h => absurd h.1 (hd.not_passes hkind)⟩
    · obtain ⟨detail, herror⟩ := findDocument_cons_of_not_isLegible hillegible rest
      rw [herror]
      exact ⟨fun h => (nomatch h), fun h => absurd h.1.1 hillegible⟩

theorem findDocument_eq_some_iff :
    findDocument kind documents = .ok (some d) ↔
      ∃ document, FirstBehind (Passes kind) documents document ∧
        Defines document d ∧ d.kind = kind := by
  induction documents with
  | nil =>
    exact ⟨fun h => (nomatch h), fun ⟨_, hfirst, _⟩ => absurd hfirst not_firstBehind_nil⟩
  | cons document rest ih =>
    simp only [firstBehind_cons]
    rcases passes_or_defines_or_not_isLegible kind document with
      hpasses | ⟨d', hd', hkind'⟩ | hillegible
    · rw [findDocument_cons_of_passes hpasses, ih]
      constructor
      · rintro ⟨x, hfirst, hx⟩
        exact ⟨x, .inr ⟨hpasses, hfirst⟩, hx⟩
      · rintro ⟨x, rfl | ⟨_, hfirst⟩, hd, hkind⟩
        · exact absurd hpasses (hd.not_passes hkind)
        · exact ⟨x, hfirst, hd, hkind⟩
    · rw [findDocument_cons_of_defines hd' hkind']
      constructor
      · intro h
        obtain rfl := Option.some.inj (Except.ok.inj h)
        exact ⟨document, .inl rfl, hd', hkind'⟩
      · rintro ⟨x, rfl | ⟨hpasses, _⟩, hd, _⟩
        · rw [hd'.unique hd]
        · exact absurd hpasses (hd'.not_passes hkind')
    · obtain ⟨detail, herror⟩ := findDocument_cons_of_not_isLegible hillegible rest
      rw [herror]
      refine ⟨fun h => (nomatch h), ?_⟩
      rintro ⟨x, rfl | ⟨hpasses, _⟩, hd, _⟩
      · exact absurd hd.isLegible hillegible
      · exact absurd hpasses.1 hillegible

/-- A search fails only at what it cannot read. -/
theorem findDocument_error {e : Error} (h : findDocument kind documents = .error e) :
    ∃ detail, e = .serialization detail := by
  induction documents with
  | nil => cases h
  | cons document rest ih =>
    rcases passes_or_defines_or_not_isLegible kind document with
      hpasses | ⟨d, hd, hkind⟩ | hillegible
    · rw [findDocument_cons_of_passes hpasses] at h
      exact ih h
    · rw [findDocument_cons_of_defines hd hkind] at h
      cases h
    · obtain ⟨detail, herror⟩ := findDocument_cons_of_not_isLegible hillegible rest
      exact ⟨detail, Except.error.inj (h.symm.trans herror)⟩

/-! ## The layouts -/

section Split

variable {version : String} {files : List SplitFile}

theorem find_split_of_first {file : SplitFile}
    (hfirst : FirstBehind (¬ SplitFile.IsFor kind version ·) files file)
    (hfile : file.IsFor kind version) :
    (split files).find kind version = file.source.read := by
  have hfind : (files.filter (·.version == version)).find? (·.kind == kind) = some file := by
    rw [List.find?_filter]
    refine (find?_eq_some_iff_firstBehind fun f => ?_).mpr ⟨hfirst, hfile⟩
    simp [SplitFile.IsFor]
  simp only [find]
  split
  · next hnone =>
    rw [hnone] at hfind
    cases hfind
  · rw [hfind]

theorem isMiss_find_split (h : ∀ file ∈ files, ¬ file.IsFor kind version) :
    IsMiss ((split files).find kind version) := by
  have hfind : (files.filter (·.version == version)).find? (·.kind == kind) = none := by
    rw [List.find?_filter, List.find?_eq_none]
    intro file hfile
    simpa [SplitFile.IsFor] using h file hfile
  simp only [find]
  split
  · exact ⟨_, rfl, rfl⟩
  · rw [hfind]
    exact ⟨_, rfl, rfl⟩

theorem isMiss_find_split_iff :
    IsMiss ((split files).find kind version) ↔ ∀ file ∈ files, ¬ file.IsFor kind version := by
  refine ⟨?_, isMiss_find_split⟩
  rintro ⟨e, herror, hmiss⟩
  rcases exists_firstBehind_or_forall (SplitFile.IsFor kind version) files with
    ⟨file, hfirst, hfile⟩ | hnone
  · rw [find_split_of_first hfirst hfile] at herror
    obtain ⟨_, rfl⟩ := DefinitionSource.read_error herror
    cases hmiss
  · exact hnone

theorem find_split_eq_ok_iff :
    (split files).find kind version = .ok d ↔
      ∃ file, FirstBehind (¬ SplitFile.IsFor kind version ·) files file ∧
        file.IsFor kind version ∧ file.source.read = .ok d := by
  constructor
  · intro h
    rcases exists_firstBehind_or_forall (SplitFile.IsFor kind version) files with
      ⟨file, hfirst, hfile⟩ | hnone
    · rw [find_split_of_first hfirst hfile] at h
      exact ⟨file, hfirst, hfile, h⟩
    · obtain ⟨e, herror, _⟩ := isMiss_find_split hnone
      cases herror.symm.trans h
  · rintro ⟨file, hfirst, hfile, hread⟩
    rw [find_split_of_first hfirst hfile, hread]

end Split

section Bundled

variable {version : String} {bundles : List Bundle}

theorem find_bundled_of_first {bundle : Bundle}
    (hfirst : FirstBehind (¬ ·.version = version) bundles bundle)
    (hversion : bundle.version = version) :
    (bundled bundles).find kind version =
      match findDocument kind (Yaml.splitDocuments bundle.stream) with
      | .error e => .error e
      | .ok none => .error (.notFound (.definition kind version))
      | .ok (some d) => .ok d := by
  have hfind : bundles.find? (·.version == version) = some bundle :=
    (find?_eq_some_iff_firstBehind fun _ => beq_iff_eq).mpr ⟨hfirst, hversion⟩
  rcases hsearch : findDocument kind (Yaml.splitDocuments bundle.stream) with e | _ | d
  all_goals simp only [find, hfind, hsearch]

theorem find_bundled_of_none (h : ∀ bundle ∈ bundles, ¬ bundle.version = version) :
    (bundled bundles).find kind version = .error (.notFound (.version version)) := by
  have hfind : bundles.find? (·.version == version) = none := by
    rw [List.find?_eq_none]
    exact fun bundle hbundle heq => h bundle hbundle (beq_iff_eq.mp heq)
  simp only [find, hfind]

theorem isMiss_find_bundled_iff :
    IsMiss ((bundled bundles).find kind version) ↔
      ∀ bundle, FirstBehind (¬ ·.version = version) bundles bundle → bundle.version = version →
        ∀ document ∈ Yaml.splitDocuments bundle.stream, Passes kind document := by
  constructor
  · rintro ⟨e, herror, hmiss⟩ bundle hfirst hversion
    rw [find_bundled_of_first hfirst hversion] at herror
    split at herror
    · next hfind =>
      obtain rfl := Except.error.inj herror
      obtain ⟨_, rfl⟩ := findDocument_error hfind
      cases hmiss
    · next hfind => exact findDocument_eq_none_iff.mp hfind
    · cases herror
  · intro h
    rcases exists_firstBehind_or_forall (·.version = version) bundles with
      ⟨bundle, hfirst, hversion⟩ | hnone
    · rw [find_bundled_of_first hfirst hversion,
        findDocument_eq_none_iff.mpr (h bundle hfirst hversion)]
      exact ⟨_, rfl, rfl⟩
    · rw [find_bundled_of_none hnone]
      exact ⟨_, rfl, rfl⟩

theorem find_bundled_eq_ok_iff :
    (bundled bundles).find kind version = .ok d ↔
      ∃ bundle, FirstBehind (¬ ·.version = version) bundles bundle ∧ bundle.version = version ∧
        ∃ document, FirstBehind (Passes kind) (Yaml.splitDocuments bundle.stream) document ∧
          Defines document d ∧ d.kind = kind := by
  constructor
  · intro h
    rcases exists_firstBehind_or_forall (·.version = version) bundles with
      ⟨bundle, hfirst, hversion⟩ | hnone
    · rw [find_bundled_of_first hfirst hversion] at h
      split at h
      · cases h
      · cases h
      · next hfind =>
        obtain rfl := Except.ok.inj h
        exact ⟨bundle, hfirst, hversion, findDocument_eq_some_iff.mp hfind⟩
    · rw [find_bundled_of_none hnone] at h
      cases h
  · rintro ⟨bundle, hfirst, hversion, hdocument⟩
    rw [find_bundled_of_first hfirst hversion, findDocument_eq_some_iff.mpr hdocument]

end Bundled

/-- A lookup fails because there is nothing, or because it cannot read what there is. -/
theorem find_error {c : Catalogue} {kind version : String} {e : Error}
    (h : c.find kind version = .error e) :
    (∃ what, e = .notFound what) ∨ ∃ detail, e = .serialization detail := by
  cases c with
  | split files =>
    simp only [find] at h
    split at h
    · exact .inl ⟨_, (Except.error.inj h).symm⟩
    · split at h
      · exact .inl ⟨_, (Except.error.inj h).symm⟩
      · exact .inr (DefinitionSource.read_error h)
  | bundled bundles =>
    simp only [find] at h
    split at h
    · exact .inl ⟨_, (Except.error.inj h).symm⟩
    · split at h
      · next hfind =>
        obtain rfl := Except.error.inj h
        exact .inr (findDocument_error hfind)
      · exact .inl ⟨_, (Except.error.inj h).symm⟩
      · cases h

/-- **What a lookup answers**, in either layout and whatever the texts are.  With a text for each
kind, it misses exactly if there is no text of the kind in the version, and the first one there is
decides.  In a stream of documents, it misses exactly if all documents of the version can be read
and none of them defines the kind, and finds exactly the first definition of the kind that only
documents which can be read stand before. -/
theorem find_exact (kind version : String) :
    (∀ files : List SplitFile,
      (IsMiss ((split files).find kind version) ↔ ∀ file ∈ files, ¬ file.IsFor kind version) ∧
      ∀ d, (split files).find kind version = .ok d ↔
        ∃ file, FirstBehind (¬ SplitFile.IsFor kind version ·) files file ∧
          file.IsFor kind version ∧ file.source.read = .ok d) ∧
    ∀ bundles : List Bundle,
      (IsMiss ((bundled bundles).find kind version) ↔
        ∀ bundle, FirstBehind (¬ ·.version = version) bundles bundle → bundle.version = version →
          ∀ document ∈ Yaml.splitDocuments bundle.stream,
            IsLegible document ∧ ∀ d, Defines document d → d.kind ≠ kind) ∧
      ∀ d, (bundled bundles).find kind version = .ok d ↔
        ∃ bundle, FirstBehind (¬ ·.version = version) bundles bundle ∧ bundle.version = version ∧
          ∃ document, FirstBehind (Passes kind) (Yaml.splitDocuments bundle.stream) document ∧
            Defines document d ∧ d.kind = kind :=
  ⟨fun _ => ⟨isMiss_find_split_iff, fun _ => find_split_eq_ok_iff⟩,
    fun _ => ⟨isMiss_find_bundled_iff, fun _ => find_bundled_eq_ok_iff⟩⟩

/-- A short definition. -/
def definitionOfB : String := "\nkind: CustomResourceDefinition\nspec:\n  names:\n    kind: B\n"

/-- A stream with a list that is never closed before a definition. -/
def garbledBundle : Bundle := ⟨"1", "---\na: [b\n---" ++ definitionOfB⟩

/-- What cannot be read makes every lookup fail: nothing is of the kind `A` here, but that is not
the answer, and the definition of `B` is there, but it is not found. -/
theorem garbled_not_missing :
    (∀ document ∈ Yaml.splitDocuments garbledBundle.stream, ∀ d,
      Defines document d → d.kind ≠ "A") ∧
    ¬ IsMiss ((bundled [garbledBundle]).find "A" "1") ∧
    ∃ document ∈ Yaml.splitDocuments garbledBundle.stream, ∃ d,
      Defines document d ∧ d.kind = "B" ∧ (bundled [garbledBundle]).find "B" "1" ≠ .ok d := by
  have hdocuments : Yaml.splitDocuments garbledBundle.stream =
      ["\na: [b", definitionOfB] := by decide +kernel
  have hlater : ∃ d, Defines definitionOfB d ∧ d.kind = "B" :=
    exists_defines_iff.mpr (by decide +kernel)
  have hfails : ((bundled [garbledBundle]).find "B" "1").isOk = false := by decide +kernel
  obtain ⟨d, hd, hkind⟩ := hlater
  refine ⟨?_, by decide +kernel, _, ?_, d, hd, hkind, ?_⟩
  · rw [hdocuments, List.forall_mem_cons, List.forall_mem_singleton]
    constructor
    · rintro d ⟨value, hvalue, _⟩ _
      have hgarbled : (Yaml.value? "\na: [b").isNone = true := by decide +kernel
      rw [hvalue] at hgarbled
      cases hgarbled
    · intro d' hd' heq
      rw [hd'.unique hd, hkind] at heq
      exact absurd heq (by decide)
  · rw [hdocuments]
    exact List.mem_cons_of_mem _ List.mem_cons_self
  · intro hfound
    rw [hfound] at hfails
    cases hfails

end Catalogue

end AtlasManifests
