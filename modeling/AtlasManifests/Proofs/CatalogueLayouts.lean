import AtlasManifests.Json.Equality
import AtlasManifests.Proofs.DefinitionLookup
import AtlasManifests.Proofs.DocumentStreams
import AtlasManifests.Proofs.ReadingByValue
import Mathlib.Data.List.Nodup

/-! # The two layouts of a catalogue

The same definitions can be laid out as a text for each kind, or as a stream for each version with
comments and other documents between them.  Lookups in both are compared with one search through
the chunks of a version (`Shelf.definition?`).  The texts are always read directly in one layout,
and by their value in the other, and so the layouts answer alike if both ways to read a text give
the same definition; among texts of distinct kinds, only then (`Catalogue.find_alike_iff`).  A
number where the name of a definition stands is enough to set them apart
(`Catalogue.numbered_not_alike`).
-/
namespace AtlasManifests

instance : DecidableEq Definition := fun a b =>
  decidable_of_iff (a.typed = b.typed)
    ⟨fun h => congrArg Definition.mk h, congrArg Definition.typed⟩

namespace Catalogue

/-! ## What a document is read as -/

/-- What a document of a stream says it is, and the definition that it gives. -/
def reading? (document : String) : Option (Option String × Option Definition) :=
  (Yaml.value? document).map fun value => (kindOf? value, Definition.ofDatum? value)

variable {kind document : String} {d : Definition}

theorem defines_iff_reading? :
    Defines document d ↔ reading? document = some (some "CustomResourceDefinition", some d) := by
  rw [reading?, Option.map_eq_some_iff]
  refine exists_congr fun value => and_congr_right fun _ => ?_
  rw [Prod.mk.injEq]

theorem passes_of_reading? {called : Option String} {definition : Option Definition}
    (h : reading? document = some (called, definition))
    (hcalled : called ≠ some "CustomResourceDefinition") : Passes kind document := by
  obtain ⟨value, hvalue, heq⟩ := Option.map_eq_some_iff.mp h
  obtain ⟨rfl, _⟩ := Prod.mk.inj heq
  refine ⟨⟨value, hvalue, fun hcalls => absurd hcalls hcalled⟩, fun d hd => ?_⟩
  have hboth := (defines_iff_reading?.mp hd).symm.trans h
  exact absurd (Prod.mk.inj (Option.some.inj hboth)).1.symm hcalled

theorem Defines.passes (h : Defines document d) (hkind : d.kind ≠ kind) : Passes kind document :=
  ⟨h.isLegible, fun d' hd' => by rw [hd'.unique h]; exact hkind⟩

/-- Newlines at the ends of a text do not matter to what it is read as by its value. -/
def IgnoresNewlines (text : String) : Prop :=
  ∀ piece, Yaml.IsPieceOf piece text.toList → reading? (String.ofList piece) = reading? text

instance (text : String) : Decidable (IgnoresNewlines text) :=
  decidable_of_iff
    (reading? (String.ofList ('\n' :: text.toList)) = reading? text ∧
      reading? (String.ofList ('\n' :: text.toList).dropLast) = reading? text) (by
    constructor
    · rintro ⟨hwhole, hcut⟩ piece (rfl | rfl)
      · exact hwhole
      · exact hcut
    · exact fun h => ⟨h _ (.inl rfl), h _ (.inr rfl)⟩)

/-- The definition that a text is read as directly. -/
def direct? (text : String) : Option Definition := (Yaml.datum? text).bind Definition.ofDatum?

theorem read_written_eq_ok_iff {text : String} :
    (DefinitionSource.written text).read = .ok d ↔ direct? text = some d := by
  rw [DefinitionSource.read, direct?]
  cases (Yaml.datum? text).bind Definition.ofDatum? with
  | none =>
    constructor
    · intro h
      cases h
    · intro h
      cases h
  | some found => rw [Except.ok.injEq, Option.some.injEq]

theorem exists_read_iff {text : String} :
    (∃ d, (DefinitionSource.written text).read = .ok d ∧ d.kind = kind) ↔
      (direct? text).map Definition.kind = some kind := by
  rw [Option.map_eq_some_iff]
  exact exists_congr fun d => and_congr_left fun _ => read_written_eq_ok_iff

end Catalogue

/-! ## Shelves -/

/-- What stands in the stream of a version. -/
inductive Chunk where
  /-- The text of the definition of a kind. -/
  | definition (kind text : String)
  /-- Comments, or a document that is no definition. -/
  | filler (text : String)

/-- What there is for a version. -/
structure Shelf where
  version : String
  chunks : List Chunk

open Catalogue

/-- A text of the definition of a kind, as it may stand in either layout. -/
structure IsDefinitionText (kind text : String) : Prop where
  block : Yaml.IsBlock text.toList
  called : (Yaml.datum? text).bind kindOf? = some "CustomResourceDefinition"
  read : ∃ d, (DefinitionSource.written text).read = .ok d ∧ d.kind = kind
  newlines : IgnoresNewlines text

/-- A text that may stand between definitions. -/
structure IsFiller (text : String) : Prop where
  block : Yaml.IsBlock text.toList
  other : Yaml.hasContent text.toList = false ∨
    (∃ value, Yaml.value? text = some value ∧
      kindOf? value ≠ some "CustomResourceDefinition") ∧ IgnoresNewlines text

/-- A text that gives the same definition in both ways to read it, and counts as a document. -/
structure ReadsAlike (text : String) : Prop where
  content : Yaml.hasContent text.toList = true
  value : (Yaml.value? text).bind Definition.ofDatum? = direct? text

instance (kind text : String) : Decidable (IsDefinitionText kind text) :=
  decidable_of_iff
    (Yaml.IsBlock text.toList ∧
      (Yaml.datum? text).bind kindOf? = some "CustomResourceDefinition" ∧
      (direct? text).map Definition.kind = some kind ∧ IgnoresNewlines text)
    ⟨fun ⟨hblock, hcalled, hread, hnewlines⟩ =>
        ⟨hblock, hcalled, exists_read_iff.mpr hread, hnewlines⟩,
      fun h => ⟨h.block, h.called, exists_read_iff.mp h.read, h.newlines⟩⟩

instance (text : String) : Decidable (IsFiller text) :=
  decidable_of_iff
    (Yaml.IsBlock text.toList ∧
      (Yaml.hasContent text.toList = false ∨
        (∃ value ∈ Yaml.value? text, kindOf? value ≠ some "CustomResourceDefinition") ∧
          IgnoresNewlines text))
    ⟨fun ⟨hblock, hother⟩ => ⟨hblock, hother⟩, fun h => ⟨h.block, h.other⟩⟩

instance (text : String) : Decidable (ReadsAlike text) :=
  decidable_of_iff
    (Yaml.hasContent text.toList = true ∧
      (Yaml.value? text).bind Definition.ofDatum? = direct? text)
    ⟨fun ⟨hcontent, hvalue⟩ => ⟨hcontent, hvalue⟩, fun h => ⟨h.content, h.value⟩⟩

namespace Chunk

/-- The text of a chunk. -/
def text : Chunk → String
  | definition _ text => text
  | filler text => text

/-- The file of a chunk, if it holds a definition. -/
def file? (version : String) : Chunk → Option SplitFile
  | definition kind text => some ⟨version, kind, .written text⟩
  | filler _ => none

/-- The definition of a kind in a chunk. -/
def definition? (kind : String) : Chunk → Option Definition
  | definition k text => if k = kind then direct? text else none
  | filler _ => none

theorem definition?_eq_some_iff {kind : String} {chunk : Chunk} {d : Definition} :
    chunk.definition? kind = some d ↔
      ∃ text, chunk = definition kind text ∧ direct? text = some d := by
  cases chunk with
  | filler text =>
    constructor
    · intro h
      cases h
    · rintro ⟨_, heq, _⟩
      cases heq
  | definition k text =>
    rw [definition?]
    constructor
    · intro h
      split at h
      · next hk => exact ⟨text, by rw [hk], h⟩
      · cases h
    · rintro ⟨_, heq, hd⟩
      obtain ⟨rfl, rfl⟩ := Chunk.definition.inj heq
      rw [if_pos rfl, hd]

/-- A chunk as it may stand in either layout. -/
def IsProper : Chunk → Prop
  | definition kind text => IsDefinitionText kind text
  | filler text => IsFiller text

/-- A chunk whose text reads alike, if it is that of a definition. -/
def ReadsAlike : Chunk → Prop
  | definition _ text => AtlasManifests.ReadsAlike text
  | filler _ => True

instance : (chunk : Chunk) → Decidable chunk.IsProper
  | definition kind text => inferInstanceAs (Decidable (IsDefinitionText kind text))
  | filler text => inferInstanceAs (Decidable (IsFiller text))

instance : (chunk : Chunk) → Decidable chunk.ReadsAlike
  | definition _ text => inferInstanceAs (Decidable (AtlasManifests.ReadsAlike text))
  | filler _ => inferInstanceAs (Decidable True)

theorem IsProper.block {chunk : Chunk} (h : chunk.IsProper) : Yaml.IsBlock chunk.text.toList := by
  cases chunk with
  | definition kind text => exact IsDefinitionText.block h
  | filler text => exact IsFiller.block h

end Chunk

namespace Shelf

/-- The texts of a shelf by kind. -/
def files (s : Shelf) : List SplitFile := s.chunks.filterMap (Chunk.file? s.version)

/-- All of a shelf in one stream. -/
def bundle (s : Shelf) : Bundle := ⟨s.version, Yaml.streamOf (s.chunks.map Chunk.text)⟩

/-- The definition of a kind on a shelf: that of the first chunk that is of the kind. -/
def definition? (s : Shelf) (kind : String) : Option Definition :=
  s.chunks.findSome? (Chunk.definition? kind)

end Shelf

/-- A lookup that ends with what there is, or misses where there is nothing. -/
def Answers (result : Except Error Definition) : Option Definition → Prop
  | some d => result = .ok d
  | none => IsMiss result

/-- Lookups that find the same definition, or both miss. -/
def Alike (a b : Except Error Definition) : Prop :=
  (∃ d, a = .ok d ∧ b = .ok d) ∨ IsMiss a ∧ IsMiss b

instance : (a b : Except Error Definition) → Decidable (Alike a b)
  | .ok d, .ok d' =>
    decidable_of_iff (d = d')
      ⟨fun h => .inl ⟨d, rfl, congrArg _ h.symm⟩, fun h => by
        rcases h with ⟨found, ha, hb⟩ | ⟨⟨_, ha, _⟩, _⟩
        · rw [Except.ok.inj ha, Except.ok.inj hb]
        · cases ha⟩
  | .error e, b =>
    decidable_of_iff (IsMiss (.error e : Except Error Definition) ∧ IsMiss b)
      ⟨.inr, fun h => h.resolve_left fun ⟨_, ha, _⟩ => nomatch ha⟩
  | .ok d, .error e =>
    isFalse fun h => by
      rcases h with ⟨_, _, hb⟩ | ⟨⟨_, ha, _⟩, _⟩
      · cases hb
      · cases ha

theorem Alike.of_answers {a b : Except Error Definition} {found : Option Definition}
    (ha : Answers a found) (hb : Answers b found) : Alike a b := by
  cases found with
  | some d => exact .inl ⟨d, ha, hb⟩
  | none => exact .inr ⟨ha, hb⟩

namespace IsDefinitionText

variable {kind text : String} {d : Definition}

/-- A text that reads alike is a document of its definition. -/
theorem defines (h : IsDefinitionText kind text) (halike : ReadsAlike text)
    (hd : direct? text = some d) : Defines text d := by
  obtain ⟨value, hvalue, hread⟩ := Option.bind_eq_some_iff.mp (halike.value.trans hd)
  obtain ⟨datum, hdatum, hcalled⟩ := Option.bind_eq_some_iff.mp h.called
  have hnarrows := Yaml.narrows_of_value? hvalue hdatum
  exact ⟨value, hvalue, (kindOf?_eq_some_iff (by decide) hnarrows).mpr hcalled, hread⟩

/-- By its value a text defines its kind, if anything, or no kind at all. -/
theorem kind_of_defines (h : IsDefinitionText kind text) (hd : Defines text d) :
    d.kind = kind ∨ d.kind = "" := by
  obtain ⟨value, hvalue, _, hread⟩ := hd
  obtain ⟨d', hd', rfl⟩ := h.read
  obtain ⟨datum, hdatum, hread'⟩ := Option.bind_eq_some_iff.mp (read_written_eq_ok_iff.mp hd')
  exact Definition.kind_of_narrows (Yaml.narrows_of_value? hvalue hdatum) hread hread'

end IsDefinitionText

/-! ## Lookups in the texts by kind -/

namespace Catalogue

variable {shelves : List Shelf} {shelf : Shelf} {kind : String} {d : Definition}

/-- A catalogue with a text for each kind. -/
def byKind (shelves : List Shelf) : Catalogue := split (shelves.flatMap Shelf.files)

/-- A catalogue with a stream for each version. -/
def byVersion (shelves : List Shelf) : Catalogue := bundled (shelves.map Shelf.bundle)

theorem version_of_mem_files {file : SplitFile} (h : file ∈ shelf.files) :
    file.version = shelf.version := by
  obtain ⟨chunk, _, hfile⟩ := List.mem_filterMap.mp h
  cases chunk with
  | definition kind text =>
    obtain rfl := Option.some.inj hfile
    rfl
  | filler text => cases hfile

/-- Among shelves with versions of their own, a shelf is the first one for its version. -/
theorem firstBehind_shelf (hversions : (shelves.map (·.version)).Nodup) (hshelf : shelf ∈ shelves) :
    FirstBehind (¬ ·.version = shelf.version) shelves shelf := by
  obtain ⟨before, after, rfl⟩ := List.append_of_mem hshelf
  rw [List.map_append, List.map_cons] at hversions
  refine ⟨before, after, rfl, fun other hother => ?_⟩
  exact (List.nodup_append.mp hversions).2.2 _ (List.mem_map_of_mem hother) _ List.mem_cons_self

/-- Only its own shelf has files for a version. -/
theorem shelf_of_mem_files (hversions : (shelves.map (·.version)).Nodup) (hshelf : shelf ∈ shelves)
    {file : SplitFile} (hfile : file ∈ shelves.flatMap Shelf.files)
    (hversion : file.version = shelf.version) : file ∈ shelf.files := by
  obtain ⟨other, hother, hfile⟩ := List.mem_flatMap.mp hfile
  have heq : other.version = shelf.version := (version_of_mem_files hfile).symm.trans hversion
  exact List.inj_on_of_nodup_map hversions hother hshelf heq ▸ hfile

/-- A chunk that a search for a kind goes past has no file for it. -/
theorem not_isFor_of_definition?_eq_none {chunk : Chunk} {version : String} {file : SplitFile}
    (hproper : chunk.IsProper) (hnone : chunk.definition? kind = none)
    (hfile : chunk.file? version = some file) : ¬ file.IsFor kind version := by
  cases chunk with
  | filler text => cases hfile
  | definition k text =>
    obtain rfl := Option.some.inj hfile
    rintro ⟨_, rfl⟩
    obtain ⟨d, hd, _⟩ := IsDefinitionText.read hproper
    have hd := read_written_eq_ok_iff.mp hd
    cases hnone.symm.trans (Chunk.definition?_eq_some_iff.mpr ⟨text, rfl, hd⟩)

/-- The first chunk of a kind is the first file of the kind in all shelves. -/
theorem firstBehind_files {chunks rest : List Chunk} {text : String}
    (hshelf : FirstBehind (¬ ·.version = shelf.version) shelves shelf)
    (hchunks : shelf.chunks = chunks ++ .definition kind text :: rest)
    (hproper : ∀ chunk ∈ shelf.chunks, chunk.IsProper)
    (hnone : ∀ chunk ∈ chunks, chunk.definition? kind = none) :
    FirstBehind (¬ SplitFile.IsFor kind shelf.version ·) (shelves.flatMap Shelf.files)
      ⟨shelf.version, kind, .written text⟩ := by
  obtain ⟨before, after, rfl, hversions⟩ := hshelf
  refine ⟨before.flatMap Shelf.files ++ chunks.filterMap (Chunk.file? shelf.version),
    rest.filterMap (Chunk.file? shelf.version) ++ after.flatMap Shelf.files, ?_, ?_⟩
  · rw [List.flatMap_append, List.flatMap_cons, Shelf.files, hchunks, List.filterMap_append]
    simp only [List.filterMap_cons, Chunk.file?, List.append_assoc, List.cons_append]
  · rintro file hfile hfor
    rcases List.mem_append.mp hfile with hfile | hfile
    · obtain ⟨other, hother, hfile⟩ := List.mem_flatMap.mp hfile
      exact hversions other hother ((version_of_mem_files hfile).symm.trans hfor.1)
    · obtain ⟨chunk, hchunk, hfile⟩ := List.mem_filterMap.mp hfile
      have hmem : chunk ∈ shelf.chunks := hchunks ▸ List.mem_append_left _ hchunk
      exact not_isFor_of_definition?_eq_none (hproper chunk hmem) (hnone chunk hchunk) hfile hfor

/-- Texts by kind answer what is on the shelf. -/
theorem answers_byKind (hversions : (shelves.map (·.version)).Nodup)
    (hproper : ∀ chunk ∈ shelf.chunks, chunk.IsProper) (hshelf : shelf ∈ shelves) (kind : String) :
    Answers ((byKind shelves).find kind shelf.version) (shelf.definition? kind) := by
  cases hfound : shelf.definition? kind with
  | none =>
    refine isMiss_find_split fun file hfile hfor => ?_
    obtain ⟨chunk, hchunk, hfile⟩ :=
      List.mem_filterMap.mp (shelf_of_mem_files hversions hshelf hfile hfor.1)
    have hnone := List.findSome?_eq_none_iff.mp hfound chunk hchunk
    exact not_isFor_of_definition?_eq_none (hproper chunk hchunk) hnone hfile hfor
  | some d =>
    obtain ⟨chunks, chunk, rest, hchunks, hd, hnone⟩ := List.findSome?_eq_some_iff.mp hfound
    obtain ⟨text, rfl, htext⟩ := Chunk.definition?_eq_some_iff.mp hd
    have hfirst := firstBehind_files (firstBehind_shelf hversions hshelf) hchunks hproper hnone
    exact (find_split_of_first hfirst ⟨rfl, rfl⟩).trans (read_written_eq_ok_iff.mpr htext)

/-! ## Lookups in the streams by version -/

/-- The piece of a chunk ends a search with the definition of the chunk, or is passed. -/
theorem findDocument_piece (kind : String) {piece : List Char} {chunk : Chunk}
    (documents : List String) (hpiece : Yaml.IsPieceOf piece chunk.text.toList)
    (hproper : chunk.IsProper) (halike : chunk.ReadsAlike) :
    findDocument kind ((([piece].filter Yaml.hasContent).map String.ofList) ++ documents) =
      match chunk.definition? kind with
      | some d => .ok (some d)
      | none => findDocument kind documents := by
  have hcontent := hpiece.hasContent_eq hproper.block
  cases chunk with
  | filler text =>
    cases hempty : Yaml.hasContent piece with
    | false =>
      rw [List.filter_cons_of_neg (by rw [hempty]; decide)]
      rfl
    | true =>
      rw [List.filter_cons_of_pos hempty]
      have hfull : Yaml.hasContent text.toList ≠ false :=
        ne_false_of_eq_true (hcontent.symm.trans hempty)
      obtain ⟨⟨value, hvalue, hcalled⟩, hnewlines⟩ :=
        (IsFiller.other hproper).resolve_left hfull
      have hreading : reading? (String.ofList piece) =
          some (kindOf? value, Definition.ofDatum? value) := by
        rw [hnewlines piece hpiece, reading?, hvalue]
        rfl
      exact findDocument_cons_of_passes (passes_of_reading? hreading hcalled)
  | definition k text =>
    have hreads : ReadsAlike text := halike
    obtain ⟨d, hd, hkind⟩ := IsDefinitionText.read hproper
    have hd := read_written_eq_ok_iff.mp hd
    have hdefines : Defines (String.ofList piece) d := by
      rw [defines_iff_reading?, IsDefinitionText.newlines hproper piece hpiece,
        ← defines_iff_reading?]
      exact IsDefinitionText.defines hproper hreads hd
    rw [List.filter_cons_of_pos (hcontent.trans hreads.content), Chunk.definition?]
    by_cases hk : k = kind
    · rw [if_pos hk, hd]
      exact findDocument_cons_of_defines hdefines (hkind.trans hk)
    · rw [if_neg hk]
      exact findDocument_cons_of_passes (hdefines.passes fun heq => hk (hkind.symm.trans heq))

/-- A search through the pieces of a stream finds what is in its chunks. -/
theorem findDocument_pieces {pieces : List (List Char)} {chunks : List Chunk}
    (h : List.Forall₂ (fun piece (chunk : Chunk) => Yaml.IsPieceOf piece chunk.text.toList)
      pieces chunks)
    (hproper : ∀ chunk ∈ chunks, chunk.IsProper)
    (halike : ∀ chunk ∈ chunks, chunk.ReadsAlike) :
    findDocument kind ((pieces.filter Yaml.hasContent).map String.ofList) =
      .ok (chunks.findSome? (Chunk.definition? kind)) := by
  induction h with
  | nil => rfl
  | @cons piece chunk pieces chunks hpiece hrest ih =>
    obtain ⟨hchunk, hchunks⟩ := List.forall_mem_cons.mp hproper
    obtain ⟨hreads, halike⟩ := List.forall_mem_cons.mp halike
    have hstep := findDocument_piece kind
      ((pieces.filter Yaml.hasContent).map String.ofList) hpiece hchunk hreads
    rw [← List.map_append, ← List.filter_append, List.singleton_append] at hstep
    rw [hstep, List.findSome?_cons, ih hchunks halike]
    cases chunk.definition? kind <;> rfl

/-- The documents of a shelf are the pieces of its chunks. -/
theorem exists_pieces_bundle (hproper : ∀ chunk ∈ shelf.chunks, chunk.IsProper) :
    ∃ pieces, List.Forall₂ (fun piece (chunk : Chunk) => Yaml.IsPieceOf piece chunk.text.toList)
        pieces shelf.chunks ∧
      Yaml.splitDocuments shelf.bundle.stream =
        (pieces.filter Yaml.hasContent).map String.ofList := by
  have hblocks : ∀ block ∈ shelf.chunks.map Chunk.text, Yaml.IsBlock block.toList :=
    List.forall_mem_map.mpr fun chunk hchunk => (hproper chunk hchunk).block
  have hpieces := Yaml.piecesOfBlocks_isPieceOf ((shelf.chunks.map Chunk.text).map String.toList)
  refine ⟨_, ?_, Yaml.splitDocuments_streamOf hblocks⟩
  rw [List.map_map] at hpieces
  rw [List.map_map]
  exact List.forall₂_map_right_iff.mp hpieces

theorem firstBehind_bundles (hversions : (shelves.map (·.version)).Nodup)
    (hshelf : shelf ∈ shelves) :
    FirstBehind (¬ ·.version = shelf.version) (shelves.map Shelf.bundle) shelf.bundle := by
  obtain ⟨before, after, rfl, hothers⟩ := firstBehind_shelf hversions hshelf
  refine ⟨before.map Shelf.bundle, after.map Shelf.bundle, List.map_append, ?_⟩
  exact List.forall_mem_map.mpr hothers

/-- Streams by version answer what is on the shelf, if their definitions read alike. -/
theorem answers_byVersion (hversions : (shelves.map (·.version)).Nodup)
    (hproper : ∀ chunk ∈ shelf.chunks, chunk.IsProper)
    (halike : ∀ chunk ∈ shelf.chunks, chunk.ReadsAlike)
    (hshelf : shelf ∈ shelves) (kind : String) :
    Answers ((byVersion shelves).find kind shelf.version) (shelf.definition? kind) := by
  obtain ⟨pieces, hpieces, hdocuments⟩ := exists_pieces_bundle hproper
  have hfirst := firstBehind_bundles hversions hshelf
  rw [byVersion, find_bundled_of_first hfirst rfl, hdocuments,
    findDocument_pieces hpieces hproper halike, ← Shelf.definition?]
  cases shelf.definition? kind with
  | none => exact ⟨_, rfl, rfl⟩
  | some d => rfl

/-! ## When both answer alike -/

/-- A version without a shelf is unknown in both layouts. -/
theorem alike_of_unknown {version : String} (h : ∀ shelf ∈ shelves, shelf.version ≠ version) :
    Alike ((byKind shelves).find kind version) ((byVersion shelves).find kind version) := by
  refine .inr ⟨isMiss_find_split fun file hfile hfor => ?_, ?_⟩
  · obtain ⟨shelf, hshelf, hfile⟩ := List.mem_flatMap.mp hfile
    exact h shelf hshelf ((version_of_mem_files hfile).symm.trans hfor.1)
  · rw [byVersion, find_bundled_of_none (List.forall_mem_map.mpr h)]
    exact ⟨_, rfl, rfl⟩

theorem alike_of_readsAlike (hversions : (shelves.map (·.version)).Nodup)
    (hproper : ∀ shelf ∈ shelves, ∀ chunk ∈ shelf.chunks, chunk.IsProper)
    (halike : ∀ shelf ∈ shelves, ∀ chunk ∈ shelf.chunks, chunk.ReadsAlike)
    (kind version : String) :
    Alike ((byKind shelves).find kind version) ((byVersion shelves).find kind version) := by
  by_cases hknown : ∃ shelf ∈ shelves, shelf.version = version
  · obtain ⟨shelf, hshelf, rfl⟩ := hknown
    exact .of_answers (answers_byKind hversions (hproper shelf hshelf) hshelf kind)
      (answers_byVersion hversions (hproper shelf hshelf) (halike shelf hshelf) hshelf kind)
  · exact alike_of_unknown fun shelf hshelf heq => hknown ⟨shelf, hshelf, heq⟩

/-- On a shelf with one text for each kind, a text is its kind's. -/
theorem text_unique (hkinds : (shelf.files.map (·.kind)).Nodup) {text other : String}
    (htext : .definition kind text ∈ shelf.chunks)
    (hother : .definition kind other ∈ shelf.chunks) : text = other := by
  have hfile : (⟨shelf.version, kind, .written text⟩ : SplitFile) ∈ shelf.files :=
    List.mem_filterMap.mpr ⟨_, htext, rfl⟩
  have hotherFile : (⟨shelf.version, kind, .written other⟩ : SplitFile) ∈ shelf.files :=
    List.mem_filterMap.mpr ⟨_, hother, rfl⟩
  have heq := List.inj_on_of_nodup_map hkinds hfile hotherFile rfl
  exact DefinitionSource.written.inj (SplitFile.mk.inj heq).2.2

theorem definition?_of_mem (hkinds : (shelf.files.map (·.kind)).Nodup) {text : String}
    (htext : .definition kind text ∈ shelf.chunks) (hd : direct? text = some d) :
    shelf.definition? kind = some d := by
  cases hfound : shelf.definition? kind with
  | none =>
    have hnone := List.findSome?_eq_none_iff.mp hfound _ htext
    cases hnone.symm.trans (Chunk.definition?_eq_some_iff.mpr ⟨text, rfl, hd⟩)
  | some found =>
    obtain ⟨chunk, hchunk, hchosen⟩ := List.exists_of_findSome?_eq_some hfound
    obtain ⟨other, rfl, hother⟩ := Chunk.definition?_eq_some_iff.mp hchosen
    rw [text_unique hkinds hchunk htext, hd] at hother
    exact hother.symm

theorem exists_of_mem_forall₂ {α β : Type} {R : α → β → Prop} {l : List α} {l' : List β}
    (h : List.Forall₂ R l l') {a : α} (ha : a ∈ l) : ∃ b ∈ l', R a b := by
  induction h with
  | nil => cases ha
  | cons hab _ ih =>
    rcases List.mem_cons.mp ha with rfl | ha
    · exact ⟨_, List.mem_cons_self, hab⟩
    · obtain ⟨b, hb, hR⟩ := ih ha
      exact ⟨b, List.mem_cons_of_mem _ hb, hR⟩

/-- What a stream finds is what one of its texts is read as by its value. -/
theorem exists_defines_of_find (hversions : (shelves.map (·.version)).Nodup)
    (hproper : ∀ chunk ∈ shelf.chunks, chunk.IsProper) (hshelf : shelf ∈ shelves)
    (hfind : (byVersion shelves).find kind shelf.version = .ok d) :
    ∃ k text, .definition k text ∈ shelf.chunks ∧ Yaml.hasContent text.toList = true ∧
      Defines text d := by
  obtain ⟨pieces, hpieces, hdocuments⟩ := exists_pieces_bundle hproper
  rw [byVersion, find_bundled_of_first (firstBehind_bundles hversions hshelf) rfl,
    hdocuments] at hfind
  split at hfind
  · cases hfind
  · cases hfind
  next hfound =>
  obtain rfl := Except.ok.inj hfind
  obtain ⟨document, ⟨before, after, hdocument, _⟩, hd, _⟩ := findDocument_eq_some_iff.mp hfound
  have hmem : document ∈ (pieces.filter Yaml.hasContent).map String.ofList := by
    rw [hdocument]
    exact List.mem_append_right _ List.mem_cons_self
  obtain ⟨piece, hpiece, rfl⟩ := List.mem_map.mp hmem
  obtain ⟨hpiece, hcontent⟩ := List.mem_filter.mp hpiece
  obtain ⟨chunk, hchunk, hpieceOf⟩ := exists_of_mem_forall₂ hpieces hpiece
  rw [hpieceOf.hasContent_eq (hproper chunk hchunk).block] at hcontent
  rw [defines_iff_reading?] at hd
  cases chunk with
  | definition k text =>
    rw [IsDefinitionText.newlines (hproper _ hchunk) piece hpieceOf, ← defines_iff_reading?] at hd
    exact ⟨k, text, hchunk, hcontent, hd⟩
  | filler text =>
    rcases IsFiller.other (hproper _ hchunk) with hempty | ⟨⟨value, hvalue, hcalled⟩, hnewlines⟩
    · rw [Chunk.text, hempty] at hcontent
      cases hcontent
    · rw [hnewlines piece hpieceOf, reading?, hvalue] at hd
      exact absurd (Prod.mk.inj (Option.some.inj hd)).1 hcalled

theorem find_byVersion_of_alike (hversions : (shelves.map (·.version)).Nodup)
    (hproper : ∀ chunk ∈ shelf.chunks, chunk.IsProper)
    (hkinds : (shelf.files.map (·.kind)).Nodup) (hshelf : shelf ∈ shelves)
    (halike : Alike ((byKind shelves).find kind shelf.version)
      ((byVersion shelves).find kind shelf.version))
    {text : String} (htext : .definition kind text ∈ shelf.chunks) (hd : direct? text = some d) :
    (byVersion shelves).find kind shelf.version = .ok d := by
  have hanswer := answers_byKind hversions hproper hshelf kind
  rw [definition?_of_mem hkinds htext hd] at hanswer
  have hanswer : (byKind shelves).find kind shelf.version = .ok d := hanswer
  rcases halike with ⟨found, hsplit, hbundled⟩ | ⟨⟨e, herror, _⟩, _⟩
  · rw [hbundled, ← hsplit, hanswer]
  · cases herror.symm.trans hanswer

/-- If both layouts always answer alike, then every text is read as the same definition in both
ways. -/
theorem readsAlike_of_alike (hversions : (shelves.map (·.version)).Nodup)
    (hproper : ∀ shelf ∈ shelves, ∀ chunk ∈ shelf.chunks, chunk.IsProper)
    (hkinds : ∀ shelf ∈ shelves, (shelf.files.map (·.kind)).Nodup)
    (halike : ∀ kind version,
      Alike ((byKind shelves).find kind version) ((byVersion shelves).find kind version))
    (hshelf : shelf ∈ shelves) {text : String} (htext : .definition kind text ∈ shelf.chunks) :
    ReadsAlike text := by
  have hproper := hproper shelf hshelf
  have hkinds := hkinds shelf hshelf
  -- some text of the shelf is read as the definition of a kind by its value
  have hsource : ∀ {k t d}, .definition k t ∈ shelf.chunks → direct? t = some d →
      ∃ k' t', .definition k' t' ∈ shelf.chunks ∧ Yaml.hasContent t'.toList = true ∧
        Defines t' d := fun ht hd =>
    exists_defines_of_find hversions hproper hshelf
      (find_byVersion_of_alike hversions hproper hkinds hshelf (halike _ _) ht hd)
  obtain ⟨d, hread, hkind⟩ := IsDefinitionText.read (hproper _ htext)
  have hd := read_written_eq_ok_iff.mp hread
  obtain ⟨k, source, hsourceMem, hcontent, hdefines⟩ := hsource htext hd
  -- it is the text of the kind itself, since no other kind is lost without being missed
  have hk : k = kind := by
    rcases IsDefinitionText.kind_of_defines (hproper _ hsourceMem) hdefines with hsame | hempty
    · exact hsame.symm.trans hkind
    obtain ⟨lost, hreadLost, hkindLost⟩ := IsDefinitionText.read (hproper _ hsourceMem)
    have hlost := read_written_eq_ok_iff.mp hreadLost
    obtain ⟨k', source', hsourceMem', _, hdefines'⟩ := hsource hsourceMem hlost
    rcases IsDefinitionText.kind_of_defines (hproper _ hsourceMem') hdefines' with hsame' | hempty'
    · obtain rfl : k' = k := hsame'.symm.trans hkindLost
      obtain rfl := text_unique hkinds hsourceMem' hsourceMem
      rw [← hkindLost, hdefines'.unique hdefines, hkind]
    · rw [← hkindLost, ← hkind, hempty, hempty']
  subst hk
  obtain rfl := text_unique hkinds hsourceMem htext
  obtain ⟨value, hvalue, _, hvalueRead⟩ := hdefines
  exact ⟨hcontent, by rw [hvalue, Option.bind_some, hvalueRead, hd]⟩

/-- **When the layouts answer alike**: for every list of shelves with versions of their own, both
layouts find the same definition or both miss, for each kind and version, if all texts are read as
the same definition in both ways; and if the texts of a version are of different kinds, only
then. -/
theorem find_alike_iff (hversions : (shelves.map (·.version)).Nodup)
    (hproper : ∀ shelf ∈ shelves, ∀ chunk ∈ shelf.chunks, chunk.IsProper) :
    ((∀ shelf ∈ shelves, ∀ chunk ∈ shelf.chunks, chunk.ReadsAlike) →
      ∀ kind version,
        Alike ((byKind shelves).find kind version) ((byVersion shelves).find kind version)) ∧
    ((∀ shelf ∈ shelves, (shelf.files.map (·.kind)).Nodup) →
      (∀ kind version,
        Alike ((byKind shelves).find kind version) ((byVersion shelves).find kind version)) →
      ∀ shelf ∈ shelves, ∀ chunk ∈ shelf.chunks, chunk.ReadsAlike) := by
  refine ⟨alike_of_readsAlike hversions hproper, ?_⟩
  intro hkinds halike shelf hshelf chunk hchunk
  cases chunk with
  | definition kind text => exact readsAlike_of_alike hversions hproper hkinds halike hshelf hchunk
  | filler text => trivial

/-- Two versions with comments and a document of another kind between their definitions. -/
def plainShelves : List Shelf :=
  let definitionOf (kind : String) : String :=
    "kind: CustomResourceDefinition\nspec:\n  names:\n    kind: " ++ kind ++ "\n"
  [⟨"1", [.filler "# all kinds\n", .definition "A" (definitionOf "A"),
      .filler "kind: ConfigMap\n", .definition "B" (definitionOf "B")]⟩,
    ⟨"2", [.definition "A" (definitionOf "A"), .filler ""]⟩]

theorem find_alike_iff_plain :
    (plainShelves.map (·.version)).Nodup ∧
      (∀ shelf ∈ plainShelves, ∀ chunk ∈ shelf.chunks, chunk.IsProper) ∧
      (∀ shelf ∈ plainShelves, (shelf.files.map (·.kind)).Nodup) ∧
      (∀ shelf ∈ plainShelves, ∀ chunk ∈ shelf.chunks, chunk.ReadsAlike) ∧
      ∀ kind version, Alike ((byKind plainShelves).find kind version)
        ((byVersion plainShelves).find kind version) := by
  have hversions : (plainShelves.map (·.version)).Nodup := by decide
  have hproper : ∀ shelf ∈ plainShelves, ∀ chunk ∈ shelf.chunks, chunk.IsProper := by
    decide +kernel
  have hkinds : ∀ shelf ∈ plainShelves, (shelf.files.map (·.kind)).Nodup := by decide
  have hreads : ∀ shelf ∈ plainShelves, ∀ chunk ∈ shelf.chunks, chunk.ReadsAlike := by
    decide +kernel
  obtain ⟨halike, honly⟩ := find_alike_iff hversions hproper
  exact ⟨hversions, hproper, hkinds, honly hkinds (halike hreads), halike hreads⟩

/-- A definition whose name is a number. -/
def numberedShelf : Shelf :=
  ⟨"1", [.definition "A"
    "kind: CustomResourceDefinition\nmetadata:\n  name: 123\nspec:\n  names:\n    kind: A\n"]⟩

/-- It is found where texts are read directly, and cannot be read by its value. -/
theorem numbered_not_alike :
    (∀ chunk ∈ numberedShelf.chunks, chunk.IsProper) ∧
      ¬ Alike ((byKind [numberedShelf]).find "A" "1")
        ((byVersion [numberedShelf]).find "A" "1") := by
  decide +kernel

end Catalogue

end AtlasManifests
