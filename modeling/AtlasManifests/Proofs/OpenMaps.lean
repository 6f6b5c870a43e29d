import AtlasManifests.Proofs.GreatestParts

/-! # Maps that a schema leaves open

A schema may leave the names of members open and speak of their values only.  The objects of such a
schema are maps (`isMap`), and pruning takes a map as it finds it, whatever the schema says of the
values: nulls come through in it, and members that are declared nowhere.  `KeepsDeclared` says what
it means that only what is declared is kept, either inside of maps as well or with maps taken as
they are found.  The weaker form holds of everything that comes through
(`keepsDeclared_of_prune`), and the stronger one exactly of the schemas that pruning meets no map
in (`prune_keepsDeclared_iff`), since a null can be brought before any map that it meets
(`exists_not_keepsDeclared`).
-/
namespace AtlasManifests.Schema

/-! ## Maps -/

/-- Whether the objects of a schema are maps: it declares no members and leaves them open, and does
not keep everything. -/
def isMap (schema : Json) : Bool := !keepsUnknown schema && keepsObjects schema

variable {schema value kept : Json} {properties members : List (String × Json)}

theorem isMap_iff : isMap schema = true ↔ keepsUnknown schema = false ∧
    allowsObject schema = true ∧ propertiesOf? schema = none ∧ isOpen schema = true := by
  rw [isMap, Bool.and_eq_true, Bool.not_eq_true', keepsObjects_iff]
  refine and_congr_right fun hkeeps => ?_
  simp [hkeeps]

theorem prune_of_isMap (h : isMap schema = true) (members : List (String × Json)) :
    prune schema (.obj members) = some (.obj members) := by
  rw [prune_obj, if_pos (Bool.and_eq_true_iff.mp h).2]

/-- The schemas that pruning comes to from a schema: those of declared members and of items, at any
depth.  It does not look below a schema that keeps everything. -/
inductive Reaches : Json → Json → Prop
  | here (schema : Json) : Reaches schema schema
  | member {schema property target : Json} {properties : List (String × Json)} {name : String}
      (hkeeps : keepsUnknown schema = false) (hobject : allowsObject schema = true)
      (hproperties : propertiesOf? schema = some properties)
      (hproperty : properties.lookup name = some property) (h : Reaches property target) :
      Reaches schema target
  | item {schema item target : Json} (hkeeps : keepsUnknown schema = false)
      (harray : typeOf? schema = some "array") (hitem : schema.get? "items" = some item)
      (h : Reaches item target) : Reaches schema target

/-- Pruning by a schema meets no map. -/
def MapFree (schema : Json) : Prop := ∀ target, Reaches schema target → isMap target = false

theorem MapFree.member {property : Json} {name : String} (h : MapFree schema)
    (hkeeps : keepsUnknown schema = false) (hobject : allowsObject schema = true)
    (hproperties : propertiesOf? schema = some properties)
    (hproperty : properties.lookup name = some property) : MapFree property :=
  fun target htarget => h target (.member hkeeps hobject hproperties hproperty htarget)

theorem MapFree.item {item : Json} (h : MapFree schema) (hkeeps : keepsUnknown schema = false)
    (harray : typeOf? schema = some "array") (hitem : schema.get? "items" = some item) :
    MapFree item :=
  fun target htarget => h target (.item hkeeps harray hitem htarget)

/-! ## What is kept is declared -/

mutual

/-- What is kept of a value is declared, and no null: members have a schema of their own, and the
members of a map are what is left of them by the schema for its values.  Maps may be excepted, and
are then taken as they are found. -/
inductive KeepsDeclared (asFound : Bool) : Json → Json → Json → Prop
  /-- Below a schema that keeps everything, nothing has to be declared. -/
  | unknown {schema value : Json} (hkeeps : keepsUnknown schema = true) :
      KeepsDeclared asFound schema value value
  | scalar {schema value : Json} (hscalar : value.isScalar = true) :
      KeepsDeclared asFound schema value value
  | members {schema : Json} {properties members kept : List (String × Json)}
      (hproperties : propertiesOf? schema = some properties)
      (h : KeepsMembers asFound properties members kept) :
      KeepsDeclared asFound schema (.obj members) (.obj kept)
  | items {schema item : Json} {items kept : List Json} (hitem : schema.get? "items" = some item)
      (h : KeepsItems asFound item items kept) :
      KeepsDeclared asFound schema (.arr items) (.arr kept)
  | found {schema : Json} {members : List (String × Json)} (h : asFound = true)
      (hmap : isMap schema = true) : KeepsDeclared asFound schema (.obj members) (.obj members)
  /-- A map that allows no members has none. -/
  | closed {schema : Json} {members : List (String × Json)} (hmap : isMap schema = true)
      (hadditional : schema.get? "additionalProperties" = some (.bool false)) :
      KeepsDeclared asFound schema (.obj members) (.obj [])
  | map {schema additional : Json} {members kept : List (String × Json)}
      (hmap : isMap schema = true)
      (hadditional : schema.get? "additionalProperties" = some additional)
      (hopen : additional ≠ .bool false) (h : KeepsValues asFound additional members kept) :
      KeepsDeclared asFound schema (.obj members) (.obj kept)

/-- The members that are kept are declared, and so is what is kept of them. -/
inductive KeepsMembers (asFound : Bool) :
    List (String × Json) → List (String × Json) → List (String × Json) → Prop
  | nil (properties : List (String × Json)) : KeepsMembers asFound properties [] []
  | drop (member : String × Json) {properties members kept : List (String × Json)}
      (h : KeepsMembers asFound properties members kept) :
      KeepsMembers asFound properties (member :: members) kept
  | keep {name : String} {property value left : Json}
      {properties members kept : List (String × Json)}
      (hproperty : properties.lookup name = some property)
      (hvalue : KeepsDeclared asFound property value left)
      (h : KeepsMembers asFound properties members kept) :
      KeepsMembers asFound properties ((name, value) :: members) ((name, left) :: kept)

/-- The items that are kept hold what is declared of all of them. -/
inductive KeepsItems (asFound : Bool) : Json → List Json → List Json → Prop
  | nil (item : Json) : KeepsItems asFound item [] []
  | drop (value : Json) {item : Json} {items kept : List Json}
      (h : KeepsItems asFound item items kept) : KeepsItems asFound item (value :: items) kept
  | keep {item value left : Json} {items kept : List Json}
      (hvalue : KeepsDeclared asFound item value left) (h : KeepsItems asFound item items kept) :
      KeepsItems asFound item (value :: items) (left :: kept)

/-- The members of a map that are kept hold what pruning leaves of them. -/
inductive KeepsValues (asFound : Bool) :
    Json → List (String × Json) → List (String × Json) → Prop
  | nil (additional : Json) : KeepsValues asFound additional [] []
  | drop (member : String × Json) {additional : Json} {members kept : List (String × Json)}
      (h : KeepsValues asFound additional members kept) :
      KeepsValues asFound additional (member :: members) kept
  | keep {name : String} {additional value left : Json} {members kept : List (String × Json)}
      (hprune : prune additional value = some left)
      (hvalue : KeepsDeclared asFound additional value left)
      (h : KeepsValues asFound additional members kept) :
      KeepsValues asFound additional ((name, value) :: members) ((name, left) :: kept)

end

mutual

/-- **What comes through is declared**, inside of maps as well if there are none. -/
theorem keepsDeclared_of_prune {asFound : Bool} {schema value kept : Json}
    (hmaps : asFound = true ∨ MapFree schema) (h : prune schema value = some kept) :
    KeepsDeclared asFound schema value kept := by
  cases value with
  | null => cases h
  | bool _ | num _ | str _ =>
    obtain rfl := Option.some.inj h
    exact .scalar rfl
  | arr items =>
    by_cases hkeeps : keepsUnknown schema = true
    · rw [prune, if_pos hkeeps] at h
      obtain rfl := Option.some.inj h
      exact .unknown hkeeps
    · by_cases harray : typeOf? schema = some "array"
      · rw [prune, if_neg hkeeps, if_neg (by simp [harray])] at h
        obtain ⟨item, hitem, rfl⟩ := Option.map_eq_some_iff.mp h
        have hitems : asFound = true ∨ MapFree item :=
          hmaps.imp_right (·.item (Bool.eq_false_iff.mpr hkeeps) harray hitem)
        exact .items hitem (keepsItems_pruneItems hitems items)
      · rw [prune, if_neg hkeeps, if_pos (by simpa using harray)] at h
        cases h
  | obj members =>
    by_cases hkeeps : keepsUnknown schema = true
    · rw [prune, if_pos hkeeps] at h
      obtain rfl := Option.some.inj h
      exact .unknown hkeeps
    · have hkeeps : keepsUnknown schema = false := Bool.eq_false_iff.mpr hkeeps
      by_cases hmap : isMap schema = true
      · -- a map can only be met where maps are taken as they are found
        rw [prune_of_isMap hmap] at h
        obtain rfl := Option.some.inj h
        rcases hmaps with hfound | hfree
        · exact .found hfound hmap
        · rw [hfree schema (.here schema)] at hmap
          cases hmap
      · have hobjects : ¬ keepsObjects schema = true := by
          simpa [isMap, hkeeps] using hmap
        rw [prune_obj, if_neg hobjects] at h
        split at h
        · next hobject =>
          obtain ⟨properties, hproperties, rfl⟩ := Option.map_eq_some_iff.mp h
          refine .members hproperties (keepsMembers_pruneMembers (fun name property hproperty => ?_)
            members)
          exact hmaps.imp_right (·.member hkeeps hobject hproperties hproperty)
        · cases h
termination_by structural value

theorem keepsMembers_pruneMembers {asFound : Bool} {properties : List (String × Json)}
    (hmaps : ∀ name property, properties.lookup name = some property →
      asFound = true ∨ MapFree property) (members : List (String × Json)) :
    KeepsMembers asFound properties members (pruneMembers properties members) := by
  cases members with
  | nil => exact .nil properties
  | cons head rest =>
    obtain ⟨name, value⟩ := head
    have hrest := keepsMembers_pruneMembers hmaps rest
    cases hproperty : properties.lookup name with
    | none => simpa only [pruneMembers, hproperty] using .drop (name, value) hrest
    | some property =>
      cases hvalue : prune property value with
      | none => simpa only [pruneMembers, hproperty, hvalue] using .drop (name, value) hrest
      | some left =>
        simp only [pruneMembers, hproperty, hvalue]
        exact .keep hproperty (keepsDeclared_of_prune (hmaps name property hproperty) hvalue) hrest
termination_by structural members

theorem keepsItems_pruneItems {asFound : Bool} {item : Json}
    (hmaps : asFound = true ∨ MapFree item) (items : List Json) :
    KeepsItems asFound item items (pruneItems item items) := by
  cases items with
  | nil => exact .nil item
  | cons value rest =>
    have hrest := keepsItems_pruneItems hmaps rest
    rw [pruneItems]
    cases hvalue : prune item value with
    | none => exact .drop value hrest
    | some left => exact .keep (keepsDeclared_of_prune hmaps hvalue) hrest
termination_by structural items

end

/-! ## Maps let nulls through -/

namespace KeepsDeclared

variable {asFound : Bool} {kept : List (String × Json)}

/-- Of a map that is not taken as it is found, members are kept by the schema for its values. -/
theorem values (h : KeepsDeclared false schema (.obj members) (.obj kept))
    (hmap : isMap schema = true) (hne : kept ≠ []) :
    ∃ additional, schema.get? "additionalProperties" = some additional ∧
      additional ≠ .bool false ∧ KeepsValues false additional members kept := by
  obtain ⟨hkeeps, -, hnone, -⟩ := isMap_iff.mp hmap
  cases h with
  | unknown hkeeps' => cases hkeeps.symm.trans hkeeps'
  | scalar hscalar => cases hscalar
  | members hproperties _ => cases hnone.symm.trans hproperties
  | found hfound _ => cases hfound
  | closed _ _ => exact absurd rfl hne
  | map _ hadditional hopen h => exact ⟨_, hadditional, hopen, h⟩

/-- Where members are declared, they are kept by what is declared of them. -/
theorem keepsMembers (h : KeepsDeclared asFound schema (.obj members) (.obj kept))
    (hkeeps : keepsUnknown schema = false) (hproperties : propertiesOf? schema = some properties) :
    KeepsMembers asFound properties members kept := by
  have hmap : ¬ isMap schema = true := by
    intro hmap
    cases (isMap_iff.mp hmap).2.2.1.symm.trans hproperties
  cases h with
  | unknown hkeeps' => cases hkeeps.symm.trans hkeeps'
  | scalar hscalar => cases hscalar
  | members hproperties' h =>
    obtain rfl := Option.some.inj (hproperties.symm.trans hproperties')
    exact h
  | found _ hmap' | closed hmap' _ | map hmap' _ _ _ => exact absurd hmap' hmap

/-- Items are kept by what the schema says of them. -/
theorem keepsItems {item : Json} {items kept : List Json}
    (h : KeepsDeclared asFound schema (.arr items) (.arr kept))
    (hkeeps : keepsUnknown schema = false) (hitem : schema.get? "items" = some item) :
    KeepsItems asFound item items kept := by
  cases h with
  | unknown hkeeps' => cases hkeeps.symm.trans hkeeps'
  | scalar hscalar => cases hscalar
  | items hitem' h =>
    obtain rfl := Option.some.inj (hitem.symm.trans hitem')
    exact h

end KeepsDeclared

/-- A null in a map is not declared. -/
theorem not_keepsDeclared_null (hmap : isMap schema = true) (name : String) :
    ¬ KeepsDeclared false schema (.obj [(name, .null)]) (.obj [(name, .null)]) := by
  intro h
  obtain ⟨additional, -, -, hvalues⟩ := h.values hmap (List.cons_ne_nil _ _)
  -- null comes through no schema, that of the values included
  cases hvalues with
  | drop _ h => cases h
  | keep hprune => cases hprune

/-- Wherever pruning meets a map, a value can be found of which more is kept than is declared. -/
theorem exists_not_keepsDeclared {target : Json} (h : Reaches schema target)
    (hmap : isMap target = true) :
    ∃ value kept, prune schema value = some kept ∧ ¬ KeepsDeclared false schema value kept := by
  -- the value is built around the map on the way back to where pruning starts
  induction h with
  | here schema => exact ⟨_, _, prune_of_isMap hmap _, not_keepsDeclared_null hmap ""⟩
  | @member schema property target properties name hkeeps hobject hproperties hproperty _ ih =>
    obtain ⟨value, kept, hvalue, hnot⟩ := ih hmap
    have hobjects : ¬ keepsObjects schema = true := by
      simp [keepsObjects, hkeeps, hproperties]
    refine ⟨.obj [(name, value)], .obj [(name, kept)], ?_, fun hdeclared => hnot ?_⟩
    · rw [prune_obj, if_neg hobjects, if_pos hobject, hproperties, Option.map_some]
      simp only [pruneMembers, hproperty, hvalue]
    · cases hdeclared.keepsMembers hkeeps hproperties with
      | drop _ h => cases h
      | keep hproperty' hkept =>
        obtain rfl := Option.some.inj (hproperty.symm.trans hproperty')
        exact hkept
  | @item schema item target hkeeps harray hitem _ ih =>
    obtain ⟨value, kept, hvalue, hnot⟩ := ih hmap
    refine ⟨.arr [value], .arr [kept], ?_, fun hdeclared => hnot ?_⟩
    · simp [prune, hkeeps, harray, hitem, pruneItems, hvalue]
    · cases hdeclared.keepsItems hkeeps hitem with
      | drop _ h => cases h
      | keep hkept => exact hkept

/-- **Which schemas keep only what they declare.**  Outside of maps nothing is kept that is not
declared, and no null, and maps are kept as they are found.  Only what is declared is kept of all
values, inside of maps as well, exactly if there is no map that pruning meets. -/
theorem prune_keepsDeclared_iff (schema : Json) :
    (∀ value kept, prune schema value = some kept → KeepsDeclared true schema value kept) ∧
    ((∀ value kept, prune schema value = some kept → KeepsDeclared false schema value kept) ↔
      MapFree schema) := by
  refine ⟨fun value kept h => keepsDeclared_of_prune (.inl rfl) h, ?_, ?_⟩
  · intro hdeclared target htarget
    by_contra hmap
    obtain ⟨value, kept, hkept, hnot⟩ :=
      exists_not_keepsDeclared htarget (Bool.not_eq_false _ ▸ hmap)
    exact hnot (hdeclared value kept hkept)
  · exact fun hfree value kept h => keepsDeclared_of_prune (.inr hfree) h

/-- A note has a text and nothing else. -/
def noteSchema : Json := .obj [
  ("type", .str "object"), ("properties", .obj [("text", .obj [("type", .str "string")])])]

/-- A note with more than a text. -/
def longNote : Json := .obj [("author", .null), ("text", .str "Check in spring")]

/-- What is declared of such a note. -/
def shortNote : Json := .obj [("text", .str "Check in spring")]

theorem mapFree_noteSchema : MapFree noteSchema := by
  intro target htarget
  cases htarget with
  | here => rfl
  | item _ harray _ _ => exact absurd harray (by decide)
  | @member _ property _ properties name _ _ hproperties hproperty h =>
    obtain rfl := Option.some.inj hproperties
    obtain ⟨_, rfl⟩ : name = "text" ∧ .obj [("type", .str "string")] = property := by
      rw [Assoc.lookup_cons] at hproperty
      split at hproperty
      · exact ⟨‹_›, Option.some.inj hproperty⟩
      · cases hproperty
    -- a text has nothing below it
    cases h with
    | here => rfl
    | member _ hobject _ _ _ => cases hobject
    | item _ harray _ _ => exact absurd harray (by decide)

/-- Of a note only its text is kept, and nothing that is not declared. -/
theorem prune_keepsDeclared_note :
    MapFree noteSchema ∧ prune noteSchema longNote = some shortNote ∧
      KeepsDeclared false noteSchema longNote shortNote :=
  ⟨mapFree_noteSchema, rfl, (prune_keepsDeclared_iff noteSchema).2.mpr mapFree_noteSchema _ _ rfl⟩

/-- A map whose values are as a schema says, or not allowed at all. -/
def mapSchema (additional : Json) : Json := .obj [
  ("type", .str "object"), ("additionalProperties", additional)]

/-- A map of notes keeps what no note declares and a null, and a map that allows no members keeps
them all the same. -/
theorem prune_not_keepsDeclared_notes :
    (prune (mapSchema noteSchema) (.obj [("a", longNote)]) = some (.obj [("a", longNote)]) ∧
      ¬ KeepsDeclared false (mapSchema noteSchema) (.obj [("a", longNote)])
        (.obj [("a", longNote)])) ∧
    prune (mapSchema (.bool false)) (.obj [("a", shortNote)]) = some (.obj [("a", shortNote)]) ∧
      ¬ KeepsDeclared false (mapSchema (.bool false)) (.obj [("a", shortNote)])
        (.obj [("a", shortNote)]) := by
  refine ⟨⟨rfl, fun h => ?_⟩, rfl, fun h => ?_⟩
  · obtain ⟨_, hadditional, -, hvalues⟩ := h.values rfl (List.cons_ne_nil _ _)
    obtain rfl := Option.some.inj hadditional
    cases hvalues with
    | drop _ h => cases h
    | keep hprune =>
      -- a note would come through without its author
      have hshort : shortNote = longNote := Option.some.inj hprune
      simp [shortNote, longNote] at hshort
  · obtain ⟨_, hadditional, hopen, -⟩ := h.values rfl (List.cons_ne_nil _ _)
    exact hopen (Option.some.inj hadditional).symm

end AtlasManifests.Schema
