import AtlasManifests.Proofs.ReadingByValue
import AtlasManifests.Proofs.SortedMaps

/-! # Typed forms

What is read by a shape is in its typed form (`Shape.IsTyped`), and so is what stands in it: the
values of a table, the items of a list, and the fields of a record that are there
(`Shape.IsTyped.get?_of_record`).  Hence the schema for `spec` in the first version of a definition
that was read is in its typed form (`Definition.IsTyped.specSchema`), and declares its members by
name, in a table of schemas (`Shape.IsTyped.properties`).
-/
namespace AtlasManifests

namespace Shape

variable {shape : Shape} {value : Json} {name : String} {distinct : Bool}
variable {fields : List (String × Presence × Shape)} {presence : Presence}

/-- A value is what something is read as by a shape. -/
def IsTyped (shape : Shape) (value : Json) : Prop := ∃ datum, read shape datum = some value

/-! ## Tables and lists -/

theorem isTyped_of_readTable {members : List (Option String × Datum)}
    {table : List (String × Json)} (h : readTable shape members = some table) :
    ∀ entry ∈ table, IsTyped shape entry.2 := by
  induction members generalizing table with
  | nil =>
    obtain rfl := Option.some.inj h
    simp
  | cons member rest ih =>
    obtain ⟨_ | key, datum⟩ := member
    · cases h
    · simp only [readTable, Option.bind_eq_bind, Option.bind_eq_some_iff] at h
      obtain ⟨value, hvalue, later, hlater, h⟩ := h
      split at h
      · obtain rfl := Option.some.inj h
        exact ih hlater
      · obtain rfl := Option.some.inj h
        intro entry hentry
        rcases Assoc.mem_insert hentry with rfl | hentry
        · exact ⟨datum, hvalue⟩
        · exact ih hlater entry hentry

theorem isTyped_of_readItems {data : List Datum} {items : List Json}
    (h : readItems shape data = some items) : ∀ item ∈ items, IsTyped shape item := by
  induction data generalizing items with
  | nil =>
    obtain rfl := Option.some.inj h
    simp
  | cons datum rest ih =>
    simp only [readItems, Option.bind_eq_bind, Option.bind_eq_some_iff] at h
    obtain ⟨value, hvalue, later, hlater, h⟩ := h
    obtain rfl := Option.some.inj h
    exact List.forall_mem_cons.mpr ⟨⟨datum, hvalue⟩, ih hlater⟩

theorem exists_table_of_read : ∀ (datum : Datum) {value : Json},
    read (.table shape) datum = some value →
      ∃ table, value = .obj table ∧ ∀ entry ∈ table, IsTyped shape entry.2
  | .leaf f, value, h => by
    rw [read, ofLeaf?] at h
    split at h
    · exact ⟨[], (Option.some.inj h).symm, by simp⟩
    · cases h
  | .list items, value, h => nomatch h
  | .map members, value, h => by
    rw [read] at h
    obtain ⟨table, htable, rfl⟩ := Option.map_eq_some_iff.mp h
    exact ⟨table, rfl, isTyped_of_readTable htable⟩
  | .tagged _ datum, _, h => exists_table_of_read datum h

theorem exists_items_of_read : ∀ (datum : Datum) {value : Json},
    read (.list shape) datum = some value →
      ∃ items, value = .arr items ∧ ∀ item ∈ items, IsTyped shape item
  | .leaf f, value, h => by
    rw [read, ofLeaf?] at h
    split at h
    · exact ⟨[], (Option.some.inj h).symm, by simp⟩
    · cases h
  | .list data, value, h => by
    rw [read] at h
    obtain ⟨items, hitems, rfl⟩ := Option.map_eq_some_iff.mp h
    exact ⟨items, rfl, isTyped_of_readItems hitems⟩
  | .map members, value, h => nomatch h
  | .tagged _ datum, _, h => exists_items_of_read datum h

theorem IsTyped.table (h : IsTyped (.table shape) value) :
    ∃ table, value = .obj table ∧ ∀ entry ∈ table, IsTyped shape entry.2 :=
  let ⟨datum, h⟩ := h
  exists_table_of_read datum h

theorem IsTyped.list (h : IsTyped (.list shape) value) :
    ∃ items, value = .arr items ∧ ∀ item ∈ items, IsTyped shape item :=
  let ⟨datum, h⟩ := h
  exists_items_of_read datum h

/-! ## Records -/

/-- What a field holds is in the typed form of its shape, or a fixed text. -/
theorem isTyped_of_valueOf? {datum : Datum}
    (h : valueOf? presence shape datum = some (some value)) :
    IsTyped shape value ∨ Presence.default? presence = some value := by
  cases presence with
  | optional | plain _ =>
    simp only [valueOf?] at h
    split at h
    · cases h
    · exact .inl ⟨datum, by simpa using h⟩
  | kept => exact .inl ⟨datum, by simpa [valueOf?] using h⟩
  | constant fixed =>
    simp only [valueOf?] at h
    split at h
    · exact .inr (Option.some.inj h)
    · cases h

theorem isTyped_of_readMembers {members : List (Option String × Datum)}
    {held : List (String × Option Json)} (h : readMembers distinct fields members = some held)
    (hfield : fields.lookup name = some (presence, shape))
    (hheld : held.lookup name = some (some value)) :
    IsTyped shape value ∨ Presence.default? presence = some value := by
  induction members generalizing held with
  | nil =>
    obtain rfl := Option.some.inj h
    cases hheld
  | cons member rest ih =>
    obtain ⟨_ | key, datum⟩ := member
    · cases h
    · rw [readMembers_cons] at h
      obtain ⟨later, hlater, h⟩ := Option.bind_eq_some_iff.mp h
      split at h
      · obtain rfl := Option.some.inj h
        exact ih hlater hheld
      · next presence' shape' hkey =>
        obtain ⟨found, hfound, h⟩ := Option.bind_eq_some_iff.mp h
        split at h
        · split at h
          · cases h
          · obtain rfl := Option.some.inj h
            exact ih hlater hheld
        · obtain rfl := Option.some.inj h
          rw [Assoc.lookup_cons] at hheld
          split at hheld
          · next hname =>
            -- the member is the one that the field holds
            subst hname
            obtain rfl := Option.some.inj hheld
            obtain ⟨rfl, rfl⟩ := Prod.mk.inj (Option.some.inj (hfield.symm.trans hkey))
            exact isTyped_of_valueOf? hfound
          · exact ih hlater hheld

/-- A member of a record is what its field holds, or what stands for a field that holds nothing. -/
theorem of_get?_assemble {held : List (String × Option Json)} (hnames : (fields.map (·.1)).Nodup)
    (hfield : fields.lookup name = some (presence, shape))
    (h : (assemble fields held).get? name = some value) :
    held.lookup name = some (some value) ∨ Presence.default? presence = some value := by
  rw [assemble_eq, Json.get?] at h
  obtain ⟨⟨key, presence', shape'⟩, hmem, hentry⟩ :=
    List.mem_filterMap.mp (Assoc.mem_of_lookup h)
  obtain rfl : name = key := key_of_member? hentry
  -- no other field has the name
  obtain ⟨rfl, rfl⟩ : presence' = presence ∧ shape' = shape := by
    have hfield' := Assoc.mem_of_lookup hfield
    exact Prod.mk.inj (Prod.mk.inj (List.inj_on_of_nodup_map hnames hmem hfield' rfl)).2
  rw [member?] at hentry
  split at hentry
  · next hheld =>
    obtain ⟨_, rfl⟩ := Prod.mk.inj (Option.some.inj hentry)
    exact .inl hheld
  · obtain ⟨_, hdefault, heq⟩ := Option.map_eq_some_iff.mp hentry
    obtain ⟨_, rfl⟩ := Prod.mk.inj heq
    exact .inr hdefault

theorem exists_held_of_read : ∀ (datum : Datum) {typed : Json},
    read (.record distinct fields) datum = some typed →
      ∃ members held, readMembers distinct fields members = some held ∧
        typed = assemble fields held
  | .leaf f, typed, h => by
    rw [read, ofLeaf?] at h
    split at h
    · exact ⟨[], [], rfl, (Option.some.inj h).symm⟩
    · cases h
  | .list items, typed, h => nomatch h
  | .map members, typed, h => by
    rw [read] at h
    obtain ⟨held, hheld, rfl⟩ := Option.map_eq_some_iff.mp h
    exact ⟨members, held, hheld, rfl⟩
  | .tagged _ datum, _, h => exists_held_of_read datum h

/-- A field of a record that is there is in the typed form of its shape, or its default. -/
theorem IsTyped.get?_of_record (hnames : (fields.map (·.1)).Nodup) {typed : Json}
    (h : IsTyped (.record distinct fields) typed)
    (hfield : fields.lookup name = some (presence, shape)) (hvalue : typed.get? name = some value) :
    IsTyped shape value ∨ Presence.default? presence = some value := by
  obtain ⟨datum, hdatum⟩ := h
  obtain ⟨members, held, hheld, rfl⟩ := exists_held_of_read datum hdatum
  rcases of_get?_assemble hnames hfield hvalue with hlookup | hdefault
  · exact isTyped_of_readMembers hheld hfield hlookup
  · exact .inr hdefault

/-- Schemas are records of their fields. -/
theorem read_schema : ∀ datum : Datum, read .schema datum = read (.record false schemaFields) datum
  | .leaf _ => rfl
  | .list _ => rfl
  | .map _ => rfl
  | .tagged _ datum => read_schema datum

theorem isTyped_schema_iff : IsTyped .schema value ↔ IsTyped (.record false schemaFields) value :=
  exists_congr fun datum => by rw [read_schema]

/-- The members that a schema declares are a table of schemas. -/
theorem IsTyped.properties {schema properties : Json} (h : IsTyped .schema schema)
    (hproperties : schema.get? "properties" = some properties) :
    ∃ table, properties = .obj table ∧ ∀ entry ∈ table, IsTyped .schema entry.2 := by
  have hnames : (schemaFields.map (·.1)).Nodup := by decide +kernel
  refine (((isTyped_schema_iff.mp h).get?_of_record hnames rfl hproperties).resolve_right ?_).table
  exact nofun

end Shape

/-! ## Definitions -/

theorem Json.walk?_cons_eq_bind {step : String} (h : index? step = none) (j : Json)
    (steps : List String) : j.walk? (step :: steps) = (j.get? step).bind (·.walk? steps) := by
  rw [← child?_eq_get? h]
  rfl

namespace Definition

/-- A definition is what something is read as. -/
def IsTyped (d : Definition) : Prop := ∃ datum, ofDatum? datum = some d

/-- The schema for `spec` in the first version of a definition. -/
def specSchema? (d : Definition) : Option Json := do
  let version ← d.versions.head?
  let schema ← schemaOf? version
  schema.walk? ["properties", "spec"]

variable {d : Definition}

theorem IsTyped.typed (h : d.IsTyped) : Shape.IsTyped Shape.definition d.typed := by
  obtain ⟨datum, h⟩ := h
  obtain ⟨typed, htyped, rfl⟩ := Option.map_eq_some_iff.mp h
  exact ⟨datum, htyped⟩

theorem IsTyped.version (h : d.IsTyped) {version : Json} (hversion : version ∈ d.versions) :
    Shape.IsTyped Shape.version version := by
  have hindex : Json.index? "spec" = none := by decide
  rw [versions, Json.walk?_cons_eq_bind hindex] at hversion
  cases hspec : d.typed.get? "spec" with
  | none => simp [hspec] at hversion
  | some spec =>
    have hspecTyped : Shape.IsTyped Shape.definitionSpec spec := by
      rcases h.typed.get?_of_record (by decide) rfl hspec with hspec | hspec
      · exact hspec
      · exact ⟨.map [], hspec⟩
    rw [hspec, Option.bind_some, Json.walk?_cons_eq_bind (by decide)] at hversion
    cases hversions : spec.get? "versions" with
    | none => simp [hversions] at hversion
    | some versions =>
      have hversionsTyped : Shape.IsTyped (.list Shape.version) versions := by
        rcases hspecTyped.get?_of_record (by decide) rfl hversions with hversions | hversions
        · exact hversions
        · exact ⟨.list [], hversions⟩
      obtain ⟨items, rfl, hitems⟩ := hversionsTyped.list
      rw [hversions] at hversion
      exact hitems version hversion

theorem IsTyped.specSchema (h : d.IsTyped) {spec : Json} (hspec : d.specSchema? = some spec) :
    Shape.IsTyped .schema spec := by
  obtain ⟨version, hversion, hspec⟩ := Option.bind_eq_some_iff.mp hspec
  obtain ⟨schema, hschema, hspec⟩ := Option.bind_eq_some_iff.mp hspec
  have hversion := h.version (List.mem_of_mem_head? hversion)
  -- one step after the other: from the version to its schema, and from there to that for `spec`
  rw [schemaOf?, Json.walk?_cons_eq_bind (by decide)] at hschema
  obtain ⟨holder, hholder, hschema⟩ := Option.bind_eq_some_iff.mp hschema
  have hholder := (hversion.get?_of_record (by decide) rfl hholder).resolve_right nofun
  rw [Json.walk?_cons_eq_bind (by decide)] at hschema
  obtain ⟨_, hfound, hschema⟩ := Option.bind_eq_some_iff.mp hschema
  obtain rfl := Option.some.inj hschema
  have hschema := (hholder.get?_of_record (by decide) rfl hfound).resolve_right nofun
  rw [Json.walk?_cons_eq_bind (by decide)] at hspec
  obtain ⟨properties, hproperties, hspec⟩ := Option.bind_eq_some_iff.mp hspec
  obtain ⟨table, rfl, htable⟩ := hschema.properties hproperties
  rw [Json.walk?_cons_eq_bind (by decide)] at hspec
  obtain ⟨_, hlookup, hspec⟩ := Option.bind_eq_some_iff.mp hspec
  obtain rfl := Option.some.inj hspec
  exact htable _ (Assoc.mem_of_lookup hlookup)

end Definition

end AtlasManifests
