import AtlasManifests.Definition.Curated
import AtlasManifests.Json.Pointer
import AtlasManifests.Proofs.Records
import AtlasManifests.Proofs.SortedMaps

/-! # What schemas admit

A printed schema admits a value (`Admission.admits`) if all of the value is declared: the types of
its parts, the members of its objects at every depth, those of them that are required and those of
one of the alternatives.  A schema that asks for anything else admits nothing.  What fits a schema
that is not printed yet (`Schema.Fits`, one case for each way to make a schema) is admitted by the
printed one (`Schema.Fits.admits`).  For records that are written field by field, the lemmas at the
end reduce this to their fields, without absent values (`Schema.fits_record_iff`).
-/
namespace AtlasManifests

/-! ## Values and printed schemas -/

namespace Admission

/-- The keywords that a schema may have: those that are looked at, and those that only explain, of
which the format is one if it is that of a text. -/
def keywords : List String :=
  ["anyOf", "default", "description", "format", "items", "nullable", "properties", "required",
    "title", "type"]

/-- Whether a schema asks for nothing that would be passed over. -/
def isUnderstood : Json → Bool
  | .obj members => members.all fun (keyword, _) => keywords.contains keyword
  | _ => false

/-- The type that a schema declares. -/
def type? (schema : Json) : Option String := (schema.get? "type").bind Json.text?

/-- Whether a schema declares that a value may be null. -/
def isNullable (schema : Json) : Bool := ((schema.get? "nullable").bind Json.bool?).getD false

/-- The fields that a schema declares. -/
def properties (schema : Json) : List (String × Json) :=
  ((schema.get? "properties").bind Json.members?).getD []

/-- Whether a whole number is of a format. -/
def inFormat (format : Option Json) (n : Int) : Bool :=
  match format.bind Json.text? with
  | some "int32" => -2147483648 ≤ n && n ≤ 2147483647
  | some "int64" => -9223372036854775808 ≤ n && n ≤ 9223372036854775807
  | some _ => false
  | none => true

/-- Whether the members that a list of names asks for are there. -/
def areThere (members : List (String × Json)) : Option Json → Bool
  | none => true
  | some (.arr names) =>
    names.all fun name => name.text?.any fun name => (members.lookup name).isSome
  | some _ => false

/-- Whether the members of one of several alternatives are there. -/
def isOneThere (members : List (String × Json)) : Option Json → Bool
  | none => true
  | some (.arr alternatives) =>
    alternatives.any fun alternative =>
      match alternative with
      | .obj [("required", names)] => areThere members (some names)
      | _ => false
  | some _ => false

mutual

/-- Whether a schema admits a value: it is of the declared type, or null where that is allowed; the
members of an object are declared, at every depth, and the required ones are there, as are those of
one of the alternatives. -/
def admits (schema : Json) (value : Json) : Bool :=
  isUnderstood schema &&
    match value with
    | .null => isNullable schema
    | .bool _ => type? schema == some "boolean"
    | .num (.int n) => type? schema == some "integer" && inFormat (schema.get? "format") n
    | .num (.float _) => false
    | .str _ => type? schema == some "string"
    | .arr items =>
      type? schema == some "array" &&
        match schema.get? "items" with
        | some item => admitsItems item items
        | none => false
    | .obj members =>
      type? schema == some "object" && admitsMembers (properties schema) members &&
        areThere members (schema.get? "required") && isOneThere members (schema.get? "anyOf")

/-- Whether a schema admits all of some items. -/
def admitsItems (schema : Json) : List Json → Bool
  | [] => true
  | item :: rest => admits schema item && admitsItems schema rest

/-- Whether members are declared, each with a schema that admits it. -/
def admitsMembers (properties : List (String × Json)) : List (String × Json) → Bool
  | [] => true
  | (name, value) :: rest =>
    (match properties.lookup name with
      | some schema => admits schema value
      | none => false) &&
      admitsMembers properties rest

end

variable {schema schema' value : Json} {members : List (String × Json)}

theorem isUnderstood_of_admits (h : admits schema value = true) : isUnderstood schema = true := by
  unfold admits at h
  exact ((Bool.and_eq_true _ _).mp h).1

theorem admitsItems_iff {items : List Json} :
    admitsItems schema items = true ↔ ∀ item ∈ items, admits schema item = true := by
  induction items with
  | nil => simp [admitsItems]
  | cons item rest ih => rw [admitsItems, Bool.and_eq_true, ih, List.forall_mem_cons]

theorem admitsMembers_iff {properties : List (String × Json)} :
    admitsMembers properties members = true ↔
      ∀ entry ∈ members, ∃ schema ∈ properties.lookup entry.1, admits schema entry.2 = true := by
  induction members with
  | nil => simp [admitsMembers]
  | cons entry rest ih =>
    obtain ⟨name, value⟩ := entry
    rw [admitsMembers, Bool.and_eq_true, ih, List.forall_mem_cons]
    cases properties.lookup name <;> simp

theorem admits_arr_iff {items : List Json} :
    admits schema (.arr items) = true ↔
      isUnderstood schema = true ∧ type? schema = some "array" ∧
        ∃ item ∈ schema.get? "items", ∀ value ∈ items, admits item value = true := by
  rw [admits]
  cases schema.get? "items" <;> simp [admitsItems_iff]

theorem admits_obj_iff :
    admits schema (.obj members) = true ↔
      isUnderstood schema = true ∧ type? schema = some "object" ∧
        (∀ entry ∈ members,
          ∃ schema' ∈ (properties schema).lookup entry.1, admits schema' entry.2 = true) ∧
        areThere members (schema.get? "required") = true ∧
        isOneThere members (schema.get? "anyOf") = true := by
  rw [admits]
  simp [admitsMembers_iff, and_assoc]


/-! ## Below a value -/

/-- The schema that is declared one step below a schema: that of a field, or that of all items. -/
def child? (step : String) (schema : Json) : Option Json :=
  if type? schema = some "array" then schema.get? "items" else (properties schema).lookup step

/-- The schema that is declared for what a list of steps leads to. -/
def below? (schema : Json) (steps : List String) : Option Json :=
  steps.foldlM (fun schema step => child? step schema) schema

theorem admits_child {step : String} {below : Json} (h : admits schema value = true)
    (hstep : value.child? step = some below) :
    ∃ schema' ∈ child? step schema, admits schema' below = true := by
  cases value with
  | null | bool | num | str => cases hstep
  | arr items =>
    obtain ⟨_, htype, item, hitem, hadmits⟩ := admits_arr_iff.mp h
    obtain ⟨i, _, hbelow⟩ := Option.bind_eq_some_iff.mp hstep
    refine ⟨item, ?_, hadmits below (List.mem_of_getElem? hbelow)⟩
    rwa [child?, if_pos htype]
  | obj members =>
    obtain ⟨_, htype, hdeclared, _⟩ := admits_obj_iff.mp h
    obtain ⟨schema', hschema, hadmits⟩ := hdeclared _ (Assoc.mem_of_lookup hstep)
    have hne : type? schema ≠ some "array" := by
      rw [htype]
      decide
    refine ⟨schema', ?_, hadmits⟩
    rwa [child?, if_neg hne]

/-- **Whatever is below an admitted value is declared and admitted.** -/
theorem admits_walk {steps : List String} {below : Json} (h : admits schema value = true)
    (hsteps : value.walk? steps = some below) :
    ∃ schema' ∈ below? schema steps, admits schema' below = true := by
  induction steps generalizing schema value with
  | nil =>
    cases hsteps
    exact ⟨schema, rfl, h⟩
  | cons step rest ih =>
    obtain ⟨value', hstep, hrest⟩ := Option.bind_eq_some_iff.mp hsteps
    obtain ⟨schema', hschema, hadmits⟩ := admits_child h hstep
    obtain ⟨schema'', hbelow, hadmits⟩ := ih hadmits hrest
    exact ⟨schema'', Option.bind_eq_some_iff.mpr ⟨schema', hschema, hbelow⟩, hadmits⟩

/-! ## Keywords -/

/-- The keywords that a value has to meet. -/
def constraints : List String := ["anyOf", "format", "items", "properties", "required", "type"]

theorem isUnderstood_insert {keyword : String} (hknown : keyword ∈ keywords) (note : Json)
    (h : isUnderstood (.obj members) = true) :
    isUnderstood (.obj (Assoc.insert keyword note members)) = true := by
  refine List.all_eq_true.mpr fun entry hentry => ?_
  rcases Assoc.mem_insert hentry with rfl | hentry
  · exact List.contains_iff_mem.mpr hknown
  · exact List.all_eq_true.mp h entry hentry

theorem get?_insert (keyword name : String) (note : Json) :
    (Json.obj (Assoc.insert keyword note members)).get? name =
      if name = keyword then some note else (Json.obj members).get? name :=
  Assoc.lookup_insert keyword name note members

theorem get?_insert_of_ne {keyword name : String} (h : name ≠ keyword) (note : Json) :
    (Json.obj (Assoc.insert keyword note members)).get? name = (Json.obj members).get? name :=
  (get?_insert keyword name note).trans (if_neg h)

/-- What has to be met is all that counts, but for null. -/
theorem admits_congr (hadmits : admits schema value = true)
    (hunderstood : isUnderstood schema' = true)
    (hsame : ∀ keyword ∈ constraints, schema'.get? keyword = schema.get? keyword)
    (hnullable : isNullable schema = true → isNullable schema' = true) :
    admits schema' value = true := by
  have htype : type? schema' = type? schema := by rw [type?, type?, hsame "type" (by decide)]
  have hproperties : properties schema' = properties schema := by
    rw [properties, properties, hsame "properties" (by decide)]
  have hformat := hsame "format" (by decide)
  have hitems := hsame "items" (by decide)
  have hrequired := hsame "required" (by decide)
  have hanyOf := hsame "anyOf" (by decide)
  unfold admits at hadmits ⊢
  obtain ⟨_, hvalue⟩ := (Bool.and_eq_true _ _).mp hadmits
  rw [hunderstood, htype, hproperties, hformat, hitems, hrequired, hanyOf, Bool.true_and]
  cases value with
  | null => exact hnullable hvalue
  | num n => cases n <;> exact hvalue
  | bool | str | arr | obj => exact hvalue

/-- A keyword that explains changes nothing. -/
theorem admits_insert {keyword : String} (hknown : keyword ∈ keywords)
    (hfree : keyword ∉ "nullable" :: constraints) (note : Json)
    (h : admits (.obj members) value = true) :
    admits (.obj (Assoc.insert keyword note members)) value = true := by
  have hne : ∀ name ∈ "nullable" :: constraints, name ≠ keyword := fun name hname heq =>
    hfree (heq ▸ hname)
  refine admits_congr h (isUnderstood_insert hknown note (isUnderstood_of_admits h))
    (fun name hname => get?_insert_of_ne (hne name (List.mem_cons_of_mem _ hname)) note)
    fun hnull => ?_
  rwa [isNullable, get?_insert_of_ne (hne "nullable" List.mem_cons_self)]

/-- A null that is allowed changes nothing else. -/
theorem admits_insert_nullable (h : admits (.obj members) value = true) :
    admits (.obj (Assoc.insert "nullable" (.bool true) members)) value = true := by
  have hknown : "nullable" ∈ keywords := by decide
  have hfree : "nullable" ∉ constraints := by decide
  refine admits_congr h (isUnderstood_insert hknown _ (isUnderstood_of_admits h))
    (fun name hname => ?_) fun _ => ?_
  · have hne : name ≠ "nullable" := fun heq => hfree (heq ▸ hname)
    exact get?_insert_of_ne hne _
  · rw [isNullable, get?_insert, if_pos rfl]
    rfl

/-- Alternatives are met by the members that are there. -/
theorem admits_insert_anyOf {alternatives : Json} {values : List (String × Json)}
    (h : admits (.obj members) (.obj values) = true)
    (hthere : isOneThere values (some alternatives) = true) :
    admits (.obj (Assoc.insert "anyOf" alternatives members)) (.obj values) = true := by
  obtain ⟨hunderstood, htype, hmembers, hrequired, _⟩ := admits_obj_iff.mp h
  refine admits_obj_iff.mpr ⟨isUnderstood_insert (by decide) _ hunderstood, ?_, ?_, ?_, ?_⟩
  · rwa [type?, get?_insert_of_ne (by decide)]
  · rwa [properties, get?_insert_of_ne (by decide)]
  · rwa [get?_insert_of_ne (by decide)]
  · rwa [get?_insert, if_pos rfl]

end Admission

/-! ## Values and schemas -/

namespace Schema

open Admission

/-- The values of a schema that are not null. -/
inductive Fits : Schema → Json → Prop
  | text (format : Option String) (s : String) : Fits (text format) (.str s)
  | integer {format : Option String} {n : Int} (h : inFormat (format.map .str) n = true) :
      Fits (integer format) (.int n)
  | flag (b : Bool) : Fits flag (.bool b)
  | list {item : Schema} {items : List Json} (h : ∀ value ∈ items, Fits item value) :
      Fits (list item) (.arr items)
  | record {fields : List (String × Bool × Schema)} {members : List (String × Json)}
      (hdeclared : ∀ entry ∈ members, (fields.lookup entry.1).isSome = true)
      (hfits : ∀ entry ∈ members, ∀ field, fields.lookup entry.1 = some field →
        Fits field.2 entry.2)
      (hrequired : ∀ field ∈ fields, field.2.1 = true → field.1 ∈ members.map (·.1)) :
      Fits (record fields) (.obj members)
  | nullable {s : Schema} {value : Json} (h : Fits s value) : Fits (nullable s) value
  | described {s : Schema} {value : Json} (note : String) (h : Fits s value) :
      Fits (described note s) value
  | titled {s : Schema} {value : Json} (title : String) (h : Fits s value) :
      Fits (titled title s) value
  | defaulted {s : Schema} {value : Json} (default : Json) (h : Fits s value) :
      Fits (defaulted default s) value
  | oneOf {s : Schema} {members : List (String × Json)} {alternatives : List (List String)}
      {names : List String} (h : Fits s (.obj members)) (halternative : names ∈ alternatives)
      (hthere : ∀ name ∈ names, name ∈ members.map (·.1)) :
      Fits (oneOf alternatives s) (.obj members)

variable {fields : List (String × Bool × Schema)}

/-- The fields of a record are declared as the first of their name is. -/
theorem lookup_properties (name : String) :
    (properties fields).lookup name = (fields.lookup name).map fun field => field.2.toJson := by
  induction fields with
  | nil => rfl
  | cons head rest ih =>
    obtain ⟨key, required, value⟩ := head
    rw [properties, Assoc.lookup_insert, Assoc.lookup_cons, ih]
    split <;> rfl

/-- The names of the fields that have to be there. -/
def requiredNames (fields : List (String × Bool × Schema)) : List String :=
  ((Assoc.ofList fields).filter (·.2.1)).map (·.1)

theorem mem_of_mem_requiredNames {name : String} (h : name ∈ requiredNames fields) :
    ∃ field ∈ fields, field.2.1 = true ∧ field.1 = name := by
  obtain ⟨field, hmem, rfl⟩ := List.mem_map.mp h
  obtain ⟨hmem, hrequired⟩ := List.mem_filter.mp hmem
  have hfield : field ∈ fields := (Assoc.mem_of_mem_insertAll hmem).resolve_right List.not_mem_nil
  exact ⟨field, hfield, hrequired, rfl⟩

theorem members_record :
    (record fields).members =
      unlessEmpty "properties" fields (.obj (properties fields)) ++
        unlessEmpty "required" (requiredNames fields) (namesJson (requiredNames fields)) ++
        [("type", .str "object")] := rfl

theorem isUnderstood_record : isUnderstood (record fields).toJson = true := by
  rw [toJson, members_record, unlessEmpty, unlessEmpty]
  split <;> split <;> rfl

theorem type?_record : type? (record fields).toJson = some "object" := by
  rw [toJson, members_record, unlessEmpty, unlessEmpty]
  split <;> split <;> rfl

theorem properties_record : Admission.properties (record fields).toJson = properties fields := by
  rw [toJson, members_record, unlessEmpty, unlessEmpty]
  cases fields with
  | nil => rfl
  | cons head rest =>
    rw [List.isEmpty_cons, if_neg Bool.false_ne_true]
    split <;> rfl

theorem required_record :
    (record fields).toJson.get? "required" =
      if requiredNames fields = [] then none else some (namesJson (requiredNames fields)) := by
  rw [toJson, members_record, unlessEmpty, unlessEmpty]
  cases requiredNames fields <;> cases fields <;> rfl

theorem anyOf_record : (record fields).toJson.get? "anyOf" = none := by
  rw [toJson, members_record, unlessEmpty, unlessEmpty]
  split <;> split <;> rfl

theorem areThere_namesJson {names : List String} {members : List (String × Json)}
    (h : ∀ name ∈ names, name ∈ members.map (·.1)) :
    areThere members (some (namesJson names)) = true := by
  refine List.all_eq_true.mpr fun name hname => ?_
  obtain ⟨name, hmem, rfl⟩ := List.mem_map.mp hname
  exact Assoc.lookup_isSome_iff.mpr (h name hmem)

/-- **What fits a schema is admitted by the printed schema.** -/
theorem Fits.admits {s : Schema} {value : Json} (h : s.Fits value) :
    Admission.admits s.toJson value = true := by
  -- what says more about a value only inserts a keyword into what says what the value is
  induction h with
  | text format s => cases format <;> rfl
  | @integer format n h =>
    cases format <;> exact h
  | flag b => rfl
  | list h ih => exact admits_arr_iff.mpr ⟨rfl, rfl, _, rfl, ih⟩
  | @record fields members hdeclared hfits hrequired ih =>
    refine admits_obj_iff.mpr ⟨isUnderstood_record, type?_record, fun entry hentry => ?_, ?_, ?_⟩
    · obtain ⟨field, hfield⟩ := Option.isSome_iff_exists.mp (hdeclared entry hentry)
      rw [properties_record, lookup_properties, hfield]
      exact ⟨_, rfl, ih entry hentry field hfield⟩
    · rw [required_record]
      split
      · rfl
      · refine areThere_namesJson fun name hname => ?_
        obtain ⟨field, hfield, htrue, rfl⟩ := mem_of_mem_requiredNames hname
        exact hrequired field hfield htrue
    · rw [anyOf_record]
      rfl
  | nullable h ih => exact admits_insert_nullable ih
  | described note h ih => exact admits_insert (by decide) (by decide) _ ih
  | titled title h ih => exact admits_insert (by decide) (by decide) _ ih
  | defaulted default h ih => exact admits_insert (by decide) (by decide) _ ih
  | oneOf h halternative hthere ih =>
    refine admits_insert_anyOf ih (List.any_eq_true.mpr ⟨_, List.mem_map_of_mem halternative, ?_⟩)
    exact areThere_namesJson hthere

example :
    (Admission.admits (record [must "a" str]).toJson (.obj [("a", .str "x")]),
      Admission.admits (record [must "a" str]).toJson (.obj [("a", .str "x"), ("b", .str "y")]),
      Admission.admits (record [must "a" str]).toJson (.obj [("a", .int 1)]),
      Admission.admits (record [must "a" str]).toJson (.obj [])) = (true, false, false, false) := by
  decide

/-! ## Written values -/

@[simp] theorem fits_text (format : Option String) (s : String) : (text format).Fits (.str s) :=
  .text format s

@[simp] theorem fits_flag (b : Bool) : flag.Fits (.bool b) := .flag b

@[simp] theorem fits_int32 (n : Int32) : Curated.int32.Fits (.int32 n) := by
  refine .integer ?_
  have hlow := Int32.le_toInt n
  have hhigh := Int32.toInt_le n
  exact (Bool.and_eq_true _ _).mpr ⟨decide_eq_true hlow, decide_eq_true hhigh⟩

@[simp] theorem fits_int64 (n : Int64) : Curated.int64.Fits (.int64 n) := by
  refine .integer ?_
  have hlow := Int64.le_toInt n
  have hhigh := Int64.toInt_le n
  exact (Bool.and_eq_true _ _).mpr ⟨decide_eq_true hlow, decide_eq_true hhigh⟩

section
variable {s : Schema} {value : Json}

@[simp] theorem fits_nullable_iff : (nullable s).Fits value ↔ s.Fits value :=
  ⟨fun h => by cases h; assumption, .nullable⟩

@[simp] theorem fits_described_iff {note : String} : (described note s).Fits value ↔ s.Fits value :=
  ⟨fun h => by cases h; assumption, .described note⟩

@[simp] theorem fits_titled_iff {title : String} : (titled title s).Fits value ↔ s.Fits value :=
  ⟨fun h => by cases h; assumption, .titled title⟩

@[simp] theorem fits_defaulted_iff {default : Json} :
    (defaulted default s).Fits value ↔ s.Fits value :=
  ⟨fun h => by cases h; assumption, .defaulted default⟩

@[simp] theorem fits_list_iff {item : Schema} {items : List Json} :
    (list item).Fits (.arr items) ↔ ∀ value ∈ items, item.Fits value :=
  ⟨fun h => by cases h; assumption, .list⟩

end

/-- A value that may be missing fits if it is there. -/
def FitsOption (s : Schema) (value : Option Json) : Prop := ∀ json ∈ value, s.Fits json

section
variable {s : Schema} {value : Option Json} {α : Type} {write : α → Json}

@[simp] theorem fitsOption_none : s.FitsOption none := nofun

@[simp] theorem fitsOption_some {value : Json} : s.FitsOption (some value) ↔ s.Fits value := by
  simp [FitsOption]

@[simp] theorem fitsOption_map {x : Option α} :
    s.FitsOption (x.map write) ↔ ∀ a ∈ x, s.Fits (write a) := by
  simp [FitsOption]

@[simp] theorem fitsOption_optional {x : Option α} :
    s.FitsOption (Writing.compact.optional write x) ↔ ∀ a ∈ x, s.Fits (write a) := by
  cases x <;> simp [FitsOption, Writing.optional]

@[simp] theorem fitsOption_described {note : String} :
    (described note s).FitsOption value ↔ s.FitsOption value := by
  simp [FitsOption]

@[simp] theorem fitsOption_list {item : Schema} {xs : List α} :
    (list item).FitsOption (Writing.compact.list write xs) ↔ ∀ x ∈ xs, item.Fits (write x) := by
  cases xs <;> simp [FitsOption, Writing.list]

end

/-- A field that is declared, or one that is not there. -/
def FitsField (field : Option (Bool × Schema)) (value : Option Json) : Prop :=
  match field with
  | some (_, s) => s.FitsOption value
  | none => value = none

@[simp] theorem fitsField_some {required : Bool} {s : Schema} {value : Option Json} :
    FitsField (some (required, s)) value ↔ s.FitsOption value := Iff.rfl

/-- A field is there. -/
def IsThere (written : List (String × Option Json)) (name : String) : Prop :=
  ∃ value, (name, some value) ∈ written

section
variable {written written' : List (String × Option Json)} {name : String}

@[simp] theorem isThere_cons {key : String} {value : Option Json} :
    IsThere ((key, value) :: written) name ↔
      name = key ∧ value.isSome = true ∨ IsThere written name := by
  cases value <;> simp [IsThere, exists_or]

theorem isThere_iff : IsThere written name ↔
    name ∈ (written.filterMap fun (name, value) => value.map (name, ·)).map (·.1) := by
  induction written with
  | nil => simp [IsThere]
  | cons head rest ih =>
    obtain ⟨key, value⟩ := head
    rw [isThere_cons, ih]
    cases value <;> simp

/-- The fields of a record as they are written: each is declared with a schema that it fits, and
those that have to be there are. -/
structure Covers (fields : List (String × Bool × Schema))
    (written : List (String × Option Json)) : Prop where
  declared : ∀ entry ∈ written, FitsField (fields.lookup entry.1) entry.2
  required : ∀ field ∈ fields, field.2.1 = true → IsThere written field.1

@[simp] theorem covers_iff :
    Covers fields written ↔ (∀ entry ∈ written, FitsField (fields.lookup entry.1) entry.2) ∧
      ∀ field ∈ fields, field.2.1 = true → IsThere written field.1 :=
  ⟨fun h => ⟨h.declared, h.required⟩, fun h => ⟨h.1, h.2⟩⟩

theorem mem_written_iff {value : Json} :
    (name, value) ∈ written.filterMap (fun (name, value) => value.map (name, ·)) ↔
      (name, some value) ∈ written := by
  rw [List.mem_filterMap]
  constructor
  · rintro ⟨⟨key, _ | json⟩, hmem, heq⟩
    · cases heq
    · cases heq
      exact hmem
  · exact fun hmem => ⟨_, hmem, rfl⟩

/-- A written record fits exactly if its fields do. -/
@[simp] theorem fits_record_iff :
    (record fields).Fits (.ofFields written) ↔ Covers fields written := by
  constructor
  · rintro (_ | _ | _ | _ | ⟨hdeclared, hfits, hrequired⟩)
    refine ⟨fun (name, value) hmem => ?_, fun field hfield htrue => ?_⟩
    · cases hfield : fields.lookup name with
      | none =>
        cases value with
        | none => rfl
        | some json =>
          have hsome := hdeclared _ (mem_written_iff.mpr hmem)
          rw [hfield] at hsome
          cases hsome
      | some field =>
        rintro json rfl
        exact hfits _ (mem_written_iff.mpr hmem) field hfield
    · exact isThere_iff.mpr (hrequired field hfield htrue)
  · rintro ⟨hdeclared, hrequired⟩
    refine .record (fun (name, json) hmem => ?_) (fun (name, json) hmem field hfield => ?_)
      fun field hfield htrue => isThere_iff.mp (hrequired field hfield htrue)
    · have hdecl := hdeclared _ (mem_written_iff.mp hmem)
      cases hfield : fields.lookup name with
      | none =>
        rw [hfield] at hdecl
        cases hdecl
      | some field => rfl
    · have hdecl := hdeclared _ (mem_written_iff.mp hmem)
      rw [hfield] at hdecl
      exact hdecl json rfl

@[simp] theorem fits_record_obj_iff {members : List (String × Json)} :
    (record fields).Fits (.obj members) ↔
      Covers fields (members.map fun (name, value) => (name, some value)) := by
  have hwritten : Json.obj members =
      .ofFields (members.map fun (name, value) => (name, some value)) := by
    simp [Json.ofFields, List.filterMap_map]
  rw [hwritten, fits_record_iff]

end

end Schema
end AtlasManifests
