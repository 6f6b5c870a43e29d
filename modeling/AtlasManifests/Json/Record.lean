import AtlasManifests.Json.Basic

/-! # Records

Reading values with a fixed list of fields, and writing them. A record is given as
an object, whose unknown members do not count, or as an array of its fields in
order. Two readings differ in what an absent field means, and two writings in what
an absent value is written as. `lookup_ofFields` says that an object made of fields
gives each of them back.
-/
namespace AtlasManifests

/-- What reading makes of absent fields: under the lenient reading every field has a
default, and under the strict one a plain field has to be there. -/
inductive Reading where
  | lenient
  | strict
  deriving DecidableEq

/-- How values are written that are absent or are empty lists: as `null` and `[]`,
or not at all. -/
inductive Writing where
  | explicit
  | compact
  deriving DecidableEq

/-- A record being read: its fields by name. -/
structure Record where
  reading : Reading
  positional : Bool
  field? : String → Option Json

namespace Json

/-- The name of a choice among names: a text, or the only member of an object, without a
value. -/
def choice? : Json → Option String
  | .str s => some s
  | .obj [(name, .null)] => some name
  | _ => none

/-- The fields of a record with the given names, in order. -/
def record? (reading : Reading) (names : List String) : Json → Option Record
  | .obj members => some ⟨reading, false, fun name => members.lookup name⟩
  | .arr items =>
    if items.length ≤ names.length then
      some ⟨reading, true, fun name => (names.zip items).lookup name⟩
    else none
  | _ => none

end Json

namespace Record

variable (r : Record) {α : Type}

/-- A field that has to be there. -/
def required (read : Json → Option α) (name : String) : Option α := (r.field? name).bind read

/-- A field with a default of its own. -/
def withDefault (read : Json → Option α) (default : α) (name : String) : Option α :=
  match r.field? name with
  | none => some default
  | some value => read value

/-- A plain field, with a default under the lenient reading. -/
def plain (read : Json → Option α) (default : α) (name : String) : Option α :=
  match r.reading with
  | .lenient => r.withDefault read default name
  | .strict => r.required read name

/-- A text. -/
def text (name : String) : Option String := r.plain Json.text? "" name

/-- A field that may be absent or null. Under the strict reading, an array of fields
has to have it. -/
def optional (read : Json → Option α) (name : String) : Option (Option α) :=
  match r.field? name with
  | none => if r.positional && r.reading == .strict then none else some none
  | some .null => some none
  | some value => (read value).map some

/-- A list, empty by default. -/
def list (read : Json → Option α) (name : String) : Option (List α) :=
  r.withDefault (fun value => value.items?.bind (·.mapM read)) [] name

end Record

namespace Json

/-- The object of some fields, without the absent ones. -/
def ofFields (fields : List (String × Option Json)) : Json :=
  .obj (fields.filterMap fun (name, value) => value.map (name, ·))

theorem lookup_filterMap_of_not_mem {name : String} {fields : List (String × Option Json)}
    (h : name ∉ fields.map (·.1)) :
    (fields.filterMap fun (name, value) => value.map (name, ·)).lookup name = none := by
  induction fields with
  | nil => rfl
  | cons head rest ih =>
    obtain ⟨n, value⟩ := head
    simp only [List.map_cons, List.mem_cons, not_or] at h
    cases value with
    | none => simpa using ih h.2
    | some value => simpa [Assoc.lookup_cons, h.1] using ih h.2

/-- An object of fields with distinct names gives each of them back. -/
theorem lookup_ofFields {fields : List (String × Option Json)}
    (h : (fields.map (·.1)).Nodup) (name : String) :
    (ofFields fields).get? name = (fields.lookup name).join := by
  simp only [ofFields, get?]
  induction fields with
  | nil => rfl
  | cons head rest ih =>
    obtain ⟨n, value⟩ := head
    simp only [List.map_cons, List.nodup_cons] at h
    rw [Assoc.lookup_cons]
    by_cases hn : name = n
    · subst hn
      cases value with
      | none => simpa using lookup_filterMap_of_not_mem h.1
      | some value => simp
    · cases value with
      | none => simpa [hn] using ih h.2
      | some value => simpa [Assoc.lookup_cons, hn] using ih h.2

end Json

namespace Writing

variable {α : Type}

/-- An optional value. -/
def optional (w : Writing) (write : α → Json) : Option α → Option Json
  | some x => some (write x)
  | none =>
    match w with
    | .explicit => some .null
    | .compact => none

/-- A list of values. -/
def list (w : Writing) (write : α → Json) (xs : List α) : Option Json :=
  match w, xs with
  | .compact, [] => none
  | _, xs => some (.arr (xs.map write))

end Writing

end AtlasManifests
