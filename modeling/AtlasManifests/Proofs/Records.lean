import AtlasManifests.Manifest.Resource
import AtlasManifests.Proofs.Instants
import AtlasManifests.Proofs.SortedMaps

/-! # Records are read back

A record that is written field by field is read back if each of its fields is
(`Json.record?_ofFields`, and the lemmas on fields below it): an absent value may be left out or
written as `null`, and a list without items may be left out, whichever way of reading is used.  For
that it matters that no value that is there is written as `null` (`Undoes`).
-/
namespace AtlasManifests

/-- What is written is read back, and it is never `null`. -/
structure Undoes {α : Type} (read : Json → Option α) (write : α → Json) : Prop where
  read_write (a : α) : read (write a) = some a
  ne_null (a : α) : write a ≠ .null

/-! ## Plain values -/

@[simp] theorem Json.text?_str (s : String) : Json.text? (.str s) = some s := rfl

@[simp] theorem undoes_text : Undoes Json.text? Json.str := ⟨fun _ => rfl, nofun⟩

@[simp] theorem Json.bool?_bool (b : Bool) : Json.bool? (.bool b) = some b := rfl

@[simp] theorem undoes_bool : Undoes Json.bool? Json.bool := ⟨fun _ => rfl, nofun⟩

@[simp] theorem undoes_int32 : Undoes Json.int32? Json.int32 where
  read_write n := by
    have hlow := Int32.le_toInt n
    have hhigh := Int32.toInt_le n
    rw [Json.int32?, Json.int32, Json.int, Json.intIn?, if_pos ⟨hlow, hhigh⟩, Option.map_some,
      Int32.ofInt_toInt]
  ne_null _ := nofun

@[simp] theorem undoes_int64 : Undoes Json.int64? Json.int64 where
  read_write n := by
    have hlow := Int64.le_toInt n
    have hhigh := Int64.toInt_le n
    rw [Json.int64?, Json.int64, Json.int, Json.intIn?, if_pos ⟨hlow, hhigh⟩, Option.map_some,
      Int64.ofInt_toInt]
  ne_null _ := nofun

@[simp] theorem undoes_instant : Undoes Instant.ofJson? Instant.toJson where
  read_write t := by
    rw [Instant.ofJson?, Instant.toJson, Json.text?, Option.bind_some, Instant.ofText?_text]
  ne_null _ := nofun

@[simp] theorem undoes_reference : Undoes Reference.ofJson? Reference.toJson where
  read_write := Reference.ofJson?_toJson
  ne_null _ := nofun

/-! ## Fields -/

theorem bind_eq_some_iff {α β : Type} {x : Option α} {f : α → Option β} {b : β} :
    (x >>= f) = some b ↔ ∃ a, x = some a ∧ f a = some b := Option.bind_eq_some_iff

/-- The record of some fields. -/
def Record.ofFields (reading : Reading) (fields : List (String × Option Json)) : Record :=
  ⟨reading, false, fun name => (fields.lookup name).join⟩

variable {α : Type} {read : Json → Option α} {write : α → Json}
variable {reading : Reading} {writing : Writing} {fields : List (String × Option Json)}
variable {name : String}

/-- An object of fields with distinct names is read as the record of these fields. -/
@[simp] theorem Json.record?_ofFields (h : (fields.map (·.1)).Nodup) (names : List String) :
    (Json.ofFields fields).record? reading names = some (.ofFields reading fields) := by
  have hlookup : (fun name => (Json.ofFields fields).get? name) =
      fun name => (fields.lookup name).join := funext (Json.lookup_ofFields h)
  exact congrArg (fun field? => some (Record.mk reading false field?)) hlookup

namespace Field

/-- Reads a field that may be absent or null. -/
def optional (read : Json → Option α) : Option Json → Option (Option α)
  | none => some none
  | some .null => some none
  | some value => (read value).map some

/-- Reads a field with a default. -/
def withDefault (read : Json → Option α) (default : α) : Option Json → Option α
  | none => some default
  | some value => read value

/-- Reads a plain field, which may be absent under the lenient reading. -/
def plain (reading : Reading) (read : Json → Option α) (default : α) : Option Json → Option α :=
  match reading with
  | .lenient => withDefault read default
  | .strict => fun value => value.bind read

@[simp] theorem withDefault_some (read : Json → Option α) (default : α) (value : Json) :
    withDefault read default (some value) = read value := rfl

@[simp] theorem plain_some (reading : Reading) (read : Json → Option α) (default : α)
    (value : Json) : plain reading read default (some value) = read value := by
  cases reading <;> rfl

@[simp] theorem optional_written (h : Undoes read write) (x : Option α) :
    optional read (writing.optional write x) = some x := by
  cases x with
  | none => cases writing <;> rfl
  | some a =>
    have hread : optional read (some (write a)) = (read (write a)).map some := by
      unfold optional
      split
      · next heq => cases heq
      · next heq => exact absurd (Option.some.inj heq) (h.ne_null a)
      · next heq => rw [Option.some.inj heq]
    rw [Writing.optional, hread, h.read_write, Option.map_some]

@[simp] theorem optional_map (h : Undoes read write) (x : Option α) :
    optional read (x.map write) = some x := by
  have hx : x.map write = Writing.compact.optional write x := by cases x <;> rfl
  rw [hx, optional_written h]

@[simp] theorem mapM_written (h : Undoes read write) (xs : List α) :
    (xs.map write).mapM read = some xs := by
  induction xs with
  | nil => rfl
  | cons x xs ih => simp [h.read_write, ih]

@[simp] theorem items_written (h : Undoes read write) (xs : List α) :
    ((Json.arr (xs.map write)).items?.bind (·.mapM read)) = some xs := mapM_written h xs

@[simp] theorem list_written (h : Undoes read write) (xs : List α) :
    withDefault (fun value => value.items?.bind (·.mapM read)) [] (writing.list write xs) =
      some xs := by
  have hitems : withDefault (fun value => value.items?.bind (·.mapM read)) []
      (some (.arr (xs.map write))) = some xs := mapM_written h xs
  cases writing with
  | explicit => exact hitems
  | compact =>
    cases xs with
    | nil => rfl
    | cons x xs => exact hitems

end Field

namespace Record

variable (reading fields name)

@[simp] theorem required_ofFields (read : Json → Option α) :
    (ofFields reading fields).required read name = (fields.lookup name).join.bind read := rfl

@[simp] theorem withDefault_ofFields (read : Json → Option α) (default : α) :
    (ofFields reading fields).withDefault read default name =
      Field.withDefault read default (fields.lookup name).join := by
  unfold withDefault Field.withDefault
  rfl

@[simp] theorem text_ofFields : (ofFields reading fields).text name =
    Field.plain reading Json.text? "" (fields.lookup name).join := by
  cases reading with
  | lenient => exact withDefault_ofFields _ _ _ _ _
  | strict => rfl

@[simp] theorem optional_ofFields (read : Json → Option α) :
    (ofFields reading fields).optional read name =
      Field.optional read (fields.lookup name).join := by
  have hfield : (ofFields reading fields).field? name = (fields.lookup name).join := rfl
  rw [optional, hfield]
  cases (fields.lookup name).join with
  | none => rfl
  | some value => cases value <;> rfl

@[simp] theorem list_ofFields (read : Json → Option α) :
    (ofFields reading fields).list read name =
      Field.withDefault (fun value => value.items?.bind (·.mapM read)) []
        (fields.lookup name).join := withDefault_ofFields reading fields name _ _

end Record

/-! ## Records with a link -/

namespace Linkage

variable {own : List (String × Option Json)}

/-- Fields that can stand beside a link: their names are distinct, and none is that of a member of
a link. -/
structure IsApart (own : List (String × Option Json)) : Prop where
  nodup : (own.map (·.1)).Nodup
  apart : ∀ name ∈ members, name ∉ own.map (·.1)

@[simp] theorem isApart_iff :
    IsApart own ↔ (own.map (·.1)).Nodup ∧ ∀ name ∈ members, name ∉ own.map (·.1) :=
  ⟨fun h => ⟨h.nodup, h.apart⟩, fun h => ⟨h.1, h.2⟩⟩

/-- The names of a link are some of those that links have. -/
theorem names_sublist (l : Linkage) : (l.fields.map (·.1)).Sublist members := by
  cases l with
  | external => exact show ["externalProjectRef", "connectionSecret"].Sublist members by decide
  | project => exact show ["projectRef"].Sublist members by decide

theorem IsApart.nodup_append (h : IsApart own) (l : Linkage) :
    ((l.fields ++ own).map (·.1)).Nodup := by
  have hmembers : members.Nodup := by decide
  rw [List.map_append, List.nodup_append]
  refine ⟨hmembers.sublist l.names_sublist, h.nodup, fun name hl other hown heq => ?_⟩
  exact h.apart name (l.names_sublist.subset hl) (heq ▸ hown)

/-- What stands beside a link is found as if it stood alone. -/
@[simp] theorem lookup_fields_append (l : Linkage) (h : name ∉ members) :
    (l.fields ++ own).lookup name = own.lookup name := by
  have hl : l.fields.lookup name = none :=
    Assoc.lookup_eq_none fun hmem => h (l.names_sublist.subset hmem)
  rw [List.lookup_append, hl, Option.none_or]

@[simp] theorem linkedRecord?_ofFields (l : Linkage) (h : IsApart own) (names : List String) :
    (Json.ofFields (l.fields ++ own)).linkedRecord? names =
      some (.ofFields .strict (l.fields ++ own)) :=
  Json.record?_ofFields (h.nodup_append l) names

/-- A link is read back from among other fields. -/
@[simp] theorem ofJson?_ofFields (l : Linkage) (h : IsApart own) :
    ofJson? (.ofFields (l.fields ++ own)) = some l := by
  have hget (name : String) := Json.lookup_ofFields (h.nodup_append l) name
  cases l with
  | external projectId secret =>
    rw [ofJson?, hget, hget]
    rfl
  | project projectName space =>
    have hown : own.lookup "externalProjectRef" = none :=
      Assoc.lookup_eq_none (h.apart "externalProjectRef" (by decide))
    have href : projectRef? (.ofFields [("name", some (.str projectName)),
        ("namespace", space.map .str)]) = some (.project projectName space) := by
      simp [projectRef?, Assoc.lookup_cons]
    have houtside : (Json.ofFields ((project projectName space).fields ++ own)).get?
        "externalProjectRef" = none := by
      rw [hget]
      simp [fields, Assoc.lookup_cons, hown]
    rw [ofJson?, houtside, hget]
    exact href

end Linkage

end AtlasManifests
