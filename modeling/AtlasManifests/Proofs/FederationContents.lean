import AtlasManifests.Proofs.WrittenFields

/-! # What a federation asks for

A federation asks for an instance as it is.  The instance is written with every absent value as
`null` and every empty list as `[]`, and what is asked for, in records of its own, without them, so
one is the other compacted (`Json.compacted`).  What the two writings have to do with each other
(`Compacts`) is shown conversion by conversion, from the values at the leaves up; a federation then
differs in what only the control plane decides and in access to clouds that names none
(`Context.federation_asksAsIs`).
-/
namespace AtlasManifests

namespace Json

/-- Whether a value is as good as absent: `null` or `[]`. -/
def isVoid : Json → Bool
  | .null => true
  | .arr [] => true
  | _ => false

mutual

/-- A value without the void members of its objects, at every depth. -/
def compacted : Json → Json
  | .null => .null
  | .bool b => .bool b
  | .num n => .num n
  | .str s => .str s
  | .arr items => .arr (compactedItems items)
  | .obj members => .obj (compactedMembers members)

/-- The items of an array, each compacted. -/
def compactedItems : List Json → List Json
  | [] => []
  | item :: rest => item.compacted :: compactedItems rest

/-- The members of an object that are not void, each compacted. -/
def compactedMembers : List (String × Json) → List (String × Json)
  | [] => []
  | (name, value) :: rest =>
    if value.isVoid then compactedMembers rest
    else (name, value.compacted) :: compactedMembers rest

end

/-- What is left of the value of a member. -/
def kept? (value : Json) : Option Json := if value.isVoid then none else some value.compacted

/-- Whether access to clouds names AWS. -/
def hasAws (config : Json) : Bool := (config.get? "aws").any (!·.isNull)

theorem compactedItems_eq_map (items : List Json) :
    compactedItems items = items.map compacted := by
  induction items with
  | nil => rw [compactedItems, List.map_nil]
  | cons item rest ih => rw [compactedItems, ih, List.map_cons]

/-- To compact an object is to compact its fields. -/
theorem compacted_ofFields (fields : List (String × Option Json)) :
    (ofFields fields).compacted =
      ofFields (fields.map fun field => (field.1, field.2.bind kept?)) := by
  rw [ofFields, ofFields, compacted]
  congr 1
  induction fields with
  | nil => simp [compactedMembers]
  | cons field rest ih =>
    obtain ⟨name, value⟩ := field
    cases value with
    | none => simpa using ih
    | some value =>
      by_cases hvoid : value.isVoid = true
      · simpa [compactedMembers, kept?, hvoid] using ih
      · simpa [compactedMembers, kept?, hvoid] using ih

/-- Only the members of objects go; the items of an array stay, and so does what is empty then. -/
example :
    (obj [("a", .null), ("b", .arr []), ("c", .arr [.null, .obj [("d", .null)]])]).compacted =
      obj [("c", .arr [.null, .obj []])] := rfl

end Json

/-- What converted values are written as is the writing of the values themselves compacted, and
there is always something left. -/
structure Compacts {α β : Type} (write : α → Json) (write' : β → Json) (convert : α → β) :
    Prop where
  isVoid : ∀ a, (write a).isVoid = false
  compacted : ∀ a, (write a).compacted = write' (convert a)

namespace Compacts

variable {α β : Type} {write : α → Json} {write' : β → Json} {convert : α → β}

theorem kept? (h : Compacts write write' convert) (a : α) :
    (write a).kept? = some (write' (convert a)) := by
  rw [Json.kept?, h.isVoid, if_neg Bool.false_ne_true, h.compacted]

/-- An absent value is void if it is written at all. -/
theorem optional (h : Compacts write write' convert) {w : Writing} (x : Option α) :
    (w.optional write x).bind Json.kept? = Writing.compact.optional write' (x.map convert) := by
  cases x with
  | none => cases w <;> rfl
  | some a => exact h.kept? a

/-- An empty list is void; any other keeps its items. -/
theorem list (h : Compacts write write' convert) (xs : List α) :
    (Writing.explicit.list write xs).bind Json.kept? =
      Writing.compact.list write' (xs.map convert) := by
  cases xs with
  | nil => rfl
  | cons x xs =>
    have hitems : (Json.arr ((x :: xs).map write)).compacted =
        .arr (((x :: xs).map convert).map write') := by
      rw [Json.compacted, Json.compactedItems_eq_map, List.map_map, List.map_map]
      exact congrArg Json.arr (List.map_congr_left fun a _ => h.compacted a)
    exact congrArg some hitems

/-- Records are compacted field by field. -/
theorem record {fields : α → List (String × Option Json)}
    (h : ∀ a, Json.ofFields ((fields a).map fun field => (field.1, field.2.bind Json.kept?)) =
      write' (convert a)) : Compacts (fun a => .ofFields (fields a)) write' convert :=
  ⟨fun _ => rfl, fun a => (Json.compacted_ofFields _).trans (h a)⟩

/-! Plain values are not converted. -/

theorem str : Compacts Json.str Json.str id := ⟨fun _ => rfl, fun _ => by rw [Json.compacted, id]⟩

theorem bool : Compacts Json.bool Json.bool id :=
  ⟨fun _ => rfl, fun _ => by rw [Json.compacted, id]⟩

theorem int32 : Compacts Json.int32 Json.int32 id :=
  ⟨fun _ => rfl, fun _ => by rw [id, Json.int32, Json.int, Json.compacted]⟩

theorem optional_id (h : Compacts write write id) {w : Writing} (x : Option α) :
    (w.optional write x).bind Json.kept? = Writing.compact.optional write x := by
  rw [h.optional, Option.map_id, id]

theorem list_id (h : Compacts write write id) (xs : List α) :
    (Writing.explicit.list write xs).bind Json.kept? = Writing.compact.list write xs := by
  rw [h.list, List.map_id]

/-- A plain text stays. -/
theorem text (s : String) : (some (Json.str s)).bind Json.kept? = some (.str s) := str.kept? s

end Compacts

/-! ## The shapes of a federation -/

section shapes

open Compacts

theorem AwsAccessSpec.compacts : Compacts AwsAccess.toJson toJson ofAccess :=
  .record fun access => by
    simp only [List.map, str.optional_id]
    rfl

theorem CloudAccessSpec.compacts :
    Compacts CloudAccess.toJson toJson fun access => ⟨access.aws.map .ofAccess⟩ :=
  .record fun access => by
    simp only [List.map, AwsAccessSpec.compacts.optional]
    rfl

theorem ProcessingRegionSpec.compacts : Compacts ProcessingRegion.toJson toJson ofRegion :=
  .record fun region => by
    simp only [List.map, str.optional_id]
    rfl

theorem DataSourceSpec.compacts : Compacts DataSource.toJson toJson ofSource :=
  .record fun source => by
    simp only [List.map, str.optional_id, bool.optional_id, str.list_id]
    rfl

theorem CollectionSpec.compacts : Compacts Collection.toJson toJson ofCollection :=
  .record fun collection => by
    simp only [List.map, text, DataSourceSpec.compacts.list]
    rfl

theorem ViewSpec.compacts : Compacts View.toJson toJson ofView :=
  .record fun view => by
    simp only [List.map, text, str.optional_id]
    rfl

theorem DatabaseSpec.compacts : Compacts Database.toJson toJson ofDatabase :=
  .record fun database => by
    simp only [List.map, text, int32.optional_id, CollectionSpec.compacts.list,
      ViewSpec.compacts.list]
    rfl

theorem StoreSpec.compacts : Compacts Store.toJson toJson ofStore :=
  .record fun store => by
    simp only [List.map, text, str.list_id, str.optional_id, bool.optional_id]
    rfl

theorem StorageSpec.compacts : Compacts Storage.toJson toJson ofStorage :=
  .record fun storage => by
    simp only [List.map, DatabaseSpec.compacts.list, StoreSpec.compacts.list]
    rfl

end shapes

/-! ## Federations -/

theorem CloudAccess.hasAws_toJson (access : CloudAccess) :
    access.toJson.hasAws = access.aws.isSome := by
  have hnodup : fields.Nodup := by decide
  have haws : access.toJson.get? "aws" =
      Writing.explicit.optional AwsAccess.toJson access.aws :=
    Json.get?_ofFields_of_mem (by exact hnodup) (by simp)
  rw [Json.hasAws, haws]
  cases access.aws with
  | none => rfl
  | some aws => rfl

/-- Access to clouds is asked for part by part, unless it names none. -/
theorem CloudAccessSpec.bind_ofAccess? (config : Option CloudAccess) :
    config.bind ofAccess? =
      (config.filter (·.aws.isSome)).map fun access => ⟨access.aws.map .ofAccess⟩ := by
  cases config with
  | none => rfl
  | some access =>
    obtain ⟨aws⟩ := access
    cases aws with
    | none => rfl
    | some aws => rfl

/-- **A federation asks for an instance as it is.**  What is asked for in the manifest of an
instance, besides its project, is written as the instance itself, without its group and its state,
without access to clouds that does not name AWS, and without the members of objects that are `null`
or `[]`, at every depth. -/
theorem Context.federation_asksAsIs (ctx : Context) (source : Federation) :
    (ctx.federation source).spec.toJson.without Linkage.members =
      ((source.toJson.without ["groupId", "state"]).edit "cloudProviderConfig"
        (Option.guard Json.hasAws)).compacted := by
  rw [FederationSpec.toJson, Linkage.without_fields_append, Json.without_ofFields,
    Federation.toJson, Json.without_ofFields, Json.edit_ofFields, Json.compacted_ofFields]
  have haccess : ((Writing.explicit.optional CloudAccess.toJson source.cloudProviderConfig).bind
      (Option.guard Json.hasAws)).bind Json.kept? =
        Writing.compact.optional CloudAccessSpec.toJson
          (source.cloudProviderConfig.bind CloudAccessSpec.ofAccess?) := by
    rw [Writing.optional_bind_guard rfl CloudAccess.hasAws_toJson,
      CloudAccessSpec.compacts.optional, CloudAccessSpec.bind_ofAccess?]
  have hregion := ProcessingRegionSpec.compacts.optional (w := .explicit) source.dataProcessRegion
  have hstorage := StorageSpec.compacts.optional (w := .explicit) source.storage
  rw [Context.federation, Context.resource, ← haccess, ← hregion, ← hstorage]
  rfl

end AtlasManifests
