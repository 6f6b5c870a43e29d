import AtlasManifests.Proofs.LinkModes
import AtlasManifests.Proofs.Records

/-! # Fields of written objects

An object that is written field by field can be changed field by field: members that are left out
or edited are fields that are left out or edited (`Json.without_ofFields`, `Json.edit_ofFields`),
and a list whose items are edited one by one is the list of what they become
(`Writing.list_mapItems`).  What is under a name is what was written there
(`Json.get?_ofFields_of_mem`), and values that are read back are the same if they are written alike
(`Undoes.injective`).
-/
namespace AtlasManifests

namespace Json

/-- An object with a change made to what its members of a name hold.  Where nothing comes of the
change, the member is left out. -/
def edit (name : String) (change : Json → Option Json) : Json → Json
  | .obj members =>
    .obj (members.filterMap fun (n, value) =>
      if n = name then (change value).map (n, ·) else some (n, value))
  | j => j

/-- An array with a function applied to each of its items. -/
def mapItems (f : Json → Json) : Json → Json
  | .arr items => .arr (items.map f)
  | j => j

/-- Two values hold the same under each of some names. -/
def AgreeOn (names : List String) (j j' : Json) : Prop := ∀ name ∈ names, j.get? name = j'.get? name

variable (fields : List (String × Option Json)) (names : List String) (name : String)

/-- An object holds what its fields do. -/
theorem get?_ofFields_of_mem {fields : List (String × Option Json)} {name : String}
    {value : Option Json} (h : (fields.map (·.1)).Nodup) (hmem : (name, value) ∈ fields) :
    (ofFields fields).get? name = value := by
  rw [lookup_ofFields h, Assoc.lookup_of_mem h hmem, Option.join_some]

/-- To leave members out is to leave their fields out. -/
theorem without_ofFields : (ofFields fields).without names =
    ofFields (fields.filter fun field => !names.contains field.1) := by
  rw [ofFields, ofFields, without]
  congr 1
  induction fields with
  | nil => rfl
  | cons field rest ih =>
    obtain ⟨n, value⟩ := field
    by_cases hn : names.contains n = true
    · cases value <;> simp_all
    · cases value <;> simp_all

/-- To edit members is to edit their fields. -/
theorem edit_ofFields (change : Json → Option Json) : (ofFields fields).edit name change =
    ofFields (fields.map fun field =>
      (field.1, if field.1 = name then field.2.bind change else field.2)) := by
  rw [ofFields, ofFields, edit, List.filterMap_filterMap, List.filterMap_map]
  congr 2
  funext field
  obtain ⟨n, value⟩ := field
  by_cases hn : n = name
  · cases value <;> simp [hn]
  · cases value <;> simp [hn]

end Json

namespace Writing

variable {α β : Type} {write : α → Json} {write' : β → Json} {w : Writing}

/-- It does not matter which of two values is written that are written alike. -/
theorem optional_map {g : α → β} (h : ∀ a, write' (g a) = write a) (x : Option α) :
    w.optional write' (x.map g) = w.optional write x := by
  cases x with
  | none => rfl
  | some a => exact congrArg some (h a)

theorem list_map {g : α → β} (h : ∀ a, write' (g a) = write a) (xs : List α) :
    w.list write' (xs.map g) = w.list write xs := by
  have hitems : (xs.map g).map write' = xs.map write := by
    rw [List.map_map]
    exact List.map_congr_left fun a _ => h a
  cases w with
  | explicit => exact congrArg (fun items => some (Json.arr items)) hitems
  | compact =>
    cases xs with
    | nil => rfl
    | cons x xs => exact congrArg (fun items => some (Json.arr items)) hitems

/-- A value that does not pass a test is as good as absent. -/
theorem optional_bind_guard {p : Json → Bool} {q : α → Bool} (hnull : p .null = false)
    (h : ∀ a, p (write a) = q a) (x : Option α) :
    (w.optional write x).bind (Option.guard p) = compact.optional write (x.filter q) := by
  cases x with
  | none =>
    cases w with
    | explicit =>
      rw [optional, Option.bind_some, Option.guard, hnull,
        if_neg Bool.false_ne_true]
      rfl
    | compact => rfl
  | some a =>
    rw [optional, Option.bind_some, Option.guard, h, Option.filter_some]
    by_cases hq : q a = true
    · rw [if_pos hq, if_pos hq, optional]
    · rw [if_neg hq, if_neg hq, optional]

/-- The items of a list can be changed after they are written. -/
theorem list_mapItems (f : Json → Json) (xs : List α) :
    (w.list write xs).bind (fun items => some (items.mapItems f)) =
      w.list (fun a => f (write a)) xs := by
  have hitems : (Json.arr (xs.map write)).mapItems f = .arr (xs.map fun a => f (write a)) := by
    rw [Json.mapItems, List.map_map]
    rfl
  cases w with
  | explicit => exact congrArg some hitems
  | compact =>
    cases xs with
    | nil => rfl
    | cons x xs => exact congrArg some hitems

end Writing

/-- Values that are written alike are the same. -/
theorem Undoes.injective {α : Type} {read : Json → Option α} {write : α → Json}
    (h : Undoes read write) : Function.Injective write := by
  intro a b heq
  have hread := congrArg read heq
  rw [h.read_write, h.read_write] at hread
  exact Option.some.inj hread

/-- What a specification holds besides its link. -/
theorem Linkage.get?_ofFields_append (l : Linkage) {own : List (String × Option Json)}
    (h : IsApart own) {name : String} (hname : name ∉ members) :
    (Json.ofFields (l.fields ++ own)).get? name = (own.lookup name).join := by
  rw [Json.lookup_ofFields (h.nodup_append l), lookup_fields_append l hname]

end AtlasManifests
