import AtlasManifests.Mapping.Prune

/-! # What pruning yields

A schema treats all objects alike: it lets them through as they are, or their declared members, or
none of them (`prune_obj`, `prune_obj_rule`), and so it does with arrays.  It follows by induction
on the value that what is let through is let through again (`prune_of_prune`).
-/
namespace AtlasManifests.Schema

/-- Whether a schema lets objects through as they are: it keeps everything, or it declares no
members and leaves them open. -/
def keepsObjects (schema : Json) : Bool :=
  keepsUnknown schema || allowsObject schema && (propertiesOf? schema).isNone && isOpen schema

/-- An object comes through as it is, or with its declared members, or not at all. -/
theorem prune_obj (schema : Json) (members : List (String × Json)) :
    prune schema (.obj members) =
      if keepsObjects schema = true then some (.obj members)
      else if allowsObject schema = true then
        (propertiesOf? schema).map fun properties => .obj (pruneMembers properties members)
      else none := by
  rw [prune]
  cases hkeeps : keepsUnknown schema <;> cases hobject : allowsObject schema <;>
    cases hproperties : propertiesOf? schema <;> cases hopen : isOpen schema <;>
      simp [keepsObjects, hkeeps, hobject, hproperties, hopen]

/-- What a schema makes of an object is up to the schema. -/
theorem prune_obj_rule (schema : Json) :
    (∀ members, prune schema (.obj members) = some (.obj members)) ∨
      (∃ properties, ∀ members,
        prune schema (.obj members) = some (.obj (pruneMembers properties members))) ∨
      ∀ members, prune schema (.obj members) = none := by
  by_cases hkeeps : keepsObjects schema = true
  · exact .inl fun members => by rw [prune_obj, if_pos hkeeps]
  · by_cases hobject : allowsObject schema = true
    · cases hproperties : propertiesOf? schema with
      | some properties =>
        refine .inr (.inl ⟨properties, fun members => ?_⟩)
        rw [prune_obj, if_neg hkeeps, if_pos hobject, hproperties, Option.map_some]
      | none =>
        refine .inr (.inr fun members => ?_)
        rw [prune_obj, if_neg hkeeps, if_pos hobject, hproperties, Option.map_none]
    · exact .inr (.inr fun members => by rw [prune_obj, if_neg hkeeps, if_neg hobject])

/-- What a schema makes of an array is up to the schema. -/
theorem prune_arr_rule (schema : Json) :
    (∀ items, prune schema (.arr items) = some (.arr items)) ∨
      (∃ item, ∀ items, prune schema (.arr items) = some (.arr (pruneItems item items))) ∨
      ∀ items, prune schema (.arr items) = none := by
  by_cases hkeeps : keepsUnknown schema = true
  · exact .inl fun items => by rw [prune, if_pos hkeeps]
  · by_cases harray : (typeOf? schema != some "array") = true
    · exact .inr (.inr fun items => by rw [prune, if_neg hkeeps, if_pos harray])
    · cases hitem : schema.get? "items" with
      | some item =>
        refine .inr (.inl ⟨item, fun items => ?_⟩)
        rw [prune, if_neg hkeeps, if_neg harray, hitem, Option.map_some]
      | none =>
        refine .inr (.inr fun items => ?_)
        rw [prune, if_neg hkeeps, if_neg harray, hitem, Option.map_none]

mutual

/-- **What a schema lets through it lets through again**, at any depth. -/
theorem prune_of_prune {schema value kept : Json} (h : prune schema value = some kept) :
    prune schema kept = some kept := by
  cases value with
  | null => cases h
  | bool b | num n | str s =>
    obtain rfl := Option.some.inj h
    exact h
  | arr items =>
    rcases prune_arr_rule schema with hrule | ⟨item, hrule⟩ | hrule
    · obtain rfl := Option.some.inj ((hrule items).symm.trans h)
      exact hrule items
    · obtain rfl := Option.some.inj ((hrule items).symm.trans h)
      rw [hrule, pruneItems_pruneItems item items]
    · cases (hrule items).symm.trans h
  | obj members =>
    rcases prune_obj_rule schema with hrule | ⟨properties, hrule⟩ | hrule
    · obtain rfl := Option.some.inj ((hrule members).symm.trans h)
      exact hrule members
    · obtain rfl := Option.some.inj ((hrule members).symm.trans h)
      rw [hrule, pruneMembers_pruneMembers properties members]
    · cases (hrule members).symm.trans h

theorem pruneMembers_pruneMembers (properties members : List (String × Json)) :
    pruneMembers properties (pruneMembers properties members) =
      pruneMembers properties members := by
  cases members with
  | nil => rfl
  | cons head rest =>
    obtain ⟨name, value⟩ := head
    have hrest := pruneMembers_pruneMembers properties rest
    cases hschema : properties.lookup name with
    | none => simpa only [pruneMembers, hschema] using hrest
    | some schema =>
      cases hvalue : prune schema value with
      | none => simpa only [pruneMembers, hschema, hvalue] using hrest
      | some kept => simp only [pruneMembers, hschema, hvalue, prune_of_prune hvalue, hrest]

theorem pruneItems_pruneItems (schema : Json) (items : List Json) :
    pruneItems schema (pruneItems schema items) = pruneItems schema items := by
  cases items with
  | nil => rfl
  | cons item rest =>
    have hrest := pruneItems_pruneItems schema rest
    cases hitem : prune schema item with
    | none => simpa only [pruneItems, hitem] using hrest
    | some kept => simp only [pruneItems, hitem, prune_of_prune hitem, hrest]

end

/-- Pruning what is left of an object, or the empty object if nothing is left, changes nothing. -/
theorem prune_obj_getD (schema : Json) (members : List (String × Json)) :
    prune schema ((prune schema (.obj members)).getD .empty) = prune schema (.obj members) := by
  cases h : prune schema (.obj members) with
  | some kept => exact prune_of_prune h
  | none =>
    rcases prune_obj_rule schema with hrule | ⟨properties, hrule⟩ | hrule
    · cases (hrule members).symm.trans h
    · cases (hrule members).symm.trans h
    · exact hrule []

end AtlasManifests.Schema
