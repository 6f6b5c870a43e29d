import AtlasManifests.Proofs.Pruning
import Mathlib.Order.Bounds.Basic

/-! # Pruning keeps as much as a schema allows

Values are ordered by deletion: a part of a value is what is left when members of objects and items
of arrays are deleted, at any depth (`Json.IsPart`).  What a schema lets through can be said without
any of the steps of pruning: `Schema.Conforms` says which values are as the schema declares, and the
schema lets the greatest part through that is (`Schema.prune_eq_some_iff`).  One half of this is
that what comes through is a part that conforms (`isPart_of_prune`), the other that every part that
conforms is a part of what comes through (`exists_prune_of_isPart`); both go by induction on the
value.

Members that are null or not declared go unseen: values that differ in nothing else
(`Schema.Agree`) come through alike (`prune_eq_of_agree`).
-/
namespace AtlasManifests

/-! ## Parts of a value -/

namespace Json

mutual

/-- What is left of a value when members of its objects and items of its arrays are deleted, at any
depth. -/
inductive IsPart : Json → Json → Prop
  /-- Nothing is deleted. -/
  | same (value : Json) : IsPart value value
  /-- Items are deleted, or something in them. -/
  | arr {items others : List Json} (h : ArePartItems items others) :
      IsPart (.arr items) (.arr others)
  /-- Members are deleted, or something in them. -/
  | obj {members others : List (String × Json)} (h : ArePartMembers members others) :
      IsPart (.obj members) (.obj others)

/-- What is left of the items of an array. -/
inductive ArePartItems : List Json → List Json → Prop
  | nil : ArePartItems [] []
  | delete (item : Json) {items others : List Json} (h : ArePartItems items others) :
      ArePartItems items (item :: others)
  | keep {item other : Json} {items others : List Json} (hitem : IsPart item other)
      (h : ArePartItems items others) : ArePartItems (item :: items) (other :: others)

/-- What is left of the members of an object. -/
inductive ArePartMembers : List (String × Json) → List (String × Json) → Prop
  | nil : ArePartMembers [] []
  | delete (member : String × Json) {members others : List (String × Json)}
      (h : ArePartMembers members others) : ArePartMembers members (member :: others)
  | keep (name : String) {value other : Json} {members others : List (String × Json)}
      (hvalue : IsPart value other) (h : ArePartMembers members others) :
      ArePartMembers ((name, value) :: members) ((name, other) :: others)

end

theorem ArePartItems.refl (items : List Json) : ArePartItems items items := by
  induction items with
  | nil => exact .nil
  | cons item rest ih => exact .keep (.same item) ih

theorem ArePartMembers.refl (members : List (String × Json)) : ArePartMembers members members := by
  induction members with
  | nil => exact .nil
  | cons member rest ih => exact .keep member.1 (.same member.2) ih

/-- Parts of an array are arrays of parts. -/
theorem isPart_arr_iff {part : Json} {items : List Json} :
    IsPart part (.arr items) ↔ ∃ parts, part = .arr parts ∧ ArePartItems parts items := by
  constructor
  · rintro (_ | h)
    · exact ⟨items, rfl, .refl items⟩
    · exact ⟨_, rfl, h⟩
  · rintro ⟨parts, rfl, h⟩
    exact .arr h

/-- Parts of an object are objects of parts. -/
theorem isPart_obj_iff {part : Json} {members : List (String × Json)} :
    IsPart part (.obj members) ↔ ∃ parts, part = .obj parts ∧ ArePartMembers parts members := by
  constructor
  · rintro (_ | _ | h)
    · exact ⟨members, rfl, .refl members⟩
    · exact ⟨_, rfl, h⟩
  · rintro ⟨parts, rfl, h⟩
    exact .obj h

mutual

theorem IsPart.trans {a b c : Json} (hab : IsPart a b) (hbc : IsPart b c) : IsPart a c := by
  cases c with
  | null | bool _ | num _ | str _ =>
    cases hbc
    exact hab
  | arr items =>
    obtain ⟨_, rfl, hitems⟩ := isPart_arr_iff.mp hbc
    obtain ⟨_, rfl, hparts⟩ := isPart_arr_iff.mp hab
    exact .arr (hparts.trans hitems)
  | obj members =>
    obtain ⟨_, rfl, hmembers⟩ := isPart_obj_iff.mp hbc
    obtain ⟨_, rfl, hparts⟩ := isPart_obj_iff.mp hab
    exact .obj (hparts.trans hmembers)
termination_by structural c

theorem ArePartItems.trans {a b c : List Json} (hab : ArePartItems a b) (hbc : ArePartItems b c) :
    ArePartItems a c := by
  cases c with
  | nil =>
    cases hbc
    exact hab
  | cons item rest =>
    cases hbc with
    | delete _ hbc => exact .delete item (hab.trans hbc)
    | keep hitem hbc =>
      cases hab with
      | delete _ hab => exact .delete _ (hab.trans hbc)
      | keep hitem' hab => exact .keep (hitem'.trans hitem) (hab.trans hbc)
termination_by structural c

theorem ArePartMembers.trans {a b c : List (String × Json)} (hab : ArePartMembers a b)
    (hbc : ArePartMembers b c) : ArePartMembers a c := by
  cases c with
  | nil =>
    cases hbc
    exact hab
  | cons member rest =>
    obtain ⟨name, value⟩ := member
    cases hbc with
    | delete _ hbc => exact .delete _ (hab.trans hbc)
    | keep _ hvalue hbc =>
      cases hab with
      | delete _ hab => exact .delete _ (hab.trans hbc)
      | keep _ hvalue' hab => exact .keep name (hvalue'.trans hvalue) (hab.trans hbc)
termination_by structural c

end

mutual

/-- A deletion makes a value smaller. -/
theorem IsPart.eq_or_lt {a b : Json} (h : IsPart a b) : a = b ∨ sizeOf a < sizeOf b := by
  cases h with
  | same => exact .inl rfl
  | arr h =>
    rcases h.eq_or_lt with rfl | hlt
    · exact .inl rfl
    · exact .inr (by simp only [arr.sizeOf_spec]; omega)
  | obj h =>
    rcases h.eq_or_lt with rfl | hlt
    · exact .inl rfl
    · exact .inr (by simp only [obj.sizeOf_spec]; omega)

theorem ArePartItems.eq_or_lt {a b : List Json} (h : ArePartItems a b) :
    a = b ∨ sizeOf a < sizeOf b := by
  cases h with
  | nil => exact .inl rfl
  | delete item h =>
    have hle := h.eq_or_lt
    refine .inr ?_
    simp only [List.cons.sizeOf_spec]
    rcases hle with rfl | hlt <;> omega
  | keep hitem h =>
    rcases hitem.eq_or_lt, h.eq_or_lt with ⟨rfl | hitem, rfl | hlt⟩
    · exact .inl rfl
    all_goals
      refine .inr ?_
      simp only [List.cons.sizeOf_spec]
      omega

theorem ArePartMembers.eq_or_lt {a b : List (String × Json)} (h : ArePartMembers a b) :
    a = b ∨ sizeOf a < sizeOf b := by
  cases h with
  | nil => exact .inl rfl
  | delete member h =>
    have hle := h.eq_or_lt
    refine .inr ?_
    simp only [List.cons.sizeOf_spec]
    rcases hle with rfl | hlt <;> omega
  | keep name hvalue h =>
    rcases hvalue.eq_or_lt, h.eq_or_lt with ⟨rfl | hvalue, rfl | hlt⟩
    · exact .inl rfl
    all_goals
      refine .inr ?_
      simp only [List.cons.sizeOf_spec, Prod.mk.sizeOf_spec]
      omega

end

/-- Whether a value is a Boolean value, a number or a text. -/
def isScalar : Json → Bool
  | .bool _ | .num _ | .str _ => true
  | .null | .arr _ | .obj _ => false

/-- Values are ordered by what can be deleted from them. -/
instance : PartialOrder Json where
  le := IsPart
  le_refl := .same
  le_trans _ _ _ := .trans
  le_antisymm a b hab hba := by
    rcases hab.eq_or_lt with heq | hlt
    · exact heq
    · rcases hba.eq_or_lt with heq | hgt
      · exact heq.symm
      · exact absurd hlt hgt.asymm

end Json

/-! ## What conforms to a schema -/

namespace Schema

/-- A value that conforms to a schema holds what the schema declares and nothing else.  No object
conforms to a schema that neither declares members nor leaves them open, and null to none at all. -/
inductive Conforms : Json → Json → Prop
  /-- A schema that keeps everything holds for any value but null. -/
  | kept {schema value : Json} (hkeeps : keepsUnknown schema = true) (hvalue : value ≠ .null) :
      Conforms schema value
  /-- The members of an object are declared, and conform to what is declared of them. -/
  | declared {schema : Json} {properties members : List (String × Json)}
      (hobject : allowsObject schema = true) (hproperties : propertiesOf? schema = some properties)
      (hdeclared : ∀ m ∈ members, (properties.lookup m.1).isSome = true)
      (hmembers : ∀ m ∈ members, ∀ property, properties.lookup m.1 = some property →
        Conforms property m.2) :
      Conforms schema (.obj members)
  /-- No members are declared, but they are left open. -/
  | free {schema : Json} {members : List (String × Json)} (hobject : allowsObject schema = true)
      (hproperties : propertiesOf? schema = none) (hopen : isOpen schema = true) :
      Conforms schema (.obj members)
  /-- The items of an array conform to what is said of them. -/
  | items {schema item : Json} {items : List Json} (harray : typeOf? schema = some "array")
      (hitem : schema.get? "items" = some item) (hitems : ∀ v ∈ items, Conforms item v) :
      Conforms schema (.arr items)
  /-- A Boolean value, a number or a text. -/
  | scalar {schema value : Json} (hscalar : value.isScalar = true) : Conforms schema value

theorem keepsObjects_iff {schema : Json} : keepsObjects schema = true ↔
    keepsUnknown schema = true ∨
      allowsObject schema = true ∧ propertiesOf? schema = none ∧ isOpen schema = true := by
  simp [keepsObjects, and_assoc]

variable {schema value part kept : Json} {properties members : List (String × Json)}

theorem conforms_of_keepsObjects (hkeeps : keepsObjects schema = true)
    (members : List (String × Json)) : Conforms schema (.obj members) := by
  rcases keepsObjects_iff.mp hkeeps with hkeeps | ⟨hobject, hproperties, hopen⟩
  · exact .kept hkeeps (by simp)
  · exact .free hobject hproperties hopen

theorem not_conforms_null : ¬ Conforms schema .null := by
  rintro (⟨_, hvalue⟩ | _ | _ | _ | hscalar)
  · exact hvalue rfl
  · cases hscalar

/-! ## What comes through -/

mutual

/-- **What comes through is a part that conforms.** -/
theorem isPart_of_prune {schema value kept : Json} (h : prune schema value = some kept) :
    kept.IsPart value ∧ Conforms schema kept := by
  cases value with
  | null => cases h
  | bool _ | num _ | str _ =>
    obtain rfl := Option.some.inj h
    exact ⟨.same _, .scalar rfl⟩
  | arr items =>
    rw [prune] at h
    split at h
    · obtain rfl := Option.some.inj h
      exact ⟨.same _, .kept ‹_› (by simp)⟩
    · split at h
      · cases h
      · next harray =>
        obtain ⟨item, hitem, rfl⟩ := Option.map_eq_some_iff.mp h
        obtain ⟨hparts, hconforms⟩ := arePartItems_pruneItems item items
        exact ⟨.arr hparts, .items (by simpa using harray) hitem hconforms⟩
  | obj members =>
    rw [prune_obj] at h
    split at h
    · obtain rfl := Option.some.inj h
      exact ⟨.same _, conforms_of_keepsObjects ‹_› members⟩
    · split at h
      · obtain ⟨properties, hproperties, rfl⟩ := Option.map_eq_some_iff.mp h
        obtain ⟨hparts, hdeclared, hconforms⟩ := arePartMembers_pruneMembers properties members
        exact ⟨.obj hparts, .declared ‹_› hproperties hdeclared hconforms⟩
      · cases h
termination_by structural value

theorem arePartItems_pruneItems (item : Json) (items : List Json) :
    Json.ArePartItems (pruneItems item items) items ∧
      ∀ v ∈ pruneItems item items, Conforms item v := by
  cases items with
  | nil => exact ⟨.nil, by simp [pruneItems]⟩
  | cons head rest =>
    obtain ⟨hparts, hconforms⟩ := arePartItems_pruneItems item rest
    rw [pruneItems]
    cases hhead : prune item head with
    | none => exact ⟨.delete head hparts, hconforms⟩
    | some kept =>
      obtain ⟨hpart, hkept⟩ := isPart_of_prune hhead
      exact ⟨.keep hpart hparts, List.forall_mem_cons.mpr ⟨hkept, hconforms⟩⟩
termination_by structural items

theorem arePartMembers_pruneMembers (properties members : List (String × Json)) :
    Json.ArePartMembers (pruneMembers properties members) members ∧
      (∀ m ∈ pruneMembers properties members, (properties.lookup m.1).isSome = true) ∧
      ∀ m ∈ pruneMembers properties members, ∀ property,
        properties.lookup m.1 = some property → Conforms property m.2 := by
  cases members with
  | nil => exact ⟨.nil, by simp [pruneMembers], by simp [pruneMembers]⟩
  | cons head rest =>
    obtain ⟨name, value⟩ := head
    obtain ⟨hparts, hdeclared, hconforms⟩ := arePartMembers_pruneMembers properties rest
    cases hproperty : properties.lookup name with
    | none =>
      simp only [pruneMembers, hproperty]
      exact ⟨.delete _ hparts, hdeclared, hconforms⟩
    | some property =>
      cases hvalue : prune property value with
      | none =>
        simp only [pruneMembers, hproperty, hvalue]
        exact ⟨.delete _ hparts, hdeclared, hconforms⟩
      | some kept =>
        obtain ⟨hpart, hkept⟩ := isPart_of_prune hvalue
        simp only [pruneMembers, hproperty, hvalue]
        refine ⟨.keep name hpart hparts, List.forall_mem_cons.mpr ⟨by simp [hproperty], hdeclared⟩,
          List.forall_mem_cons.mpr ⟨fun other hother => ?_, hconforms⟩⟩
        obtain rfl := Option.some.inj (hproperty.symm.trans hother)
        exact hkept
termination_by structural members

end

mutual

/-- **A part that conforms is a part of what comes through.** -/
theorem exists_prune_of_isPart {schema value part : Json} (hpart : part.IsPart value)
    (h : Conforms schema part) : ∃ kept, prune schema value = some kept ∧ part.IsPart kept := by
  cases value with
  | null =>
    cases hpart
    exact absurd h not_conforms_null
  | bool _ | num _ | str _ => exact ⟨_, rfl, hpart⟩
  | arr items =>
    -- what a schema keeps as it is has all its parts
    by_cases hkeeps : keepsUnknown schema = true
    · exact ⟨_, by rw [prune, if_pos hkeeps], hpart⟩
    · obtain ⟨parts, rfl, hparts⟩ := Json.isPart_arr_iff.mp hpart
      cases h with
      | kept hkeeps' => exact absurd hkeeps' hkeeps
      | items harray hitem hitems =>
        refine ⟨_, ?_, .arr (arePartItems_of_conforms hparts hitems)⟩
        simp [prune, hkeeps, harray, hitem]
      | scalar hscalar => cases hscalar
  | obj members =>
    by_cases hkeeps : keepsObjects schema = true
    · exact ⟨_, by rw [prune_obj, if_pos hkeeps], hpart⟩
    · obtain ⟨parts, rfl, hparts⟩ := Json.isPart_obj_iff.mp hpart
      cases h with
      | kept hkeeps' => exact absurd (keepsObjects_iff.mpr (.inl hkeeps')) hkeeps
      | free hobject hproperties hopen =>
        exact absurd (keepsObjects_iff.mpr (.inr ⟨hobject, hproperties, hopen⟩)) hkeeps
      | declared hobject hproperties hdeclared hmembers =>
        refine ⟨_, ?_, .obj (arePartMembers_of_conforms hparts hdeclared hmembers)⟩
        rw [prune_obj, if_neg hkeeps, if_pos hobject, hproperties, Option.map_some]
      | scalar hscalar => cases hscalar
termination_by structural value

theorem arePartItems_of_conforms {item : Json} {parts items : List Json}
    (hparts : Json.ArePartItems parts items) (h : ∀ v ∈ parts, Conforms item v) :
    Json.ArePartItems parts (pruneItems item items) := by
  cases items with
  | nil =>
    cases hparts
    exact .nil
  | cons head rest =>
    rw [pruneItems]
    cases hparts with
    | delete _ hparts =>
      -- the part does without an item that may come through all the same
      have hrest := arePartItems_of_conforms hparts h
      cases prune item head with
      | none => exact hrest
      | some kept => exact .delete kept hrest
    | keep hhead hparts =>
      obtain ⟨hconforms, h⟩ := List.forall_mem_cons.mp h
      obtain ⟨kept, hkept, hpart⟩ := exists_prune_of_isPart hhead hconforms
      rw [hkept]
      exact .keep hpart (arePartItems_of_conforms hparts h)
termination_by structural items

theorem arePartMembers_of_conforms {properties parts members : List (String × Json)}
    (hparts : Json.ArePartMembers parts members)
    (hdeclared : ∀ m ∈ parts, (properties.lookup m.1).isSome = true)
    (h : ∀ m ∈ parts, ∀ property, properties.lookup m.1 = some property →
      Conforms property m.2) :
    Json.ArePartMembers parts (pruneMembers properties members) := by
  cases members with
  | nil =>
    cases hparts
    exact .nil
  | cons head rest =>
    obtain ⟨name, value⟩ := head
    cases hparts with
    | delete _ hparts =>
      have hrest := arePartMembers_of_conforms hparts hdeclared h
      cases hproperty : properties.lookup name with
      | none => simpa only [pruneMembers, hproperty] using hrest
      | some property =>
        cases hvalue : prune property value with
        | none => simpa only [pruneMembers, hproperty, hvalue] using hrest
        | some kept => simpa only [pruneMembers, hproperty, hvalue] using .delete (name, kept) hrest
    | keep _ hvalue hparts =>
      obtain ⟨hsome, hdeclared⟩ := List.forall_mem_cons.mp hdeclared
      obtain ⟨hconforms, h⟩ := List.forall_mem_cons.mp h
      obtain ⟨property, hproperty⟩ := Option.isSome_iff_exists.mp hsome
      obtain ⟨kept, hkept, hpart⟩ := exists_prune_of_isPart hvalue (hconforms property hproperty)
      simp only [pruneMembers, hproperty, hkept]
      exact .keep name hpart (arePartMembers_of_conforms hparts hdeclared h)
termination_by structural members

end

/-- **What comes through is the greatest part that conforms.** -/
theorem prune_eq_some_iff : prune schema value = some kept ↔
    IsGreatest {part | part ≤ value ∧ Conforms schema part} kept := by
  have hgreatest : ∀ kept, prune schema value = some kept →
      IsGreatest {part | part ≤ value ∧ Conforms schema part} kept := by
    intro kept h
    refine ⟨isPart_of_prune h, fun part ⟨hpart, hconforms⟩ => ?_⟩
    obtain ⟨kept', hkept', hle⟩ := exists_prune_of_isPart hpart hconforms
    obtain rfl := Option.some.inj (h.symm.trans hkept')
    exact hle
  refine ⟨hgreatest kept, fun h => ?_⟩
  obtain ⟨kept', hkept', _⟩ := exists_prune_of_isPart h.1.1 h.1.2
  rw [hkept', h.unique (hgreatest kept' hkept')]

/-! ## What goes unseen -/

/-- What a schema declares of a member. -/
def declared? (schema : Json) (name : String) : Option Json :=
  (propertiesOf? schema).bind fun properties => properties.lookup name

/-- What a schema says of the items of an array; it declares nothing if it says nothing. -/
def itemSchema (schema : Json) : Json := (schema.get? "items").getD .null

mutual

/-- Values that differ only in members that are null or not declared, outside what a schema lets
through as it is. -/
inductive Agree : Json → Json → Json → Prop
  | same (schema value : Json) : Agree schema value value
  | arr {schema : Json} {items others : List Json} (hkeeps : keepsUnknown schema = false)
      (h : AgreeItems (itemSchema schema) items others) : Agree schema (.arr items) (.arr others)
  | obj {schema : Json} {members others : List (String × Json)}
      (hkeeps : keepsObjects schema = false) (h : AgreeMembers schema members others) :
      Agree schema (.obj members) (.obj others)

/-- As many items, which differ only in such members. -/
inductive AgreeItems : Json → List Json → List Json → Prop
  | nil (schema : Json) : AgreeItems schema [] []
  | cons {schema item other : Json} {items others : List Json} (hitem : Agree schema item other)
      (h : AgreeItems schema items others) : AgreeItems schema (item :: items) (other :: others)

/-- The same members, but for some on either side that are null or not declared. -/
inductive AgreeMembers : Json → List (String × Json) → List (String × Json) → Prop
  | nil (schema : Json) : AgreeMembers schema [] []
  | left {schema value : Json} {name : String} {members others : List (String × Json)}
      (hunseen : value = .null ∨ declared? schema name = none)
      (h : AgreeMembers schema members others) :
      AgreeMembers schema ((name, value) :: members) others
  | right {schema value : Json} {name : String} {members others : List (String × Json)}
      (hunseen : value = .null ∨ declared? schema name = none)
      (h : AgreeMembers schema members others) :
      AgreeMembers schema members ((name, value) :: others)
  | both {schema property value other : Json} {name : String}
      {members others : List (String × Json)} (hproperty : declared? schema name = some property)
      (hvalue : Agree property value other) (h : AgreeMembers schema members others) :
      AgreeMembers schema ((name, value) :: members) ((name, other) :: others)

end

theorem declared?_of_properties (hproperties : propertiesOf? schema = some properties)
    (name : String) : declared? schema name = properties.lookup name := by
  rw [declared?, hproperties, Option.bind_some]

theorem pruneMembers_of_unseen {name : String}
    (hproperties : propertiesOf? schema = some properties)
    (h : value = .null ∨ declared? schema name = none) (members : List (String × Json)) :
    pruneMembers properties ((name, value) :: members) = pruneMembers properties members := by
  rw [declared?_of_properties hproperties] at h
  rcases h with rfl | h
  · -- null comes through no schema, so that it does not matter if the member is declared
    cases hproperty : properties.lookup name <;> simp [pruneMembers, hproperty, prune]
  · simp [pruneMembers, h]

mutual

/-- **What goes unseen makes no difference.** -/
theorem prune_eq_of_agree {schema value other : Json} (h : Agree schema value other) :
    prune schema other = prune schema value := by
  cases h with
  | same => rfl
  | @arr _ items others hkeeps h =>
    have hitems := pruneItems_eq_of_agree h
    cases hitem : schema.get? "items" with
    | none => simp [prune, hkeeps, hitem]
    | some item =>
      rw [itemSchema, hitem, Option.getD_some] at hitems
      simp [prune, hkeeps, hitem, hitems]
  | @obj _ members others hkeeps h =>
    have hmembers : ∀ properties, propertiesOf? schema = some properties →
        pruneMembers properties others = pruneMembers properties members :=
      fun _ hproperties => pruneMembers_eq_of_agree hproperties h
    rw [prune_obj, prune_obj, hkeeps, if_neg Bool.false_ne_true, if_neg Bool.false_ne_true]
    cases hproperties : propertiesOf? schema with
    | none => rfl
    | some properties => rw [Option.map_some, Option.map_some, hmembers properties hproperties]
termination_by sizeOf value + sizeOf other

theorem pruneItems_eq_of_agree {schema : Json} {items others : List Json}
    (h : AgreeItems schema items others) : pruneItems schema others = pruneItems schema items := by
  cases h with
  | nil => rfl
  | cons hitem h => rw [pruneItems, pruneItems, prune_eq_of_agree hitem, pruneItems_eq_of_agree h]
termination_by sizeOf items + sizeOf others

theorem pruneMembers_eq_of_agree {schema : Json} {properties members others : List (String × Json)}
    (hproperties : propertiesOf? schema = some properties)
    (h : AgreeMembers schema members others) :
    pruneMembers properties others = pruneMembers properties members := by
  cases h with
  | nil => rfl
  | left hunseen h =>
    rw [pruneMembers_of_unseen hproperties hunseen, pruneMembers_eq_of_agree hproperties h]
  | right hunseen h =>
    rw [pruneMembers_of_unseen hproperties hunseen, pruneMembers_eq_of_agree hproperties h]
  | both hproperty hvalue h =>
    rw [declared?_of_properties hproperties] at hproperty
    simp only [pruneMembers, hproperty, prune_eq_of_agree hvalue,
      pruneMembers_eq_of_agree hproperties h]
termination_by sizeOf members + sizeOf others

end

/-- **Pruning keeps as much as a schema allows and no more.**  Something comes through exactly if a
part of the value conforms to the schema, and it is then the greatest such part: all others are
parts of it.  So it comes through again unchanged, and values come through alike that differ only in
members that are null or not declared, outside what the schema lets through as it is. -/
theorem prune_isGreatest (schema value : Json) :
    ((prune schema value).isSome = true ↔ ∃ part ≤ value, Conforms schema part) ∧
    (∀ kept, prune schema value = some kept ↔
      IsGreatest {part | part ≤ value ∧ Conforms schema part} kept) ∧
    (∀ kept, prune schema value = some kept → prune schema kept = some kept) ∧
    ∀ other, Agree schema value other → prune schema other = prune schema value := by
  refine ⟨⟨fun h => ?_, fun ⟨part, hpart, hconforms⟩ => ?_⟩, fun _ => prune_eq_some_iff,
    fun _ => prune_of_prune, fun _ => prune_eq_of_agree⟩
  · obtain ⟨kept, hkept⟩ := Option.isSome_iff_exists.mp h
    exact ⟨kept, isPart_of_prune hkept⟩
  · obtain ⟨kept, hkept, _⟩ := exists_prune_of_isPart hpart hconforms
    rw [hkept, Option.isSome_some]

/-- A schema with every kind of declaration below it. -/
def orderSchema : Json := .obj [
  ("type", .str "object"),
  ("properties", .obj [
    ("extra", .obj [("x-kubernetes-preserve-unknown-fields", .bool true)]),
    ("labels", .obj [("additionalProperties", .bool true)]),
    ("name", .obj [("type", .str "string")]),
    ("place", .obj [("type", .str "object")]),
    ("tags", .obj [
      ("type", .str "array"),
      ("items", .obj [("properties", .obj [("key", .empty)])])])])]

/-- An order with some members that are unseen. -/
def order (unseen : List (String × Json)) : Json := .obj (unseen ++ [
  ("extra", .obj [("a", .null)]),
  ("labels", .obj [("b", .null)]),
  ("name", .str "Orders"),
  ("place", .empty),
  ("tags", .arr [.obj (("key", .bool true) :: unseen), .null, .arr []])])

/-- What comes through of it: no place, which no object could have, and of the tags the first. -/
def keptOrder : Json := .obj [
  ("extra", .obj [("a", .null)]),
  ("labels", .obj [("b", .null)]),
  ("name", .str "Orders"),
  ("tags", .arr [.obj [("key", .bool true)]])]

/-- Two orders that differ in a member that is null and in one that is not declared, and in the same
members of a tag, come through alike. -/
theorem prune_isGreatest_order :
    prune orderSchema (order []) = some keptOrder ∧
    IsGreatest {part | part ≤ order [] ∧ Conforms orderSchema part} keptOrder ∧
    prune orderSchema keptOrder = some keptOrder ∧
    Agree orderSchema (order []) (order [("name", .null), ("stateName", .str "IDLE")]) ∧
    prune orderSchema (order [("name", .null), ("stateName", .str "IDLE")]) = some keptOrder := by
  have hkept : prune orderSchema (order []) = some keptOrder := rfl
  have hagree : Agree orderSchema (order [])
      (order [("name", .null), ("stateName", .str "IDLE")]) := by
    refine .obj rfl (.right (.inl rfl) (.right (.inr rfl) ?_))
    refine .both rfl (.same _ _) (.both rfl (.same _ _) (.both rfl (.same _ _)
      (.both rfl (.same _ _) (.both rfl (.arr rfl (.cons ?_ ?_)) (.nil _)))))
    · exact .obj rfl (.both rfl (.same _ _) (.right (.inl rfl) (.right (.inr rfl) (.nil _))))
    · exact .cons (.same _ _) (.cons (.same _ _) (.nil _))
  obtain ⟨-, hgreatest, hagain, hsame⟩ := prune_isGreatest orderSchema (order [])
  exact ⟨hkept, (hgreatest _).mp hkept, hagain _ hkept, hagree, (hsame _ hagree).trans hkept⟩

end Schema

end AtlasManifests
