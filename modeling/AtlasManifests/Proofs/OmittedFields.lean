import AtlasManifests.Proofs.Records

/-! # Fields that are left out

An optional field of a record can be given as `null` or be left out.  Two values are alike as
records if each field of the one is alike to that of the other, where an optional field may be
`null` in the one and absent from the other (`Likeness.Record`); the order of members and unknown
members do not count.  Each way to read a field makes no difference between records that agree
(`Record.Agrees`), so neither does reading the records (`Respects.record`).
-/
namespace AtlasManifests

/-- When two values tell the same. -/
abbrev Likeness : Type := Json → Json → Prop

/-- What the fields of a record are. -/
structure Layout where
  /-- Whether an array of fields can end before an optional field. -/
  reading : Reading := .lenient
  names : List String
  /-- The fields that are not optional. -/
  plain : List String
  /-- When values of a field tell the same, if they need not be equal for that. -/
  parts : List (String × Likeness) := []
  /-- Every value tells the same as itself. -/
  parts_self : ∀ part : String × Likeness, part ∈ parts → ∀ j, part.2 j j := by simp

/-- When two values of a field tell the same. -/
def Layout.part (l : Layout) (name : String) : Likeness := (l.parts.lookup name).getD Eq

namespace Layout

variable (reading : Reading) (names plain : List String) (name : String)

@[simp] theorem part_nil
    (h : ∀ part : String × Likeness, part ∈ [] → ∀ j, part.2 j j) :
    part ⟨reading, names, plain, [], h⟩ name = Eq := by
  rw [part, List.lookup_nil, Option.getD_none]

@[simp] theorem part_cons (other : String) (alike : Likeness) (rest : List (String × Likeness))
    (h : ∀ part : String × Likeness, part ∈ (other, alike) :: rest → ∀ j, part.2 j j) :
    part ⟨reading, names, plain, (other, alike) :: rest, h⟩ name =
      if name = other then alike
      else part ⟨reading, names, plain, rest, (List.forall_mem_cons.mp h).2⟩ name := by
  rw [part, part, Assoc.lookup_cons]
  split
  · rw [Option.getD_some]
  · rfl

theorem part_self (l : Layout) (name : String) (j : Json) : l.part name j j := by
  rw [part]
  cases hpart : l.parts.lookup name with
  | none => rfl
  | some alike => exact l.parts_self _ (Assoc.mem_of_lookup hpart) j

end Layout

namespace Likeness

/-- When a field of two records tells the same: both have it or neither has, or one of them has
`null`, if the field can be left out. -/
inductive Field (alike : Likeness) (optional : Prop) : Option Json → Option Json → Prop
  | both {j j' : Json} (h : alike j j') : Field alike optional (some j) (some j')
  | neither : Field alike optional none none
  | left (h : optional) : Field alike optional (some .null) none
  | right (h : optional) : Field alike optional none (some .null)

/-- Records that tell the same, field by field: objects, and arrays that can both be records. -/
inductive Record (l : Layout) : Likeness
  | refl (j : Json) : Record l j j
  | members {ms ms' : List (String × Json)}
    (h : ∀ name ∈ l.names, Field (l.part name) (name ∉ l.plain) (ms.lookup name)
      (ms'.lookup name)) : Record l (.obj ms) (.obj ms')
  | items {xs ys : List Json} (hxs : xs.length ≤ l.names.length) (hys : ys.length ≤ l.names.length)
    (h : ∀ name ∈ l.names, Field (l.part name) (name ∉ l.plain ∧ l.reading = .lenient)
      ((l.names.zip xs).lookup name) ((l.names.zip ys).lookup name)) :
    Record l (.arr xs) (.arr ys)

/-- Lists that tell the same, item by item. -/
inductive Items (alike : Likeness) : Likeness
  | refl (j : Json) : Items alike j j
  | items {xs ys : List Json} (h : List.Forall₂ alike xs ys) : Items alike (.arr xs) (.arr ys)

attribute [simp] Record.refl Items.refl

end Likeness

/-- Values that tell the same are read as the same, and `null` tells nothing else. -/
structure Respects {α : Type} (read : Json → Option α) (alike : Likeness) : Prop where
  read_eq {j j' : Json} (h : alike j j') : read j = read j'
  null_iff {j j' : Json} (h : alike j j') : j = .null ↔ j' = .null

theorem Json.isNull_iff {j : Json} : j.isNull = true ↔ j = .null := by
  cases j <;> simp [isNull]

variable {α : Type} {read : Json → Option α} {alike : Likeness}

@[simp] theorem respects_eq (read : Json → Option α) : Respects read Eq where
  read_eq h := congrArg read h
  null_iff h := by rw [h]

namespace Respects

theorem mapM_eq (h : Respects read alike) {xs ys : List Json} (hall : List.Forall₂ alike xs ys) :
    xs.mapM read = ys.mapM read := by
  induction hall with
  | nil => rfl
  | cons hhead _ ih => rw [List.mapM_cons, List.mapM_cons, h.read_eq hhead, ih]

/-- Lists are read item by item. -/
@[simp] theorem items (h : Respects read alike) :
    Respects (fun value => value.items?.bind (·.mapM read)) (.Items alike) where
  read_eq hitems := by
    cases hitems with
    | refl => rfl
    | items hall => exact h.mapM_eq hall
  null_iff hitems := by
    cases hitems with
    | refl => rfl
    | items => exact iff_of_false nofun nofun

/-- `null` is read apart, and everything else as before. -/
theorem orNull (h : Respects read alike) :
    Respects (fun value => if value.isNull then some none else (read value).map some) alike where
  read_eq {j j'} halike := by
    have hisNull : j.isNull = j'.isNull := by
      rw [Bool.eq_iff_iff, Json.isNull_iff, Json.isNull_iff, h.null_iff halike]
    rw [hisNull, h.read_eq halike]
  null_iff := h.null_iff

end Respects

/-! ## Records that agree -/

/-- An optional field is read with `null` apart, if it is there. -/
theorem Record.optional_eq (r : Record) (read : Json → Option α) (name : String) :
    r.optional read name =
      (r.field? name).elim (if r.positional && r.reading == .strict then none else some none)
        fun value => if value.isNull then some none else (read value).map some := by
  rw [optional]
  cases r.field? name with
  | none => rfl
  | some value => cases value <;> rfl

/-- Records that are read in the same way and whose fields tell the same. -/
structure Record.Agrees (l : Layout) (r r' : Record) : Prop where
  reading_eq : r.reading = r'.reading
  positional_eq : r.positional = r'.positional
  field {name : String} (h : name ∈ l.names) :
    Likeness.Field (l.part name)
      (name ∉ l.plain ∧ (r.positional && r.reading == .strict) = false) (r.field? name)
      (r'.field? name)

namespace Record.Agrees

variable {l : Layout} {r r' : Record} {name : String} (h : r.Agrees l r') (hname : name ∈ l.names)

include h hname

/-- A field with a default is read alike if it cannot be left out, or if `null` stands for the
default. -/
theorem withDefault (hread : Respects read (l.part name)) (default : α)
    (hnull : name ∈ l.plain ∨ read .null = some default) :
    r.withDefault read default name = r'.withDefault read default name := by
  rw [Record.withDefault, Record.withDefault]
  have hfield := h.field hname
  generalize r.field? name = x at hfield ⊢
  generalize r'.field? name = y at hfield ⊢
  cases hfield with
  | both halike => exact hread.read_eq halike
  | neither => rfl
  | left hleft => exact hnull.resolve_left hleft.1
  | right hright => exact (hnull.resolve_left hright.1).symm

/-- A field with a default is read alike if it is `null` or left out, where both mean nothing. -/
theorem orNull (hread : Respects read (l.part name)) :
    r.withDefault (fun value => if value.isNull then some none else (read value).map some) none
        name =
      r'.withDefault (fun value => if value.isNull then some none else (read value).map some) none
        name := h.withDefault hname hread.orNull none (.inr rfl)

theorem required (hread : Respects read (l.part name)) (hplain : name ∈ l.plain) :
    r.required read name = r'.required read name := by
  rw [Record.required, Record.required]
  have hfield := h.field hname
  generalize r.field? name = x at hfield ⊢
  generalize r'.field? name = y at hfield ⊢
  cases hfield with
  | both halike => exact hread.read_eq halike
  | neither => rfl
  | left hleft => exact absurd hplain hleft.1
  | right hright => exact absurd hplain hright.1

theorem text (hread : Respects Json.text? (l.part name)) (hplain : name ∈ l.plain) :
    r.text name = r'.text name := by
  rw [Record.text, Record.text, Record.plain, Record.plain, ← h.reading_eq]
  cases r.reading with
  | lenient => exact h.withDefault hname hread "" (.inl hplain)
  | strict => exact h.required hname hread hplain

theorem list (hread : Respects (fun value => value.items?.bind (·.mapM read)) (l.part name))
    (hplain : name ∈ l.plain) : r.list read name = r'.list read name :=
  h.withDefault hname hread [] (.inl hplain)

/-- An optional field is read alike if it is `null` or left out. -/
theorem optional (hread : Respects read (l.part name)) :
    r.optional read name = r'.optional read name := by
  have hfield := h.field hname
  rw [Record.optional_eq, Record.optional_eq, ← h.positional_eq, ← h.reading_eq]
  generalize r.field? name = x at hfield ⊢
  generalize r'.field? name = y at hfield ⊢
  cases hfield with
  | both halike => exact hread.orNull.read_eq halike
  | neither => rfl
  | left hleft =>
    rw [hleft.2]
    rfl
  | right hright =>
    rw [hright.2]
    rfl

end Record.Agrees

namespace Respects

variable {l : Layout} {build : Record → Option α}

/-- A record is read alike from values that tell the same if the same is made of records that
agree. -/
theorem record (hread : ∀ j, read j = (j.record? l.reading l.names).bind build)
    (hbuild : ∀ r r', r.Agrees l r' → build r = build r') : Respects read (.Record l) where
  read_eq halike := by
    rw [hread, hread]
    cases halike with
    | refl => rfl
    | members h =>
      refine hbuild _ _ ⟨rfl, rfl, fun hname => ?_⟩
      simpa using h _ hname
    | items hxs hys h =>
      simp only [Json.record?, if_pos hxs, if_pos hys]
      refine hbuild _ _ ⟨rfl, rfl, fun hname => ?_⟩
      cases hreading : l.reading <;> simpa [hreading] using h _ hname
  null_iff halike := by
    cases halike with
    | refl => rfl
    | members => exact iff_of_false nofun nofun
    | items => exact iff_of_false nofun nofun

end Respects

/-! ## Fields that are not optional -/

theorem bind_of_eq_none {β : Type} {x : Option α} {f : α → Option β} (h : x = none) :
    (x >>= f) = none := by
  rw [h]
  rfl

theorem bind_of_forall {β : Type} {x : Option α} {f : α → Option β} (h : ∀ a, f a = none) :
    (x >>= f) = none := by
  cases x with
  | none => rfl
  | some a => exact h a

namespace Record

variable {r : Record} {name : String} (h : r.field? name = some .null)

include h

theorem withDefault_of_null (default : α) (hread : read .null = none) :
    r.withDefault read default name = none := by
  rw [withDefault, h]
  exact hread

theorem text_of_null : r.text name = none := by
  rw [text, plain]
  cases r.reading with
  | lenient => exact withDefault_of_null h "" rfl
  | strict =>
    rw [required, h]
    rfl

theorem list_of_null : r.list read name = none := withDefault_of_null h [] rfl

end Record

/-- `null` is refused for the fields that are not optional. -/
def Refuses (read : Json → Option α) (l : Layout) : Prop :=
  ∀ name ∈ l.plain, ∀ members : List (String × Json), members.lookup name = some .null →
    read (.obj members) = none

/-- A record is refused if nothing is made of a record with `null` for such a field. -/
theorem Refuses.record {l : Layout} {build : Record → Option α}
    (hread : ∀ j, read j = (j.record? l.reading l.names).bind build)
    (hbuild : ∀ r : Record, ∀ name ∈ l.plain, r.field? name = some .null → build r = none) :
    Refuses read l := by
  intro name hname members hnull
  rw [hread, Json.record?, Option.bind_some]
  exact hbuild _ name hname hnull

/-! ## Fields that are optional -/

namespace Likeness.Record

variable {l : Layout} {before after : List (String × Json)} {name : String}

/-- What two records have alike tells the same. -/
theorem field_self (name : String) (optional : Prop) (value : Option Json) :
    Field (l.part name) optional value value := by
  cases value with
  | none => exact .neither
  | some j => exact .both (l.part_self name j)

/-- **An optional field given as `null` tells the same as one that is left out**, whatever else the
record has. -/
theorem of_null (hoptional : name ∉ l.plain) (hbefore : name ∉ before.map (·.1))
    (hafter : name ∉ after.map (·.1)) :
    Record l (.obj (before ++ (name, .null) :: after)) (.obj (before ++ after)) := by
  have hnone : before.lookup name = none := Assoc.lookup_eq_none hbefore
  have hlater : after.lookup name = none := Assoc.lookup_eq_none hafter
  refine .members fun other _ => ?_
  rw [List.lookup_append, List.lookup_append, Assoc.lookup_cons]
  by_cases heq : other = name
  · rw [if_pos heq, heq, hnone, hlater]
    exact .left hoptional
  · rw [if_neg heq]
    exact field_self other _ _

/-- So does a field whose value tells the same. -/
theorem of_part {j j' : Json} (h : l.part name j j') :
    Record l (.obj (before ++ (name, j) :: after)) (.obj (before ++ (name, j') :: after)) := by
  refine .members fun other _ => ?_
  rw [List.lookup_append, List.lookup_append, Assoc.lookup_cons, Assoc.lookup_cons]
  by_cases heq : other = name
  · rw [if_pos heq, if_pos heq, heq]
    cases before.lookup name with
    | none => exact .both h
    | some value => exact field_self name _ (some value)
  · rw [if_neg heq, if_neg heq]
    exact field_self other _ _

end Likeness.Record

end AtlasManifests
