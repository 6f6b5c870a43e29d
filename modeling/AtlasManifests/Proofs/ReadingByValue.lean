import AtlasManifests.Definition.Catalogue
import AtlasManifests.Yaml.Resolve

/-! # What a value keeps of a text

A document that is read by its value first says what each of its texts means, and then only those
that mean themselves are texts.  So a value says less than what is read directly: it has the same
members in the same places, and each text that it has is the text that stands there
(`Yaml.Document.narrows_of_byValue?`).  What is lost are ambiguous texts, such as numbers, where a
text is expected.  For a definition this can cost the whole, but not turn it into one of another
kind: its kind by value is its kind, or empty (`Definition.kind_of_narrows`).
-/
namespace AtlasManifests

/-! ## Less of the same -/

/-- A text that is kept, or lost because it is ambiguous. -/
def TextNarrows (kept text : Option String) : Prop :=
  kept = text ∨ kept = none ∧ ∀ s, text = some s → Yaml.isAmbiguous s.toList = true

/-- What a single value keeps. -/
structure Facets.Narrows (f g : Facets) : Prop where
  text : TextNarrows f.text g.text
  absent : g.absent = true → f.absent = true

mutual

/-- A datum that keeps the members and the tags of another, and its texts as far as they are not
ambiguous.  Nothing is said of the items of lists. -/
inductive Datum.Narrows : Datum → Datum → Prop
  | leaf {f g : Facets} (h : f.Narrows g) : Narrows (.leaf f) (.leaf g)
  | list {items others : List Datum} : Narrows (.list items) (.list others)
  | map {members others : List (Option String × Datum)}
      (h : Datum.NarrowsMembers members others) : Narrows (.map members) (.map others)
  | tagged {tag : String} {v w : Datum} (h : Datum.Narrows v w) :
      Narrows (.tagged tag v) (.tagged tag w)

/-- The same for members, one by one. -/
inductive Datum.NarrowsMembers :
    List (Option String × Datum) → List (Option String × Datum) → Prop
  | nil : NarrowsMembers [] []
  | cons {key other : Option String} {v w : Datum}
      {members others : List (Option String × Datum)} (hkey : TextNarrows key other)
      (h : Datum.Narrows v w) (hrest : Datum.NarrowsMembers members others) :
      NarrowsMembers ((key, v) :: members) ((other, w) :: others)

end

namespace TextNarrows

variable {kept text : Option String} {word : String}

theorem refl (text : Option String) : TextNarrows text text := .inl rfl

/-- Words that are not ambiguous are kept. -/
theorem eq_some_iff (h : TextNarrows kept text) (hword : Yaml.isAmbiguous word.toList = false) :
    kept = some word ↔ text = some word := by
  rcases h with rfl | ⟨rfl, hambiguous⟩
  · exact Iff.rfl
  · refine ⟨fun h => (nomatch h), fun h => ?_⟩
    rw [hambiguous word h] at hword
    cases hword

/-- A text that is kept is the text. -/
theorem eq_of_some (h : TextNarrows (some word) text) : text = some word := by
  rcases h with h | ⟨h, _⟩
  · exact h.symm
  · cases h

end TextNarrows

namespace Datum

variable {v w : Datum}

theorem Narrows.text? : ∀ {v w : Datum}, v.Narrows w → TextNarrows v.text? w.text?
  | _, _, .leaf h => h.text
  | _, _, .list => .refl none
  | _, _, .map _ => .refl none
  | _, _, .tagged h => h.text?

theorem Narrows.withTag (tag : Option String) (h : v.Narrows w) :
    (Yaml.withTag tag v).Narrows (Yaml.withTag tag w) := by
  rw [Yaml.withTag, Yaml.withTag]
  split
  · exact h
  · exact .tagged h

end Datum

/-! ## Scalars -/

namespace Yaml

/-- A text that is not ambiguous means itself, and no tag makes anything else of it. -/
structure MeansItself (cs : List Char) : Prop where
  meaning : meaning cs = .text
  null : isNullWord cs = false
  truth : truth? cs = none
  integer : (integer? cs).filter fits128 = none
  real : real? cs = none

theorem meansItself_of_isAmbiguous {cs : List Char} (h : isAmbiguous cs = false) :
    MeansItself cs := by
  rw [isAmbiguous] at h
  split at h
  · next hmeaning =>
    have hsteps := hmeaning
    rw [meaning] at hsteps
    split at hsteps
    · cases hsteps
    · next hnull =>
      obtain ⟨_, hnull⟩ := not_or.mp (Bool.or_eq_true _ _ ▸ hnull)
      split at hsteps
      · cases hsteps
      · next htruth =>
        split at hsteps
        · cases hsteps
        · next hinteger =>
          rw [h, if_neg Bool.false_ne_true] at hsteps
          split at hsteps
          · cases hsteps
          · next hreal => exact ⟨hmeaning, eq_false_of_ne_true hnull, htruth, hinteger, hreal⟩
  · cases h

theorem fits128_of_valueFacets? {text : String} {n : Int} {f : Facets}
    (h : valueFacets? text (.whole n) = some f) : fits128 n = true := by
  rw [valueFacets?, Meaning.free?] at h
  split at h
  · rw [fits128, Bool.and_eq_true, decide_eq_true_iff, decide_eq_true_iff]
    omega
  · cases h

/-- A scalar that means anything but its text has an ambiguous text. -/
theorem isAmbiguous_of_scalarMeaning? {tag : Option String} {style : Style} {text : String}
    {m : Meaning} {f : Facets} (hm : scalarMeaning? tag style text.toList = some m)
    (hf : valueFacets? text m = some f) (htext : m ≠ .text) : isAmbiguous text.toList = true := by
  refine eq_true_of_ne_false fun hambiguous => ?_
  have hself := meansItself_of_isAmbiguous hambiguous
  rw [scalarMeaning?] at hm
  split at hm
  · obtain rfl := Option.some.inj hm
    split at htext
    · exact htext hself.meaning
    · exact htext rfl
  · split at hm
    · rw [hself.truth] at hm
      cases hm
    · split at hm
      · -- a whole number that has a value is one that plain texts can mean
        obtain ⟨n, hn, rfl⟩ := Option.map_eq_some_iff.mp hm
        have hinteger := hself.integer
        rw [hn, Option.filter_some, if_pos (fits128_of_valueFacets? hf)] at hinteger
        cases hinteger
      · split at hm
        · rw [hself.real] at hm
          cases hm
        · split at hm
          · rw [hself.null, if_neg Bool.false_ne_true] at hm
            cases hm
          · exact htext (Option.some.inj hm).symm

theorem text_of_valueFacets? {text : String} {m : Meaning} {f : Facets}
    (hf : valueFacets? text m = some f) : m = .text ∧ f.text = some text ∨ m ≠ .text ∧
      f.text = none := by
  obtain ⟨free, _, rfl⟩ := Option.map_eq_some_iff.mp hf
  cases m with
  | text => exact .inl ⟨rfl, rfl⟩
  | nothing => exact .inr ⟨fun h => (nomatch h), rfl⟩
  | truth b => exact .inr ⟨fun h => (nomatch h), rfl⟩
  | whole n => exact .inr ⟨fun h => (nomatch h), rfl⟩
  | real x => exact .inr ⟨fun h => (nomatch h), rfl⟩

/-- Where an optional field would be left out, a scalar means nothing. -/
theorem scalarMeaning?_of_absent {tag : Option String} {style : Style} {text : String}
    (h : (scalarFacets (if (localTag? tag).isSome then none else tag) style text).absent = true) :
    scalarMeaning? tag style text.toList = some .nothing := by
  obtain ⟨hplain, habsent⟩ := Bool.and_eq_true_iff.mp h
  have hplain : style = .plain := of_decide_eq_true hplain
  rw [scalarMeaning?, hplain]
  by_cases hfree : tag.isNone || (localTag? tag).isSome
  · have hnothing : text.toList.isEmpty || isNullWord text.toList := by
      rcases Bool.or_eq_true_iff.mp habsent with h | h
      · exact Bool.or_eq_true_iff.mpr (.inl (Bool.and_eq_true_iff.mp h).2)
      · exact Bool.or_eq_true_iff.mpr (.inr (Bool.and_eq_true_iff.mp h).2)
    rw [if_pos hfree, if_pos rfl, meaning, if_pos hnothing]
  · obtain ⟨hsome, hlocal⟩ := not_or.mp (mt Bool.or_eq_true_iff.mpr hfree)
    rw [if_neg hlocal, eq_false_of_ne_true hsome, Bool.false_and, Bool.false_or,
      Bool.false_or] at habsent
    obtain ⟨htag, hnull⟩ := Bool.and_eq_true_iff.mp habsent
    obtain rfl : tag = coreTag "null" := of_decide_eq_true htag
    rw [if_neg hfree, if_neg (by decide), if_neg (by decide), if_neg (by decide), if_pos rfl,
      if_pos hnull]

/-- What a scalar may be read as by its value is less than what it may be read as directly. -/
theorem valueFacets?_narrows {tag : Option String} {style : Style} {text : String}
    {m : Meaning} {f : Facets} (hm : scalarMeaning? tag style text.toList = some m)
    (hf : valueFacets? text m = some f) :
    f.Narrows (scalarFacets (if (localTag? tag).isSome then none else tag) style text) := by
  constructor
  · rcases text_of_valueFacets? hf with ⟨_, htext⟩ | ⟨hother, htext⟩
    · exact .inl htext
    · refine .inr ⟨htext, fun s hs => ?_⟩
      obtain rfl := Option.some.inj hs
      exact isAmbiguous_of_scalarMeaning? hm hf hother
  · intro habsent
    obtain rfl := Option.some.inj (hm.symm.trans (scalarMeaning?_of_absent habsent))
    obtain ⟨free, _, rfl⟩ := Option.map_eq_some_iff.mp hf
    rfl

namespace Document

variable {d : Document} {depth : Nat} {node : Node}

theorem text?_withTag (tag : Option String) (v : Datum) : (withTag tag v).text? = v.text? := by
  rw [withTag]
  split <;> rfl

theorem text?_direct (d : Document) (depth : Nat) (node : Node) :
    (d.direct depth node).text? = d.keyText? node := by
  rw [direct.eq_def, keyText?]
  cases d.follow node with
  | scalar tag style text => exact text?_withTag tag _
  | sequence tag items =>
    cases depth with
    | zero => rfl
    | succ depth => exact text?_withTag tag _
  | mapping tag members =>
    cases depth with
    | zero => rfl
    | succ depth => exact text?_withTag tag _
  | _ => rfl

/-- The members of a mapping, each read by its value. -/
theorem narrowsMembers_of_mapM {members : List (Node × Node)} {pairs : List (Datum × Datum)}
    (ih : ∀ {node v}, d.byValue? depth node = some v → v.Narrows (d.direct depth node))
    (h : (members.mapM fun (key, value) => do
      return (← d.byValue? depth key, ← d.byValue? depth value)) = some pairs) :
    Datum.NarrowsMembers (pairs.map fun (key, value) => (key.text?, value))
      (members.map fun (key, value) => (d.keyText? key, d.direct depth value)) := by
  induction members generalizing pairs with
  | nil =>
    obtain rfl := Option.some.inj h
    exact .nil
  | cons member members ihm =>
    obtain ⟨key, value⟩ := member
    rw [List.mapM_cons] at h
    obtain ⟨pair, hpair, h⟩ := Option.bind_eq_some_iff.mp h
    obtain ⟨rest, hrest, h⟩ := Option.bind_eq_some_iff.mp h
    obtain ⟨k, hk, hpair⟩ := Option.bind_eq_some_iff.mp hpair
    obtain ⟨v, hv, hpair⟩ := Option.bind_eq_some_iff.mp hpair
    obtain rfl := Option.some.inj hpair
    obtain rfl := Option.some.inj h
    refine .cons ?_ (ih hv) (ihm hrest)
    rw [← d.text?_direct depth key]
    exact (ih hk).text?

theorem narrows_of_scalar {tag : Option String} {style : Style} {text : String} {v : Datum}
    (hfollow : d.follow node = .scalar tag style text) (h : d.byValue? depth node = some v) :
    v.Narrows (d.direct depth node) := by
  rw [byValue?.eq_1 d node depth tag style text hfollow] at h
  rw [direct.eq_1 d node depth tag style text hfollow]
  obtain ⟨m, hm, h⟩ := Option.bind_eq_some_iff.mp h
  obtain ⟨f, hf, h⟩ := Option.bind_eq_some_iff.mp h
  obtain rfl := Option.some.inj h
  exact .withTag tag (.leaf (valueFacets?_narrows hm hf))

/-- **What is read by value is less of what is read directly.** -/
theorem narrows_of_byValue? {v : Datum} (h : d.byValue? depth node = some v) :
    v.Narrows (d.direct depth node) := by
  induction depth generalizing node v with
  | zero =>
    cases hfollow : d.follow node with
    | scalar tag style text => exact narrows_of_scalar hfollow h
    | _ =>
      rw [byValue?.eq_def, hfollow] at h
      cases h
  | succ depth ih =>
    cases hfollow : d.follow node with
    | scalar tag style text => exact narrows_of_scalar hfollow h
    | sequence tag items =>
      rw [byValue?.eq_def, hfollow] at h
      rw [direct.eq_def, hfollow]
      obtain ⟨values, _, h⟩ := Option.bind_eq_some_iff.mp h
      obtain rfl := Option.some.inj h
      exact .withTag tag .list
    | mapping tag members =>
      rw [byValue?.eq_def, hfollow] at h
      rw [direct.eq_def, hfollow]
      obtain ⟨pairs, hpairs, h⟩ := Option.bind_eq_some_iff.mp h
      split at h
      · obtain rfl := Option.some.inj h
        exact .withTag tag (.map (narrowsMembers_of_mapM ih hpairs))
      · cases h
    | _ =>
      rw [byValue?.eq_def, hfollow] at h
      cases h

end Document

/-- What a text may be read as by its value is less than what it may be read as directly. -/
theorem narrows_of_value? {text : String} {v w : Datum} (hv : value? text = some v)
    (hw : datum? text = some w) : v.Narrows w := by
  obtain ⟨d, hd, hv⟩ := Option.bind_eq_some_iff.mp hv
  obtain ⟨d', hd', rfl⟩ := Option.map_eq_some_iff.mp hw
  obtain rfl := Option.some.inj (hd.symm.trans hd')
  cases hroot : d.root with
  | none =>
    rw [hroot] at hv
    obtain rfl := Option.some.inj hv
    exact .leaf ⟨.refl none, fun h => h⟩
  | some root =>
    rw [hroot] at hv
    exact Document.narrows_of_byValue? hv

end Yaml

/-! ## Members -/

namespace Datum

variable {v w : Datum} {name : String} {members others : List (Option String × Datum)}

/-- The last member with a name. -/
def last? (name : String) : List (Option String × Datum) → Option Datum
  | [] => none
  | (key, value) :: rest =>
    match last? name rest with
    | some later => some later
    | none => if key = some name then some value else none

/-- What a record finds under a name: the last member, unless it counts as absent. -/
def held? (name : String) : Datum → Option Datum
  | map members => (last? name members).filter fun value => !value.isAbsent
  | tagged _ value => held? name value
  | _ => none

/-- A name that is not ambiguous leads to the same first member. -/
theorem NarrowsMembers.lookup (hname : Yaml.isAmbiguous name.toList = false)
    (h : NarrowsMembers members others) :
    Option.Rel Narrows (members.lookup (some name)) (others.lookup (some name)) := by
  induction members generalizing others with
  | nil =>
    cases h
    exact .none
  | cons member members ih =>
    obtain ⟨key, v⟩ := member
    cases h with
    | cons hkey hvalue hrest =>
      have hiff := hkey.eq_some_iff hname
      rw [List.lookup_cons, List.lookup_cons]
      by_cases hfound : key = some name
      · rw [beq_iff_eq.mpr hfound.symm, beq_iff_eq.mpr (hiff.mp hfound).symm]
        exact .some hvalue
      · rw [beq_eq_false_iff_ne.mpr (Ne.symm hfound),
          beq_eq_false_iff_ne.mpr (Ne.symm (mt hiff.mpr hfound))]
        exact ih hrest

/-- A name that is not ambiguous leads to the same last member. -/
theorem NarrowsMembers.last? (hname : Yaml.isAmbiguous name.toList = false)
    (h : NarrowsMembers members others) :
    Option.Rel Narrows (last? name members) (last? name others) := by
  induction members generalizing others with
  | nil =>
    cases h
    exact .none
  | cons member members ih =>
    obtain ⟨key, v⟩ := member
    cases h with
    | cons hkey hvalue hrest =>
      have hiff := hkey.eq_some_iff hname
      have hlater := ih hrest
      rw [Datum.last?, Datum.last?]
      generalize Datum.last? name members = later at hlater
      generalize Datum.last? name _ = later' at hlater
      cases hlater with
      | some h => exact .some h
      | none =>
        by_cases hfound : key = some name
        · simp only [if_pos hfound, if_pos (hiff.mp hfound)]
          exact .some hvalue
        · simp only [if_neg hfound, if_neg (mt hiff.mpr hfound)]
          exact .none

theorem Narrows.isAbsent (h : v.Narrows w) (habsent : w.isAbsent = true) : v.isAbsent = true := by
  cases h with
  | leaf h => exact h.absent habsent
  | list | map _ | tagged _ => cases habsent

theorem Narrows.held? (hname : Yaml.isAmbiguous name.toList = false) :
    ∀ {v w : Datum}, v.Narrows w → v.held? name = none ∨
      ∃ m n, v.held? name = some m ∧ w.held? name = some n ∧ m.Narrows n
  | _, _, .leaf _ => .inl rfl
  | _, _, .list => .inl rfl
  | _, _, .map h => by
    have hlast := h.last? hname
    rw [Datum.held?, Datum.held?]
    generalize Datum.last? name _ = m at hlast
    generalize Datum.last? name _ = n at hlast
    cases hlast with
    | none => exact .inl rfl
    | some hmn =>
      rename_i m n
      cases habsent : m.isAbsent with
      | true => exact .inl (by rw [Option.filter_some, habsent]; rfl)
      | false =>
        have hpresent : n.isAbsent = false :=
          eq_false_of_ne_true fun h => Bool.false_ne_true (habsent.symm.trans (hmn.isAbsent h))
        refine .inr ⟨m, n, ?_, ?_, hmn⟩
        · rw [Option.filter_some, habsent]
          rfl
        · rw [Option.filter_some, hpresent]
          rfl
  | _, _, .tagged h => h.held? hname

end Datum

/-! ## Fields of records -/

namespace Shape

variable {distinct : Bool} {fields : List (String × Presence × Shape)} {name : String}
  {default : Json} {shape : Shape}

/-- The member of a record for a field. -/
def member? (held : List (String × Option Json)) (field : String × Presence × Shape) :
    Option (String × Json) :=
  match held.lookup field.1 with
  | some (some value) => some (field.1, value)
  | _ => (Presence.default? field.2.1).map (field.1, ·)

theorem assemble_eq (fields : List (String × Presence × Shape))
    (held : List (String × Option Json)) :
    assemble fields held = .obj (fields.filterMap (member? held)) := rfl

theorem member?_plain (held : List (String × Option Json)) :
    member? held (name, .plain default, shape) =
      some (name, ((held.lookup name).bind id).getD default) := by
  rw [member?]
  rcases held.lookup name with _ | _ | value <;> rfl

theorem key_of_member? {held : List (String × Option Json)} {field : String × Presence × Shape}
    {entry : String × Json} (h : member? held field = some entry) : entry.1 = field.1 := by
  rw [member?] at h
  split at h
  · obtain rfl := Option.some.inj h
    rfl
  · obtain ⟨_, _, rfl⟩ := Option.map_eq_some_iff.mp h
    rfl

theorem get?_assemble (hfield : fields.lookup name = some (.plain default, shape))
    (held : List (String × Option Json)) :
    (assemble fields held).get? name = some (((held.lookup name).bind id).getD default) := by
  rw [assemble_eq, Json.get?]
  induction fields with
  | nil => cases hfield
  | cons field fields ih =>
    obtain ⟨n, presence, s⟩ := field
    rw [Assoc.lookup_cons] at hfield
    rw [List.filterMap_cons]
    by_cases hname : name = n
    · rw [if_pos hname] at hfield
      obtain ⟨rfl, rfl⟩ := Prod.mk.inj (Option.some.inj hfield)
      subst hname
      rw [member?_plain]
      exact List.lookup_cons_self
    · rw [if_neg hname] at hfield
      split
      · exact ih hfield
      · next entry hentry =>
        obtain ⟨key, value⟩ := entry
        have hkey : key = n := key_of_member? hentry
        rw [Assoc.lookup_cons, if_neg (hkey ▸ hname)]
        exact ih hfield

/-- What a record holds for a field, from the value of a member. -/
def valueOf? (presence : Presence) (shape : Shape) (datum : Datum) : Option (Option Json) :=
  match presence with
  | .optional => if datum.isAbsent then some none else (read shape datum).map some
  | .plain _ => if datum.isAbsent then some none else (read shape datum).map some
  | .kept => (read shape datum).map some
  | .constant fixed => if datum.text? = some fixed then some (some (.str fixed)) else none

theorem readMembers_cons (key : String) (datum : Datum) (rest : List (Option String × Datum)) :
    readMembers distinct fields ((some key, datum) :: rest) =
      (readMembers distinct fields rest).bind fun later =>
        match fields.lookup key with
        | none => some later
        | some (presence, shape) => (valueOf? presence shape datum).bind fun value =>
          if (later.lookup key).isSome then if distinct then none else some later
          else some ((key, value) :: later) := by
  rw [readMembers]
  refine Option.bind_congr fun later _ => ?_
  cases fields.lookup key with
  | none => rfl
  | some field =>
    obtain ⟨presence, shape⟩ := field
    cases presence with
    | optional | plain _ =>
      simp only [valueOf?]
      split <;> rfl
    | kept => rfl
    | constant fixed =>
      simp only [valueOf?]
      split <;> rfl

/-- What a record holds for a plain field is read from the last member of its name. -/
theorem lookup_readMembers (hfield : fields.lookup name = some (.plain default, shape))
    {members : List (Option String × Datum)} {held : List (String × Option Json)}
    (h : readMembers distinct fields members = some held) :
    match Datum.last? name members with
    | none => held.lookup name = none
    | some m => ∃ value, valueOf? (.plain default) shape m = some value ∧
        held.lookup name = some value := by
  induction members generalizing held with
  | nil =>
    obtain rfl := Option.some.inj h
    rfl
  | cons member rest ih =>
    obtain ⟨key, datum⟩ := member
    cases key with
    | none => cases h
    | some key =>
      rw [readMembers_cons] at h
      obtain ⟨later, hlater, h⟩ := Option.bind_eq_some_iff.mp h
      have ih := ih hlater
      rw [Datum.last?]
      by_cases hkey : key = name
      · -- a member of the field: a later one of the same name counts before it
        subst hkey
        rw [hfield] at h
        obtain ⟨value, hvalue, h⟩ := Option.bind_eq_some_iff.mp h
        cases hlast : Datum.last? key rest with
        | some m =>
          rw [hlast] at ih
          obtain ⟨x, hx, hlookup⟩ := ih
          rw [hlookup, Option.isSome_some, if_pos rfl] at h
          split at h
          · cases h
          · obtain rfl := Option.some.inj h
            exact ⟨x, hx, hlookup⟩
        | none =>
          rw [hlast] at ih
          simp only at ih
          rw [ih, Option.isSome_none, if_neg Bool.false_ne_true] at h
          obtain rfl := Option.some.inj h
          simp only [if_true]
          exact ⟨value, hvalue, List.lookup_cons_self⟩
      · -- any other member
        have hlookup : held.lookup name = later.lookup name := by
          split at h
          · obtain rfl := Option.some.inj h
            rfl
          · obtain ⟨value, _, h⟩ := Option.bind_eq_some_iff.mp h
            split at h
            · split at h
              · cases h
              · obtain rfl := Option.some.inj h
                rfl
            · obtain rfl := Option.some.inj h
              rw [Assoc.lookup_cons, if_neg (Ne.symm hkey)]
        have hother : ¬ some key = some name := fun heq => hkey (Option.some.inj heq)
        rw [hlookup, if_neg hother]
        cases hlast : Datum.last? name rest with
        | some m =>
          rw [hlast] at ih
          exact ih
        | none =>
          rw [hlast] at ih
          exact ih

/-- A plain field of what is read of a record is what its last member is read as, or its default
if there is no such member. -/
theorem get?_of_read (hfield : fields.lookup name = some (.plain default, shape)) :
    ∀ (v : Datum) {j : Json}, read (.record distinct fields) v = some j →
      ∃ x, j.get? name = some x ∧
        match v.held? name with
        | none => x = default
        | some m => read shape m = some x
  | .leaf f, j, h => by
    rw [read, ofLeaf?] at h
    split at h
    · obtain rfl := Option.some.inj h
      exact ⟨default, get?_assemble hfield [], rfl⟩
    · cases h
  | .list items, j, h => nomatch h
  | .map members, j, h => by
    rw [read] at h
    obtain ⟨held, hheld, rfl⟩ := Option.map_eq_some_iff.mp h
    have hlookup := lookup_readMembers hfield hheld
    refine ⟨_, get?_assemble hfield held, ?_⟩
    rw [Datum.held?]
    cases hlast : Datum.last? name members with
    | none =>
      rw [hlast] at hlookup
      simp only at hlookup
      rw [hlookup]
      rfl
    | some m =>
      rw [hlast] at hlookup
      obtain ⟨value, hvalue, hlookup⟩ := hlookup
      rw [hlookup, Option.filter_some]
      rw [valueOf?] at hvalue
      cases habsent : m.isAbsent with
      | true =>
        rw [habsent, if_pos rfl] at hvalue
        obtain rfl := Option.some.inj hvalue
        rfl
      | false =>
        rw [habsent, if_neg Bool.false_ne_true] at hvalue
        obtain ⟨x, hx, rfl⟩ := Option.map_eq_some_iff.mp hvalue
        exact hx
  | .tagged _ value, _, h => get?_of_read hfield value h

/-- A plain field by value has its default, or what both ways to read it give are read of one and
the same member. -/
theorem get?_of_narrows (name : String) (hname : Yaml.isAmbiguous name.toList = false)
    (hfield : fields.lookup name = some (.plain default, shape)) {v w : Datum}
    (h : v.Narrows w) {j k : Json} (hv : read (.record distinct fields) v = some j)
    (hw : read (.record distinct fields) w = some k) :
    j.get? name = some default ∨ ∃ m n x y, m.Narrows n ∧ read shape m = some x ∧
      read shape n = some y ∧ j.get? name = some x ∧ k.get? name = some y := by
  obtain ⟨x, hx, hreadx⟩ := get?_of_read hfield v hv
  obtain ⟨y, hy, hready⟩ := get?_of_read hfield w hw
  rcases h.held? hname with hnone | ⟨m, n, hm, hn, hmn⟩
  · rw [hnone] at hreadx
    obtain rfl : x = default := hreadx
    exact .inl hx
  · rw [hm] at hreadx
    rw [hn] at hready
    exact .inr ⟨m, n, x, y, hmn, hreadx, hready, hx, hy⟩

theorem read_text : ∀ v : Datum, read .text v = v.text?.map .str
  | .leaf _ => rfl
  | .list _ => rfl
  | .map _ => rfl
  | .tagged _ value => read_text value

/-- A text by value is the text. -/
theorem text_of_narrows {v w : Datum} (h : v.Narrows w) {x y : Json} (hx : read .text v = some x)
    (hy : read .text w = some y) : x = y := by
  rw [read_text] at hx hy
  obtain ⟨s, hs, rfl⟩ := Option.map_eq_some_iff.mp hx
  obtain ⟨t, ht, rfl⟩ := Option.map_eq_some_iff.mp hy
  have htext := h.text?
  rw [hs] at htext
  rw [Option.some.inj (htext.eq_of_some.symm.trans ht)]

end Shape

/-! ## Definitions -/

/-- What calls itself a definition directly calls itself one by its value. -/
theorem Catalogue.kindOf?_eq_some_iff {word : String}
    (hword : Yaml.isAmbiguous word.toList = false) :
    ∀ {v w : Datum}, v.Narrows w → (kindOf? v = some word ↔ kindOf? w = some word)
  | _, _, .leaf _ => Iff.rfl
  | _, _, .list => Iff.rfl
  | _, _, .map h => by
    have hkind : Yaml.isAmbiguous "kind".toList = false := by decide
    have hlookup := h.lookup hkind
    rw [kindOf?, kindOf?]
    generalize List.lookup (some "kind") _ = m at hlookup
    generalize List.lookup (some "kind") _ = n at hlookup
    cases hlookup with
    | none => exact Iff.rfl
    | some h => exact h.text?.eq_some_iff hword
  | _, _, .tagged h => by
    rw [kindOf?, kindOf?]
    exact kindOf?_eq_some_iff hword h

theorem Json.walk?_cons {j x : Json} {name : String} (h : j.get? name = some x)
    (steps : List String) : j.walk? (name :: steps) = x.walk? steps := by
  cases j with
  | obj members => exact congrArg (Option.bind · (walk? · steps)) h
  | null | bool _ | num _ | str _ | arr _ => cases h

/-- **The kind of a definition by value** is its kind, or empty. -/
theorem Definition.kind_of_narrows {v w : Datum} (h : v.Narrows w) {d d' : Definition}
    (hv : ofDatum? v = some d) (hw : ofDatum? w = some d') : d.kind = d'.kind ∨ d.kind = "" := by
  obtain ⟨j, hj, rfl⟩ := Option.map_eq_some_iff.mp hv
  obtain ⟨k, hk, rfl⟩ := Option.map_eq_some_iff.mp hw
  simp only [kind, textBelow]
  rcases Shape.get?_of_narrows "spec" (by decide) rfl h hj hk with
    hspec | ⟨m, n, jspec, kspec, hmn, hm, hn, hjspec, hkspec⟩
  · rw [Json.walk?_cons hspec]
    exact .inr rfl
  rcases Shape.get?_of_narrows "names" (by decide) rfl hmn hm hn with
    hnames | ⟨m, n, jnames, knames, hmn, hm, hn, hjnames, hknames⟩
  · rw [Json.walk?_cons hjspec, Json.walk?_cons hnames]
    exact .inr rfl
  rcases Shape.get?_of_narrows "kind" (by decide) rfl hmn hm hn with
    hkind | ⟨m, n, jkind, kkind, hmn, hm, hn, hjkind, hkkind⟩
  · rw [Json.walk?_cons hjspec, Json.walk?_cons hjnames, Json.walk?_cons hkind]
    exact .inr rfl
  · have hsame := Shape.text_of_narrows hmn hm hn
    rw [Json.walk?_cons hjspec, Json.walk?_cons hjnames, Json.walk?_cons hjkind,
      Json.walk?_cons hkspec, Json.walk?_cons hknames, Json.walk?_cons hkkind, hsame]
    exact .inl rfl

end AtlasManifests
