import AtlasManifests.Proofs.CatalogueLayouts
import AtlasManifests.Proofs.GreatestParts
import AtlasManifests.Proofs.MappingInverse
import AtlasManifests.Proofs.TypedForms

/-! # Tags that a definition declares

The content of an object stands in its `spec` below a tag, and a mapper is made for the tag only if
the definition has a place for it.  That place is looked up by a pointer which the tag is a part of,
so that a tag is read as steps (`Mapper.tagSteps`): a slash in it leads further down, and `~0` and
`~1` stand for other characters.  What is written has the tag as the name of a member, however.

A mapper is made exactly if the steps lead somewhere, and if not, the fault says which part of the
definition is not there (`Mapper.Lacks`).  That comes to the same as the definition declaring the
tag exactly for plain tags, which have neither slash nor escape in them
(`Mapper.make_declaresTag_iff`).
-/
namespace AtlasManifests

/-! ## Steps of a pointer -/

namespace Json

theorem length_pointerSteps (cs : List Char) :
    (pointerSteps cs).length = cs.count '/' + 1 := by
  induction cs with
  | nil => rfl
  | cons c rest ih =>
    by_cases hc : c = '/'
    · rw [pointerSteps, if_pos hc, hc, List.length_cons, ih, List.count_cons_self]
    · rw [pointerSteps, if_neg hc, List.count_cons_of_ne hc]
      cases hsteps : pointerSteps rest with
      | nil =>
        rw [hsteps] at ih
        cases ih
      | cons step later =>
        rw [hsteps] at ih
        exact ih

theorem pointerSteps_of_not_mem {cs : List Char} (h : '/' ∉ cs) : pointerSteps cs = [cs] := by
  induction cs with
  | nil => rfl
  | cons c rest ih =>
    obtain ⟨hc, hrest⟩ := not_or.mp (mt List.mem_cons.mpr h)
    rw [pointerSteps, if_neg (Ne.symm hc), ih hrest]

theorem length_unescapeStep_le (cs : List Char) : (unescapeStep cs).length ≤ cs.length := by
  fun_induction unescapeStep cs with
  | case1 rest ih => exact Nat.le_succ_of_le (Nat.succ_le_succ ih)
  | case2 rest ih => exact Nat.le_succ_of_le (Nat.succ_le_succ ih)
  | case3 c rest _ _ ih => exact Nat.succ_le_succ ih
  | case4 => exact Nat.le_refl _

/-- Only escapes are replaced. -/
theorem unescapeStep_eq_self_iff (cs : List Char) :
    unescapeStep cs = cs ↔ ¬ ['~', '0'] <:+: cs ∧ ¬ ['~', '1'] <:+: cs := by
  fun_induction unescapeStep cs with
  | case1 rest ih =>
    refine ⟨fun h => ?_, fun h => absurd (List.prefix_append ['~', '1'] rest).isInfix h.2⟩
    cases h
  | case2 rest ih =>
    refine ⟨fun h => ?_, fun h => absurd (List.prefix_append ['~', '0'] rest).isInfix h.1⟩
    -- what is left is too short to be what was there
    have hlength := length_unescapeStep_le rest
    rw [List.tail_eq_of_cons_eq h, List.length_cons] at hlength
    exact absurd hlength (Nat.not_succ_le_self _)
  | case3 c rest hslash htilde ih =>
    have h0 : ¬ ['~', '0'] <+: c :: rest := by
      rintro ⟨later, heq⟩
      obtain ⟨rfl, rfl⟩ := List.cons.inj heq
      exact htilde _ rfl rfl
    have h1 : ¬ ['~', '1'] <+: c :: rest := by
      rintro ⟨later, heq⟩
      obtain ⟨rfl, rfl⟩ := List.cons.inj heq
      exact hslash _ rfl rfl
    rw [List.cons_inj_right, ih, List.infix_cons_iff, List.infix_cons_iff]
    simp only [h0, h1, false_or]
  | case4 => simp

/-- A replaced escape shows as a slash or a tilde. -/
theorem unescapeStep_eq_self_of_not_mem {cs : List Char} (hslash : '/' ∉ unescapeStep cs)
    (htilde : '~' ∉ unescapeStep cs) : unescapeStep cs = cs := by
  fun_induction unescapeStep cs with
  | case1 rest ih => exact absurd List.mem_cons_self hslash
  | case2 rest ih => exact absurd List.mem_cons_self htilde
  | case3 c rest _ _ ih =>
    rw [ih (fun h => hslash (List.mem_cons_of_mem _ h)) fun h => htilde (List.mem_cons_of_mem _ h)]
  | case4 => rfl

end Json

/-- A definition declares a tag: the schema for `spec` in its first version has a member of the
name. -/
def Definition.DeclaresTag (d : Definition) (tag : String) : Prop :=
  ∃ spec, d.specSchema? = some spec ∧ (Schema.declared? spec tag).isSome = true

instance (d : Definition) (tag : String) : Decidable (d.DeclaresTag tag) :=
  decidable_of_iff ((d.specSchema?.any fun spec => (Schema.declared? spec tag).isSome) = true)
    (Option.any_eq_true _ _)

/-- The embedded definitions are in their typed form. -/
theorem Embedded.isTyped_of_mem {entry : String × String × Definition} (h : entry ∈ all) :
    entry.2.2.IsTyped := by
  have hall : ∀ entry ∈ all, Definition.ofJson? entry.2.2.typed = some entry.2.2 := by
    decide +kernel
  exact ⟨_, hall entry h⟩

theorem Embedded.isTyped_clusters : (clusters "2.10.0").IsTyped := by
  have hmem : ("2.10.0", "Cluster", clusters "2.10.0") ∈ all :=
    List.mem_cons_of_mem _ List.mem_cons_self
  exact isTyped_of_mem hmem

namespace Mapper

open Json

variable {registry : Registry} {definition : Option Definition} {d : Definition} {t : Mapper}
variable {tag : String} {spec : Json}

/-! ## Plain tags -/

/-- The steps that a tag is read as where its schema is looked up. -/
def tagSteps (tag : String) : List String :=
  (pointerSteps tag.toList).map fun step => String.ofList (unescapeStep step)

/-- A tag without slashes and escapes. -/
def IsPlainTag (tag : String) : Prop :=
  '/' ∉ tag.toList ∧ ¬ ['~', '0'] <:+: tag.toList ∧ ¬ ['~', '1'] <:+: tag.toList

/-- The tags that are read as themselves are the plain ones. -/
theorem tagSteps_eq_singleton_iff (tag : String) : tagSteps tag = [tag] ↔ IsPlainTag tag := by
  by_cases hslash : '/' ∈ tag.toList
  · refine ⟨fun h => ?_, fun h => absurd hslash h.1⟩
    have hlength := congrArg List.length h
    rw [tagSteps, List.length_map, length_pointerSteps] at hlength
    have hcount := List.count_pos_iff.mpr hslash
    rw [List.length_singleton] at hlength
    omega
  · rw [tagSteps, pointerSteps_of_not_mem hslash, List.map_singleton, List.singleton_inj,
      IsPlainTag, ← unescapeStep_eq_self_iff, String.ofList_eq]
    exact ⟨fun h => ⟨hslash, h⟩, fun h => h.2⟩

theorem tagSteps_ne_nil (tag : String) : tagSteps tag ≠ [] := by
  intro h
  have hlength := congrArg List.length h
  rw [tagSteps, List.length_map, length_pointerSteps] at hlength
  cases hlength

theorem isPlainTag_of_not_mem (hslash : '/' ∉ tag.toList) (htilde : '~' ∉ tag.toList) :
    IsPlainTag tag :=
  ⟨hslash, fun h => htilde (h.subset List.mem_cons_self),
    fun h => htilde (h.subset List.mem_cons_self)⟩

theorem pointer?_tag (spec : Json) (tag : String) :
    spec.pointer? ("/properties/" ++ tag) = spec.walk? ("properties" :: tagSteps tag) := by
  rw [pointer?, String.toList_append]
  rfl

/-- A plain tag leads to what the schema declares for it. -/
theorem walk?_of_isPlainTag (hspec : Shape.IsTyped .schema spec) (h : IsPlainTag tag) :
    spec.walk? ("properties" :: tagSteps tag) = Schema.declared? spec tag := by
  rw [(tagSteps_eq_singleton_iff tag).mpr h, walk?_cons_eq_bind (by decide), Schema.declared?,
    Schema.propertiesOf?]
  cases hproperties : spec.get? "properties" with
  | none => rfl
  | some properties =>
    obtain ⟨table, rfl, -⟩ := hspec.properties hproperties
    exact Option.bind_fun_some _

/-! ## What a mapper is made of -/

/-- What a definition lacks first of what a mapper for a tag is made of. -/
inductive Lacks (tag : String) : Option Definition → SetupFault → Prop
  | noDefinition : Lacks tag none .noDefinition
  | noVersions {d : Definition} (h : d.versions.head? = none) :
      Lacks tag (some d) (.noVersions d.name)
  | noSchema {d : Definition} {version : Json} (hversion : d.versions.head? = some version)
      (h : Definition.schemaOf? version = none) :
      Lacks tag (some d) (.noSchema d.name (Definition.versionName version))
  | noSpec {d : Definition} {version schema : Json} (hversion : d.versions.head? = some version)
      (hschema : Definition.schemaOf? version = some schema)
      (h : schema.walk? ["properties", "spec"] = none) :
      Lacks tag (some d) (.noSpec d.name (Definition.versionName version))
  | noTag {d : Definition} {version schema spec : Json} (hversion : d.versions.head? = some version)
      (hschema : Definition.schemaOf? version = some schema)
      (hspec : schema.walk? ["properties", "spec"] = some spec)
      (h : spec.walk? ("properties" :: tagSteps tag) = none) :
      Lacks tag (some d) (.noTag d.name (Definition.versionName version) tag)

/-- The steps of a tag lead somewhere in a definition. -/
def Leads (tag : String) (d : Definition) : Prop :=
  ∃ spec, d.specSchema? = some spec ∧ (spec.walk? ("properties" :: tagSteps tag)).isSome = true

theorem Lacks.make_eq_error {fault : SetupFault} (h : Lacks tag definition fault) :
    make registry definition tag = .error fault := by
  cases h with
  | noDefinition => rfl
  | noVersions h => simp only [make, h]
  | noSchema hversion h => simp only [make, hversion, h]
  | noSpec hversion hschema h => simp only [make, hversion, hschema, h]
  | noTag hversion hschema hspec h => simp only [make, hversion, hschema, hspec, pointer?_tag, h]

theorem Leads.exists_make_eq_ok (h : Leads tag d) (registry : Registry) :
    ∃ t, make registry (some d) tag = .ok t := by
  obtain ⟨spec, hspec, hwalk⟩ := h
  obtain ⟨version, hversion, hspec⟩ := Option.bind_eq_some_iff.mp hspec
  obtain ⟨schema, hschema, hspec⟩ := Option.bind_eq_some_iff.mp hspec
  obtain ⟨tagSchema, htag⟩ := Option.isSome_iff_exists.mp hwalk
  exact ⟨_, by simp only [make, hversion, hschema, hspec, pointer?_tag, htag]; rfl⟩

/-- A mapper is made, or something is not there that it is made of. -/
theorem make_cases (registry : Registry) (definition : Option Definition) (tag : String) :
    (∃ t, make registry definition tag = .ok t ∧ t.tag = tag ∧ ∃ d ∈ definition,
      d.specSchema? = some t.specSchema ∧
        t.specSchema.walk? ("properties" :: tagSteps tag) = some t.tagSchema) ∨
    ∃ fault, make registry definition tag = .error fault ∧ Lacks tag definition fault := by
  cases definition with
  | none => exact .inr ⟨_, rfl, .noDefinition⟩
  | some d =>
    rw [make]
    cases hversion : d.versions.head? with
    | none => exact .inr ⟨_, rfl, .noVersions hversion⟩
    | some version =>
      cases hschema : Definition.schemaOf? version with
      | none => exact .inr ⟨_, by simp only [hschema], .noSchema hversion hschema⟩
      | some schema =>
        cases hspec : schema.walk? ["properties", "spec"] with
        | none => exact .inr ⟨_, by simp only [hschema, hspec], .noSpec hversion hschema hspec⟩
        | some spec =>
          simp only [hschema, hspec, pointer?_tag]
          cases htag : spec.walk? ("properties" :: tagSteps tag) with
          | none => exact .inr ⟨_, rfl, .noTag hversion hschema hspec htag⟩
          | some tagSchema =>
            refine .inl ⟨_, rfl, rfl, d, rfl, ?_, htag⟩
            simp [Definition.specSchema?, hversion, hschema, hspec]

theorem make_eq_error_iff {fault : SetupFault} :
    make registry definition tag = .error fault ↔ Lacks tag definition fault := by
  refine ⟨fun h => ?_, fun h => h.make_eq_error⟩
  rcases make_cases registry definition tag with ⟨t, hmake, -⟩ | ⟨fault', hmake, hlacks⟩
  · cases h.symm.trans hmake
  · obtain rfl := Except.error.inj (h.symm.trans hmake)
    exact hlacks

theorem exists_make_eq_ok_iff :
    (∃ t, make registry definition tag = .ok t) ↔ ∃ d ∈ definition, Leads tag d := by
  constructor
  · rintro ⟨t, h⟩
    rcases make_cases registry definition tag with ⟨t, -, -, d, hd, hspec, htag⟩ | ⟨_, hmake, -⟩
    · exact ⟨d, hd, t.specSchema, hspec, Option.isSome_of_eq_some htag⟩
    · cases h.symm.trans hmake
  · rintro ⟨d, hd, h⟩
    obtain rfl := Option.mem_def.mp hd
    exact h.exists_make_eq_ok registry

/-- What a mapper that was made has from its definition. -/
theorem make_eq_ok (h : make registry (some d) tag = .ok t) :
    t.tag = tag ∧ d.specSchema? = some t.specSchema ∧
      t.specSchema.walk? ("properties" :: tagSteps tag) = some t.tagSchema := by
  rcases make_cases registry (some d) tag with ⟨t', hmake, htag, _, hd, hschema⟩ | ⟨_, hmake, -⟩
  · obtain rfl := Except.ok.inj (h.symm.trans hmake)
    obtain rfl := Option.some.inj hd
    exact ⟨htag, hschema⟩
  · cases h.symm.trans hmake

/-! ## Tags that are declared -/

theorem leads_iff_declaresTag (hd : d.IsTyped) (h : IsPlainTag tag) :
    Leads tag d ↔ d.DeclaresTag tag := by
  refine exists_congr fun spec => and_congr_right fun hspec => ?_
  rw [walk?_of_isPlainTag (hd.specSchema hspec) h]

/-- A definition that says nothing but that a tag may be there, as it may be read. -/
def onlyTag (tag : String) : Datum :=
  .map [(some "spec", .map [(some "versions", .list [.map [(some "schema", .map
    [(some "openAPIV3Schema", .map [(some "properties", .map [(some "spec", .map
      [(some "properties", .map [(some tag, .map [])])])])])])]])])]

theorem exists_onlyTag (tag : String) : ∃ d, Definition.ofDatum? (onlyTag tag) = some d ∧
    d.specSchema? = some (.obj [("properties", .obj [(tag, .empty)])]) :=
  ⟨_, rfl, rfl⟩

/-- Through a value with a single member, which is empty, only the name of the member leads. -/
theorem eq_singleton_of_walk? {steps : List String} (hne : steps ≠ [])
    (h : ((Json.obj [(tag, .empty)]).walk? steps).isSome = true) : steps = [tag] := by
  match steps with
  | [step] =>
    by_cases hstep : step = tag
    · rw [hstep]
    · change (([(tag, Json.empty)].lookup step).bind some).isSome = true at h
      rw [Assoc.lookup_cons, if_neg hstep] at h
      cases h
  | step :: next :: later =>
    change (([(tag, Json.empty)].lookup step).bind (·.walk? (next :: later))).isSome = true at h
    rw [Assoc.lookup_cons] at h
    split at h <;> cases h

/-- There is a definition that declares a tag but that a mapper is made by only if the tag is
plain. -/
theorem exists_declaresTag (tag : String) :
    ∃ d : Definition, d.IsTyped ∧ d.DeclaresTag tag ∧ (Leads tag d → IsPlainTag tag) := by
  obtain ⟨d, hd, hspec⟩ := exists_onlyTag tag
  refine ⟨d, ⟨_, hd⟩, ⟨_, hspec, ?_⟩, ?_⟩
  · show ([(tag, Json.empty)].lookup tag).isSome = true
    rw [Assoc.lookup_cons, if_pos rfl]
    rfl
  · rintro ⟨spec, hspec', hwalk⟩
    obtain rfl := Option.some.inj (hspec.symm.trans hspec')
    rw [Json.walk?_cons rfl] at hwalk
    exact (tagSteps_eq_singleton_iff tag).mp (eq_singleton_of_walk? (tagSteps_ne_nil tag) hwalk)

/-- **A mapper is made exactly if the steps of its tag lead somewhere** in the definition, and the
fault says what is lacking if it is not.  That comes to the same as the definition declaring the
tag, for all definitions, exactly if the tag is plain.  The content of what such a mapper writes
then stands in a member of `spec` that the definition declares, unless the secret that gives access
is written in its place. -/
theorem make_declaresTag_iff (tag : String) :
    (∀ registry definition, (∃ t, make registry definition tag = .ok t) ↔
      ∃ d ∈ definition, Leads tag d) ∧
    (∀ registry definition fault, make registry definition tag = .error fault ↔
      Lacks tag definition fault) ∧
    ((∀ registry definition, (∀ d ∈ definition, d.IsTyped) →
      ((∃ t, make registry definition tag = .ok t) ↔ ∃ d ∈ definition, d.DeclaresTag tag)) ↔
        IsPlainTag tag) ∧
    (IsPlainTag tag → ∀ registry d t, d.IsTyped → make registry (some d) tag = .ok t →
      t.tag = tag ∧ d.DeclaresTag tag ∧
        ∀ ctx, ¬ t.HidesPayload ctx → ∀ name source params refs,
          t.payloadOf? (t.toManifest ctx name source params refs) =
            some (t.payload ctx.independent refs source params)) := by
  refine ⟨fun _ _ => exists_make_eq_ok_iff, fun _ _ _ => make_eq_error_iff, ⟨?_, ?_⟩, ?_⟩
  · intro h
    obtain ⟨d, hd, hdeclares, hplain⟩ := exists_declaresTag tag
    have htyped : ∀ d' ∈ some d, d'.IsTyped := fun d' hd' => Option.some.inj hd' ▸ hd
    have hmade := (h .usual (some d) htyped).mpr ⟨d, rfl, hdeclares⟩
    obtain ⟨d', hd', hleads⟩ := exists_make_eq_ok_iff.mp hmade
    obtain rfl := Option.some.inj hd'
    exact hplain hleads
  · intro hplain registry definition htyped
    rw [exists_make_eq_ok_iff]
    exact exists_congr fun d => and_congr_right fun hd =>
      leads_iff_declaresTag (htyped d hd) hplain
  · intro hplain registry d t hd hmake
    obtain ⟨htag, hspec, hwalk⟩ := make_eq_ok hmake
    have hleads : Leads tag d := ⟨t.specSchema, hspec, Option.isSome_of_eq_some hwalk⟩
    refine ⟨htag, (leads_iff_declaresTag hd hplain).mp hleads, ?_⟩
    intro ctx hshown name source params refs
    exact payloadOf?_toManifest hshown source

/-- The tag of the embedded definitions is declared, and clusters are written below it. -/
theorem make_declaresTag_iff_clusters :
    ∃ t, make .usual (some (Embedded.clusters "2.10.0")) "v20250312" = .ok t ∧
      IsPlainTag "v20250312" ∧ (Embedded.clusters "2.10.0").DeclaresTag "v20250312" ∧
      ¬ t.HidesPayload (shopContext true) ∧
      t.payloadOf? (t.toManifest (shopContext true) "shop-orders" ordersJson [] shopIndex) =
        some (t.payload true shopIndex ordersJson []) := by
  obtain ⟨t, hmake, -⟩ := exists_of_any
    (x := make .usual (some (Embedded.clusters "2.10.0")) "v20250312") (p := fun _ => true)
    (by decide +kernel)
  have hplain : IsPlainTag "v20250312" := isPlainTag_of_not_mem (by decide) (by decide)
  obtain ⟨htag, hdeclares, hpayload⟩ :=
    (make_declaresTag_iff "v20250312").2.2.2 hplain .usual _ t Embedded.isTyped_clusters hmake
  have hshown : ¬ t.HidesPayload (shopContext true) := by
    rintro ⟨-, -, hsecret⟩
    exact absurd (htag.symm.trans hsecret) (by decide)
  exact ⟨t, hmake, hplain, hdeclares, hshown, hpayload _ hshown _ _ _ _⟩

/-- A tag with slashes in it that leads to the schema of the entry of clusters: there is a mapper
for the tag, and it writes a member of `spec` that is not declared. -/
theorem make_not_declaresTag_entry :
    (Embedded.clusters "2.10.0").IsTyped ∧
    ¬ (Embedded.clusters "2.10.0").DeclaresTag "v20250312/properties/entry" ∧
    ∃ t, make .usual (some (Embedded.clusters "2.10.0")) "v20250312/properties/entry" = .ok t ∧
      t.tag = "v20250312/properties/entry" ∧
      t.payloadOf? (t.toManifest (shopContext false) "shop-orders" ordersJson [] shopIndex) =
        some [] := by
  refine ⟨Embedded.isTyped_clusters, by decide +kernel, ?_⟩
  obtain ⟨t, hmake, hp⟩ := exists_of_any
    (x := make .usual (some (Embedded.clusters "2.10.0")) "v20250312/properties/entry")
    (p := fun t => decide (t.tag = "v20250312/properties/entry") && decide (t.payloadOf?
      (t.toManifest (shopContext false) "shop-orders" ordersJson [] shopIndex) = some []))
    (by decide +kernel)
  simp only [Bool.and_eq_true, decide_eq_true_eq] at hp
  exact ⟨t, hmake, hp⟩

end Mapper

end AtlasManifests
