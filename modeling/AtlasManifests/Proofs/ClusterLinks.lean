import AtlasManifests.Proofs.DeclaredMembers
import AtlasManifests.Proofs.DefinitionLookup
import AtlasManifests.Proofs.MatchingNames
import AtlasManifests.Proofs.ReferentialIntegrity

/-! # Links of mapped clusters

A mapped cluster says which group it belongs to in one of two ways: by a reference to the manifest
of the group, or by the id of the group.  The reference takes that the export has the group as well
and that objects are not independent; the id stands wherever there is no reference.  Independent
objects also name the secret that gives access.  By the embedded definitions, a cluster has one of
the two and never both (`Job.exported_clusters_linked`), unless its tag leads past what they declare
for clusters.  The secret comes with the id, but for clusters that are not independent and are
exported without groups: they have the id alone.
-/
namespace AtlasManifests

namespace Generated

/-- The members that stand below a tag. -/
def content (g : Generated) (tag : String) : List (String × Json) :=
  ((g.specMembers.lookup tag).bind Json.members?).getD []

/-- The reference to a group below a tag. -/
def groupRef? (g : Generated) (tag : String) : Option Json := (g.content tag).lookup "groupRef"

/-- The id of a group below a tag. -/
def groupId? (g : Generated) (tag : String) : Option Json := (g.content tag).lookup "groupId"

/-- An object has a link below a tag: a reference to its group if it refers to it, and otherwise the
id of the group.  If it is independent, then it names the secret as well. -/
structure IsLinked (g : Generated) (tag : String) (refers independent : Bool) : Prop where
  groupRef : (g.groupRef? tag).isSome = refers
  groupId : (g.groupId? tag).isSome = !refers
  secret : g.secretRef?.isSome = independent

/-- Links are a matter of what an object holds besides its metadata. -/
theorem IsLinked.of_data {g g' : Generated} {tag : String} {refers independent : Bool}
    (h : g'.IsLinked tag refers independent) (hdata : g.data = g'.data) :
    g.IsLinked tag refers independent := by
  have hspec : g.specMembers = g'.specMembers := by rw [specMembers, hdata, specMembers]
  have hcontent : g.content tag = g'.content tag := by rw [content, hspec, content]
  refine ⟨?_, ?_, ?_⟩
  · rw [groupRef?, hcontent, ← groupRef?, h.groupRef]
  · rw [groupId?, hcontent, ← groupId?, h.groupId]
  · rw [secretRef?, hspec, ← secretRef?, h.secret]

end Generated

/-! ## What the embedded definitions declare for clusters -/

/-- What is found among the embedded definitions is one of them. -/
theorem Catalogue.mem_of_find_embedded {kind version : String} {d : Definition}
    (h : embedded.find kind version = .ok d) : (version, kind, d) ∈ Embedded.all := by
  obtain ⟨file, ⟨before, after, heq, -⟩, ⟨rfl, rfl⟩, hread⟩ := find_split_eq_ok_iff.mp h
  have hfile : file ∈ before ++ file :: after := List.mem_append_cons_self
  rw [← heq] at hfile
  obtain ⟨⟨version, kind, definition⟩, hmem, rfl⟩ := List.mem_map.mp hfile
  obtain rfl := Except.ok.inj hread
  exact hmem

namespace Mapper

open Json

variable {t : Mapper} {ctx : Context} {refs : ReferenceIndex} {tag : String}

/-- A schema for `spec` declares the secret, and both forms of the link below everything else.  None
of its names is the result of an escape. -/
def declaresLinks (spec : Json) : Bool :=
  (Schema.declared? spec secretKey).isSome &&
    (Schema.propertiesOf? spec).any fun properties => properties.all fun (name, schema) =>
      !name.toList.contains '/' && !name.toList.contains '~' &&
        (name == secretKey || (Schema.declared? schema "groupRef").isSome &&
          (Schema.declared? schema "groupId").isSome)

theorem declaresLinks_embedded : ∀ entry ∈ Embedded.all,
    entry.2.1 = GeneratedKind.cluster.word → entry.2.2.specSchema?.any declaresLinks = true := by
  decide +kernel

/-- A mapper that has a place for both forms of the link of a cluster and for the secret. -/
structure Links (t : Mapper) : Prop where
  registry : t.registry = .usual
  tag_ne : t.tag ≠ secretKey
  secret : (t.specProperty? secretKey).isSome = true
  groupRef : (t.tagProperty? "groupRef").isSome = true
  groupId : (t.tagProperty? "groupId").isSome = true

/-- What a single step leads to is a declared member. -/
theorem mem_of_walk?_properties {spec schema : Json} {properties : List (String × Json)}
    {step : String} (hproperties : Schema.propertiesOf? spec = some properties)
    (h : spec.walk? ["properties", step] = some schema) : (step, schema) ∈ properties := by
  obtain ⟨value, hget, hmembers⟩ := Option.bind_eq_some_iff.mp hproperties
  rw [walk?_cons hget] at h
  cases value with
  | obj members =>
    obtain rfl := Option.some.inj hmembers
    obtain ⟨_, hlookup, hschema⟩ := Option.bind_eq_some_iff.mp h
    obtain rfl := Option.some.inj hschema
    exact Assoc.mem_of_lookup hlookup
  | null | bool _ | num _ | str _ | arr _ => cases hmembers

/-- A tag without slashes that a mapper is made for is the name of a declared member. -/
theorem links_of_make {d : Definition} (hmake : make .usual (some d) tag = .ok t)
    (hd : d.specSchema?.any declaresLinks = true) (hslash : '/' ∉ tag.toList)
    (htag : tag ≠ secretKey) : t.Links := by
  have hregistry : t.registry = .usual := (make_spec hmake).1
  obtain ⟨rfl, hspec, hwalk⟩ := make_eq_ok hmake
  rw [hspec, Option.any_some, declaresLinks, Bool.and_eq_true, Option.any_eq_true] at hd
  obtain ⟨hsecret, properties, hproperties, hall⟩ := hd
  rw [tagSteps, pointerSteps_of_not_mem hslash] at hwalk
  have hmem := mem_of_walk?_properties hproperties hwalk
  have hdeclared := List.all_eq_true.mp hall _ hmem
  simp only [String.toList_ofList, Bool.and_eq_true, Bool.not_eq_true', Bool.or_eq_true,
    beq_iff_eq, List.contains_eq_mem, decide_eq_false_iff_not] at hdeclared
  obtain ⟨⟨hnoSlash, hnoTilde⟩, hname⟩ := hdeclared
  rw [unescapeStep_eq_self_of_not_mem hnoSlash hnoTilde, String.ofList_toList,
    or_iff_right htag] at hname
  exact ⟨hregistry, htag, specProperty?_eq _ ▸ hsecret, tagProperty?_eq _ ▸ hname.1,
    tagProperty?_eq _ ▸ hname.2⟩

/-! ## The link of a cluster -/

theorem lookup_payload_singleton {independent : Bool} {source : Json} {param value name : String}
    (hname : name ≠ entryKey) :
    (t.payload independent refs source [(param, value)]).lookup name =
      (t.paramMember? independent refs param value).bind fun member =>
        if name = member.1 then some member.2 else none := by
  have hentry : (t.entryMembers source).lookup name = none := by
    refine Assoc.lookup_eq_none fun hkey => hname ?_
    obtain ⟨member, hmember, rfl⟩ := List.mem_map.mp hkey
    obtain ⟨_, _, rfl⟩ := List.mem_map.mp hmember
    rfl
  rw [payload_eq_insertAll, members, List.filterMap_cons, List.filterMap_nil]
  cases t.paramMember? independent refs param value with
  | none => exact hentry
  | some member =>
    refine (Assoc.lookup_insert _ _ _ _).trans ?_
    rw [hentry]
    rfl

/-- The member that says which group a cluster belongs to. -/
theorem Links.paramMember?_eq (h : t.Links) (independent : Bool) (refs : ReferenceIndex)
    (id : String) :
    t.paramMember? independent refs "groupId" id =
      match independent, refs.nameOf? GeneratedKind.group.word id with
      | false, some name => some ("groupRef", referenceJson name)
      | _, _ => some ("groupId", .str id) := by
  obtain ⟨schema, hschema⟩ := Option.isSome_iff_exists.mp h.groupId
  cases independent with
  | true => rw [paramMember?_of_independent, hschema, Option.map_some]
  | false =>
    cases hname : refs.nameOf? GeneratedKind.group.word id with
    | some name => rw [paramMember?_group h.registry hname, if_pos h.groupRef]
    | none =>
      have hreference : t.referenceFor? false refs "groupId" id = none := by
        rw [referenceFor?_groupId h.registry, hname]
        exact Option.bind_fun_none _
      rw [paramMember?, hreference, hschema, Option.map_some]

theorem content_toManifest (h : t.tag ≠ secretKey) (ctx : Context) (name : String) (source : Json)
    (params : List (String × String)) (refs : ReferenceIndex) :
    (t.toManifest ctx name source params refs).content t.tag =
      t.payload ctx.independent refs source params := by
  show (((t.specMembers ctx _).lookup t.tag).bind Json.members?).getD [] = _
  rw [lookup_specMembers_tag fun hhides => h hhides.2.2]
  rfl

theorem isSome_secretRef?_toManifest (h : t.tag ≠ secretKey) (ctx : Context) (name : String)
    (source : Json) (params : List (String × String)) (refs : ReferenceIndex) :
    (t.toManifest ctx name source params refs).secretRef?.isSome = true ↔
      ctx.independent = true ∧ (t.specProperty? secretKey).isSome = true := by
  show ((t.specMembers ctx _).lookup secretKey).isSome = true ↔ _
  rw [Assoc.lookup_isSome_iff, mem_keys_specMembers, or_iff_right (Ne.symm h), and_iff_right rfl]

/-- A cluster has a reference to its group, if it may refer to anything and the index has the
group. -/
theorem Links.cluster (h : t.Links) (ctx : Context) (refs : ReferenceIndex) (id : String)
    (c : Cluster) :
    (t.cluster ctx refs id c).object.IsLinked t.tag
      (!ctx.independent && (refs.nameOf? GeneratedKind.group.word id).isSome)
      ctx.independent := by
  have hlookup (name : String) (hname : name ≠ entryKey) :
      ((t.cluster ctx refs id c).object.content t.tag).lookup name =
        (t.paramMember? ctx.independent refs "groupId" id).bind fun member =>
          if name = member.1 then some member.2 else none :=
    (congrArg _ (content_toManifest h.tag_ne ctx _ _ _ refs)).trans (lookup_payload_singleton hname)
  simp only [h.paramMember?_eq] at hlookup
  refine ⟨?_, ?_, ?_⟩
  · rw [Generated.groupRef?, hlookup "groupRef" (by decide)]
    cases ctx.independent <;> cases refs.nameOf? GeneratedKind.group.word id <;> rfl
  · rw [Generated.groupId?, hlookup "groupId" (by decide)]
    cases ctx.independent <;> cases refs.nameOf? GeneratedKind.group.word id <;> rfl
  · rw [Bool.eq_iff_iff]
    exact (isSome_secretRef?_toManifest h.tag_ne ctx _ _ _ refs).trans (and_iff_left h.secret)

end Mapper

/-! ## The clusters of an export -/

/-- The generated cluster that a manifest is. -/
def Manifest.generatedCluster? : Manifest → Option Generated
  | generated g => if g.kind = GeneratedKind.cluster.word then some g else none
  | _ => none

theorem Manifest.generatedCluster?_eq_some {m : Manifest} {g : Generated} :
    m.generatedCluster? = some g ↔ m = generated g ∧ g.kind = GeneratedKind.cluster.word := by
  cases m with
  | generated g' =>
    rw [generatedCluster?, Option.ite_none_right_eq_some, Manifest.generated.injEq,
      Option.some_inj, and_comm]
    exact and_congr_right fun heq => by rw [heq]
  | _ => simp [generatedCluster?]

namespace Findings

variable {f : Findings} {job : Job}

/-- The generated clusters of an export are those that were mapped. -/
theorem exists_cluster_of_mem {g : Generated} (hkinds : job.catalogue.KeepsKinds)
    (hf : job.Finds f) (hg : Manifest.generated g ∈ f.manifests job)
    (hkind : g.kind = GeneratedKind.cluster.word) :
    ∃ t clusters c, f.clusterMapping = some (t, clusters) ∧
      g.data = (t.cluster (f.ctx job) (.ofMapped (f.groupObjects job))
        job.config.projectId c).object.data := by
  have hmem : Manifest.generated g ∈ Manifest.generatedOf .cluster (f.manifests job) :=
    List.mem_filter.mpr ⟨hg, Bool.and_eq_true_iff.mpr ⟨rfl, beq_iff_eq.mpr hkind⟩⟩
  rw [(generatedOf_manifests hkinds hf).2] at hmem
  obtain ⟨o, ho, hwithin⟩ := List.mem_map.mp hmem
  obtain ⟨⟨t, clusters⟩, ht, ho⟩ := List.mem_flatMap.mp ho
  obtain ⟨c, -, rfl⟩ := List.mem_map.mp ho
  obtain rfl := Manifest.generated.inj hwithin
  exact ⟨t, clusters, c, Option.mem_toList.mp ht, rfl⟩

/-- The group of the project is in the index exactly if groups are selected. -/
theorem isSome_nameOf?_groupObjects (hkinds : job.catalogue.KeepsKinds) (hf : job.Finds f) :
    ((ReferenceIndex.ofMapped (f.groupObjects job)).nameOf? GeneratedKind.group.word
      job.config.projectId).isSome = job.config.exportsGenerated .group := by
  have hmapper := hf.groupMapper
  cases ht : f.groupMapper with
  | none =>
    rw [ht] at hmapper
    rw [groupObjects, ht, hmapper]
    rfl
  | some t =>
    rw [ht] at hmapper
    obtain ⟨config, hconfig, hkind, -⟩ := hmapper
    rw [nameOf?_groupObjects hkinds hf ht, Job.exportsGenerated_iff.mpr ⟨config, hconfig, hkind⟩]
    rfl

end Findings

namespace Job

/-- What can be computed of some cluster of an export holds of it. -/
theorem exists_cluster_of_any (job : Job) (p : Generated → Bool)
    (h : job.exported.result.toOption.any
      (fun manifests => manifests.any fun m => m.generatedCluster?.any p) = true) :
    ∃ manifests g, job.exported.result = .ok manifests ∧ Manifest.generated g ∈ manifests ∧
      g.kind = GeneratedKind.cluster.word ∧ p g = true := by
  obtain ⟨manifests, hmanifests, hany⟩ := job.exists_of_any _ h
  obtain ⟨m, hm, hg⟩ := List.any_eq_true.mp hany
  obtain ⟨g, hg, hp⟩ := (Option.any_eq_true _ _).mp hg
  obtain ⟨rfl, hkind⟩ := Manifest.generatedCluster?_eq_some.mp hg
  exact ⟨manifests, g, hmanifests, hm, hkind, hp⟩

/-- **Clusters are linked to their group in exactly one way**, by the embedded definitions: by a
reference if objects are not independent and groups are exported too, and by its id otherwise.  The
secret is named exactly by independent objects.  So it comes with the id, unless objects are not
independent and groups are not exported. -/
theorem exported_clusters_linked {job : Job} {manifests : List Manifest}
    (hcatalogue : job.catalogue = .embedded) (hregistry : job.registry = .usual)
    (htag : ∀ config ∈ job.config.generated,
      '/' ∉ config.apiTag.toList ∧ config.apiTag ≠ Mapper.secretKey)
    (h : job.exported.result = .ok manifests) :
    ∀ g, Manifest.generated g ∈ manifests → g.kind = GeneratedKind.cluster.word →
      ∃ config ∈ job.config.generated,
        g.IsLinked config.apiTag
          (!job.config.independent && job.config.exportsGenerated .group)
          job.config.independent ∧
        (g.secretRef?.isSome = (g.groupId? config.apiTag).isSome ↔
          job.config.independent = true ∨ job.config.exportsGenerated .group = true) := by
  intro g hg hkind
  obtain ⟨f, hf, rfl⟩ := exported_eq_ok_iff.mp h
  have hkinds : job.catalogue.KeepsKinds := hcatalogue ▸ Catalogue.keepsKinds_embedded
  obtain ⟨t, clusters, c, ht, hdata⟩ := Findings.exists_cluster_of_mem hkinds hf hg hkind
  obtain ⟨config, hconfig, -, hmapper⟩ := hf.mapsBy_cluster ht
  rw [Job.mapper, hcatalogue, hregistry] at hmapper
  obtain ⟨d, hd, hmake⟩ := Catalogue.exists_make_of_mapper hmapper
  have hdeclares := Mapper.declaresLinks_embedded _ (Catalogue.mem_of_find_embedded hd) rfl
  obtain ⟨hslash, hsecret⟩ := htag config hconfig
  have hlinks : t.Links := Mapper.links_of_make hmake hdeclares hslash hsecret
  have hlinked := (hlinks.cluster (f.ctx job) (.ofMapped (f.groupObjects job))
    job.config.projectId c).of_data hdata
  rw [(Mapper.make_eq_ok hmake).1, Findings.isSome_nameOf?_groupObjects hkinds hf] at hlinked
  refine ⟨config, hconfig, hlinked, ?_⟩
  rw [hlinked.secret, hlinked.groupId]
  show job.config.independent = (!(!job.config.independent && _)) ↔ _
  cases job.config.independent <;> cases job.config.exportsGenerated .group <;> decide

/-- The clusters of a project refer to its group, which is exported before. -/
theorem exported_clusters_linked_small : ∃ manifests g,
    (∀ config ∈ (Job.small "Shop").config.generated,
      '/' ∉ config.apiTag.toList ∧ config.apiTag ≠ Mapper.secretKey) ∧
    (Job.small "Shop").exported.result = .ok manifests ∧ Manifest.generated g ∈ manifests ∧
    g.kind = GeneratedKind.cluster.word ∧ g.IsLinked "v20250312" true false ∧
    g.secretRef?.isSome = (g.groupId? "v20250312").isSome := by
  obtain ⟨manifests, g, h, hg, hkind, -⟩ :=
    (Job.small "Shop").exists_cluster_of_any (fun _ => true) (by decide +kernel)
  have htag : ∀ config ∈ (Job.small "Shop").config.generated,
      '/' ∉ config.apiTag.toList ∧ config.apiTag ≠ Mapper.secretKey := by
    intro config hconfig
    obtain rfl := Option.some.inj hconfig
    decide
  obtain ⟨config, hconfig, hlinked, hsecret⟩ := exported_clusters_linked rfl rfl htag h g hg hkind
  obtain rfl := Option.some.inj hconfig
  exact ⟨manifests, g, htag, h, hg, hkind, hlinked, hsecret.mpr (.inr (by decide))⟩

/-- The export of the clusters of a small project, without its group, under some tag. -/
def clustersAlone (tag : String) : Job :=
  { Job.small "Shop" with
    config :=
      { space := "atlas", projectId := "1", kinds := [],
        generated := some { apiTag := tag, kinds := [.cluster] } } }

/-- Clusters without their group have its id, but no secret to read the group with.  A tag that
leads elsewhere leaves no place for a link. -/
theorem exported_clusters_not_linked :
    (∀ tag ∈ ["v20250312", "connectionSecretRef", "v20250312/properties/entry"],
      (clustersAlone tag).config.fault? = none) ∧
    (∃ manifests g, (clustersAlone "v20250312").exported.result = .ok manifests ∧
      Manifest.generated g ∈ manifests ∧ g.kind = GeneratedKind.cluster.word ∧
      (g.groupId? "v20250312").isSome = true ∧ g.secretRef? = none) ∧
    ∀ tag ∈ ["connectionSecretRef", "v20250312/properties/entry"], ∃ manifests g,
      (clustersAlone tag).exported.result = .ok manifests ∧ Manifest.generated g ∈ manifests ∧
        g.kind = GeneratedKind.cluster.word ∧ g.groupRef? tag = none ∧ g.groupId? tag = none := by
  refine ⟨by decide +kernel, ?_, ?_⟩
  · obtain ⟨manifests, g, h, hg, hkind, hlink⟩ := (clustersAlone "v20250312").exists_cluster_of_any
      (fun g => (g.groupId? "v20250312").isSome && g.secretRef?.isNone) (by decide +kernel)
    obtain ⟨hid, hsecret⟩ := Bool.and_eq_true_iff.mp hlink
    exact ⟨manifests, g, h, hg, hkind, hid, Option.isNone_iff_eq_none.mp hsecret⟩
  · intro tag htag
    have hunlinked : ∀ tag ∈ ["connectionSecretRef", "v20250312/properties/entry"],
        (clustersAlone tag).exported.result.toOption.any (fun manifests => manifests.any fun m =>
          m.generatedCluster?.any fun g => (g.groupRef? tag).isNone && (g.groupId? tag).isNone) =
            true := by decide +kernel
    obtain ⟨manifests, g, h, hg, hkind, hlink⟩ :=
      (clustersAlone tag).exists_cluster_of_any _ (hunlinked tag htag)
    obtain ⟨href, hid⟩ := Bool.and_eq_true_iff.mp hlink
    exact ⟨manifests, g, h, hg, hkind, Option.isNone_iff_eq_none.mp href,
      Option.isNone_iff_eq_none.mp hid⟩

end Job

end AtlasManifests
