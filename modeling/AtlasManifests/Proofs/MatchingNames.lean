import AtlasManifests.Proofs.GroupReferences
import AtlasManifests.Proofs.Listings

/-! # Curated and generated objects with the same names

A project with its clusters can be exported twice at once: by the converters of curated kinds, and
mapped by definitions.  A curated name is made of the texts themselves, while the name of a mapped
cluster is made of the name of its group, which has been spelled and cut before.  Both come out the
same, because a text that names something may be replaced by its name
(`Label.normalizeParts_normalize_cons`).  Only the empty text is no such text: it has a name of its
own, but adds nothing to a joined name.
-/
namespace AtlasManifests

/-! ## Names in names -/

namespace Label

/-- A name depends on the names of its parts only. -/
theorem normalizeParts_congr {parts parts' : List String} (h : labels parts = labels parts') :
    normalizeParts parts = normalizeParts parts' := by
  have hjoined : joined parts = joined parts' := by rw [joined, joined, h]
  rw [normalizeParts, normalizeParts]
  refine congrArg normalize (String.toList_inj.mp ?_)
  rw [toList_intercalate_normalize, toList_intercalate_normalize, hjoined]

/-- **The first part of a name may be named beforehand**, unless it is empty. -/
theorem normalizeParts_normalize_cons {first : String} (h : first ≠ "") (parts : List String) :
    normalizeParts (normalize first :: parts) = normalizeParts (first :: parts) := by
  have hself : normalize (normalize first) = normalize first :=
    normalize_eq_self (isLabel_normalize first)
  refine normalizeParts_congr ?_
  rw [labels_cons (normalize_ne_empty first), labels_cons h, hself]

example : normalizeParts [normalize "", "orders"] ≠ normalizeParts ["", "orders"] := by
  decide +kernel

end Label

/-! ## Names of mapped objects -/

/-- The manifests of a generated kind, in order. -/
def Manifest.generatedOf (kind : GeneratedKind) (manifests : List Manifest) : List Manifest :=
  manifests.filter fun m => m.isGenerated && m.kind == kind.word

namespace Findings

variable {f : Findings} {job : Job}

/-- The mapped objects of an export are its groups and then its clusters. -/
theorem filter_isGenerated_manifests :
    (f.manifests job).filter Manifest.isGenerated =
      ((f.groupObjects job).map fun t => (Manifest.generated t.object).within job.config.space) ++
        (f.clusterObjects job).map fun t =>
          (Manifest.generated t.object).within job.config.space := by
  rw [manifests, List.filter_map]
  simp only [Function.comp_def, Manifest.isGenerated_within]
  rw [filter_isGenerated_flatten_blocks, List.map_map, List.map_append]
  rfl

/-- Objects of one kind among objects of two kinds. -/
theorem filter_kind_append {l l' : List Manifest} {kind kind' : String} (hne : kind ≠ kind')
    (h : ∀ m ∈ l, m.kind = kind) (h' : ∀ m ∈ l', m.kind = kind') :
    (l ++ l').filter (·.kind == kind) = l ∧ (l ++ l').filter (·.kind == kind') = l' := by
  have hall : ∀ m ∈ l, (m.kind == kind) = true := fun m hm => beq_iff_eq.mpr (h m hm)
  have hall' : ∀ m ∈ l', (m.kind == kind') = true := fun m hm => beq_iff_eq.mpr (h' m hm)
  have hnone : ∀ m ∈ l, ¬ (m.kind == kind') = true := by
    intro m hm heq
    exact hne ((h m hm).symm.trans (beq_iff_eq.mp heq))
  have hnone' : ∀ m ∈ l', ¬ (m.kind == kind) = true := by
    intro m hm heq
    exact hne ((beq_iff_eq.mp heq).symm.trans (h' m hm))
  constructor
  · rw [List.filter_append, List.filter_eq_self.mpr hall, List.filter_eq_nil_iff.mpr hnone',
      List.append_nil]
  · rw [List.filter_append, List.filter_eq_self.mpr hall', List.filter_eq_nil_iff.mpr hnone,
      List.nil_append]

/-- Groups and clusters are told apart by their kinds, if definitions have the kinds that were
asked for. -/
theorem generatedOf_manifests (hkinds : job.catalogue.KeepsKinds) (hf : job.Finds f) :
    (Manifest.generatedOf .group (f.manifests job) = (f.groupObjects job).map fun t =>
        (Manifest.generated t.object).within job.config.space) ∧
      Manifest.generatedOf .cluster (f.manifests job) = (f.clusterObjects job).map fun t =>
        (Manifest.generated t.object).within job.config.space := by
  have hgroups : ∀ m ∈ (f.groupObjects job).map fun t =>
      (Manifest.generated t.object).within job.config.space,
        m.kind = GeneratedKind.group.word := by
    intro m hm
    obtain ⟨o, ho, rfl⟩ := List.mem_map.mp hm
    obtain ⟨t, ht, rfl⟩ := List.mem_map.mp ho
    obtain ⟨_, d, _, _, hd, _, hkind, _⟩ := (hf.mapsBy_group (Option.mem_toList.mp ht)).spec
    exact hkind.trans (hkinds _ _ _ hd)
  have hclusters : ∀ m ∈ (f.clusterObjects job).map fun t =>
      (Manifest.generated t.object).within job.config.space,
        m.kind = GeneratedKind.cluster.word := by
    intro m hm
    obtain ⟨o, ho, rfl⟩ := List.mem_map.mp hm
    obtain ⟨⟨t, clusters⟩, ht, ho⟩ := List.mem_flatMap.mp ho
    obtain ⟨c, _, rfl⟩ := List.mem_map.mp ho
    obtain ⟨_, d, _, _, hd, _, hkind, _⟩ := (hf.mapsBy_cluster (Option.mem_toList.mp ht)).spec
    exact hkind.trans (hkinds _ _ _ hd)
  have hfilter (kind : GeneratedKind) : Manifest.generatedOf kind (f.manifests job) =
      ((f.manifests job).filter Manifest.isGenerated).filter (·.kind == kind.word) := by
    rw [List.filter_filter]
    exact List.filter_congr fun m _ => Bool.and_comm _ _
  rw [hfilter, hfilter, filter_isGenerated_manifests]
  exact filter_kind_append (by decide) hgroups hclusters

/-- The group of the project is in the index that clusters are mapped with. -/
theorem nameOf?_groupObjects (hkinds : job.catalogue.KeepsKinds) (hf : job.Finds f)
    {t : Mapper} (ht : f.groupMapper = some t) :
    (ReferenceIndex.ofMapped (f.groupObjects job)).nameOf? GeneratedKind.group.word
      job.config.projectId = some (Label.normalize f.project.name) := by
  obtain ⟨_, d, _, _, hd, _, hkind, _⟩ := (hf.mapsBy_group ht).spec
  have hgroup : t.type.kind = GeneratedKind.group.word := hkind.trans (hkinds _ _ _ hd)
  let listing : ProjectListing := ⟨job.config.projectId, f.project, []⟩
  have hobjects : f.groupObjects job = t.groupsOf (f.ctx job) [listing] := by
    rw [groupObjects, ht]
    rfl
  have hids : ([listing].map (·.id)).Nodup := List.nodup_singleton _
  rw [hobjects]
  exact Mapper.nameOf?_groups hgroup hids List.mem_cons_self

/-- Clusters that are mapped after their project begin with the name of its group. -/
theorem clusterStem_groupObjects (hkinds : job.catalogue.KeepsKinds) (hf : job.Finds f)
    {t : Mapper} (ht : f.groupMapper = some t) :
    Mapper.clusterStem (.ofMapped (f.groupObjects job)) job.config.projectId =
      Label.normalize f.project.name := by
  rw [Mapper.clusterStem, nameOf?_groupObjects hkinds hf ht]
  rfl

end Findings

namespace Job

variable {job : Job}

theorem MapsBy.exists_of_selected {kind : GeneratedKind} {mapper : Option Mapper}
    (h : job.MapsBy kind mapper) (hkind : job.config.exportsGenerated kind = true) :
    ∃ t, mapper = some t := by
  cases mapper with
  | none => exact absurd hkind (Bool.eq_false_iff.mp h)
  | some t => exact ⟨t, rfl⟩

/-- **What is exported twice is named alike.**  If projects and deployments are exported both as
curated objects and as generated ones, the group has the name of the project, and the clusters have
the names of the deployments, one by one. -/
theorem exported_names_match (hkinds : job.catalogue.KeepsKinds)
    (hprojects : job.config.exports .project = true)
    (hdeployments : job.config.exports .deployment = true)
    (hgroups : job.config.exportsGenerated .group = true)
    (hclusters : job.config.exportsGenerated .cluster = true) {project : Project}
    (hproject : job.controlPlane (.project job.config.projectId) = .ok project)
    (hname : project.name ≠ "") {manifests : List Manifest}
    (h : job.exported.result = .ok manifests) :
    ∃ name clusters,
      (job.controlPlane.clusters job.config.projectId job.pageSize).result = .ok clusters ∧
      (Manifest.ofKind .project manifests).map Manifest.name = [name] ∧
      (Manifest.generatedOf .group manifests).map Manifest.name = [name] ∧
      (Manifest.ofKind .deployment manifests).length = clusters.length ∧
      (Manifest.generatedOf .cluster manifests).map Manifest.name =
        (Manifest.ofKind .deployment manifests).map Manifest.name := by
  obtain ⟨f, hf, rfl⟩ := exported_eq_ok_iff.mp h
  obtain rfl : project = f.project := Except.ok.inj (hproject.symm.trans hf.project)
  obtain ⟨t, ht⟩ := hf.groupMapper.exists_of_selected hgroups
  obtain ⟨_, hmapping⟩ := hf.clusterMapper.exists_of_selected hclusters
  obtain ⟨⟨tc, clusters⟩, hmapping, -⟩ := Option.map_eq_some_iff.mp hmapping
  have hlisted := hf.mappedClusters _ hmapping
  -- the clusters are listed twice, with the same answer
  have hsame : f.clusters = clusters := hf.clusters.eq_of_selected hdeployments hlisted
  obtain ⟨hgroupsOf, hclustersOf⟩ := Findings.generatedOf_manifests hkinds hf
  refine ⟨Label.normalize f.project.name, clusters, hlisted, ?_, ?_, ?_, ?_⟩
  · rw [Findings.ofKind_manifests, Findings.primary, if_pos hprojects]
    rfl
  · rw [hgroupsOf, Findings.groupObjects, ht]
    rfl
  · rw [Findings.ofKind_manifests, List.length_map, Findings.primary, List.length_map, hsame]
  · have hstem := Findings.clusterStem_groupObjects hkinds hf ht
    rw [hclustersOf, Findings.clusterObjects, hmapping, Findings.ofKind_manifests,
      Findings.primary, hsame, Option.toList_some, List.flatMap_singleton, List.map_map,
      List.map_map, List.map_map, List.map_map]
    refine List.map_congr_left fun c _ => ?_
    have hcut : Label.normalizeParts
        [Mapper.clusterStem (.ofMapped (f.groupObjects job)) job.config.projectId, c.name] =
          Label.normalizeParts [f.project.name, c.name] := by
      rw [hstem, Label.normalizeParts_normalize_cons hname]
    exact hcut

/-- The export of a project and its clusters, twice over, under a name that is cut right behind a
dash. -/
def cutNamed : Job :=
  { Job.small (String.ofList (List.replicate 62 'a') ++ " & b") with
    config :=
      { space := "atlas", projectId := "1", kinds := [.project, .deployment],
        generated := some {} } }

/-- All names of such an export are the same: nothing has room behind the one of the project. -/
theorem exported_names_match_cut : ∃ manifests name,
    cutNamed.exported.result = .ok manifests ∧
    (Manifest.ofKind .project manifests).map Manifest.name = [name] ∧
    (Manifest.generatedOf .group manifests).map Manifest.name = [name] ∧
    (Manifest.ofKind .deployment manifests).map Manifest.name = [name, name] ∧
    (Manifest.generatedOf .cluster manifests).map Manifest.name =
      (Manifest.ofKind .deployment manifests).map Manifest.name := by
  obtain ⟨manifests, h, hcut⟩ := cutNamed.exists_of_any
    (fun ms => (Manifest.ofKind .project ms ++ Manifest.ofKind .deployment ms).map Manifest.name =
      List.replicate 3 (String.ofList (List.replicate 62 'a'))) (by decide +kernel)
  obtain ⟨name, -, -, hprojects, hgroups, -, hnames⟩ :=
    exported_names_match Catalogue.keepsKinds_embedded (by decide) (by decide) (by decide)
      (by decide) rfl (by decide) h
  have hall := of_decide_eq_true hcut
  rw [List.map_append, hprojects] at hall
  obtain ⟨rfl, hdeployments⟩ := List.cons.inj hall
  exact ⟨manifests, _, h, hprojects, hgroups, hdeployments, hnames⟩

end Job

end AtlasManifests
