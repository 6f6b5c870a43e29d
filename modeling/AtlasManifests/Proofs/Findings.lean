import AtlasManifests.Export.Run
import AtlasManifests.Proofs.ClaimedNames

/-! # What a run finds

A run alternates between fetching and converting, but what comes out depends only on what it has
found: the project with its settings, the listings of the selected kinds, and the mappers of the
selected generated kinds.  `Findings` is that data and `Job.Finds` says that a run has found it.
A run succeeds exactly if it finds something, and it then exports the manifests of its findings
(`Job.exported_eq_ok_iff`).  Everything that is said of exports starts from here.
-/
namespace AtlasManifests

namespace Traced

variable {ε δ α β : Type}

theorem ok_eq_ok_iff {a b : α} : (Except.ok a : Except Error α) = .ok b ↔ b = a :=
  ⟨fun h => (Except.ok.inj h).symm, fun h => h ▸ rfl⟩

/-- Two steps succeed exactly if one succeeds after the other. -/
theorem bind_eq_ok_iff {x : Traced ε α} {f : α → Traced ε β} {b : β} :
    (x >>= f).result = .ok b ↔ ∃ a, x.result = .ok a ∧ (f a).result = .ok b := by
  rw [result_bind]
  cases x.result with
  | error e => simp [Except.bind]
  | ok a => simp [Except.bind]

@[simp] theorem result_emit (event : ε) : (emit event).result = .ok () := rfl

@[simp] theorem result_ofExcept (x : Except Error α) :
    (ofExcept x : Traced ε α).result = x := rfl

@[simp] theorem result_mapEvents (f : ε → δ) (x : Traced ε α) :
    (x.mapEvents f).result = x.result := rfl

theorem mapError_eq_ok_iff {f : Error → Error} {x : Traced ε α} {a : α} :
    (x.mapError f).result = .ok a ↔ x.result = .ok a := by
  rw [mapError]
  cases x.result <;> simp [Except.mapError]

end Traced

namespace ControlPlane

variable {cp : ControlPlane} {subject id : String}

theorem project_eq_ok_iff {project : Project} :
    (cp.project subject id).result = .ok project ↔ cp (.project id) = .ok project :=
  Traced.mapError_eq_ok_iff

theorem settings_eq_ok_iff {settings : ProjectSettings} :
    (cp.settings id).result = .ok settings ↔ cp (.settings id) = .ok settings :=
  Traced.mapError_eq_ok_iff

/-- A project that has been fetched is not fetched differently again. -/
theorem knownProject_eq_ok {project : Project} (h : cp (.project id) = .ok project) :
    (cp.knownProject [project] id).result = .ok project := by
  rw [knownProject]
  split
  · next found hfound =>
    rw [List.mem_singleton.mp (List.mem_of_find?_eq_some hfound)]
    rfl
  · exact project_eq_ok_iff.mpr h

end ControlPlane

namespace Mapper

variable {t : Mapper}

/-- What a mapper has from the definition that it is made by. -/
theorem make_spec {registry : Registry} {d : Definition} {tag : String}
    (h : make registry (some d) tag = .ok t) :
    t.registry = registry ∧ t.type.kind = d.kind ∧ t.tag = tag ∧
      t.specSchema.pointer? ("/properties/" ++ tag) = some t.tagSchema := by
  rw [make] at h
  split at h
  · split at h
    · split at h
      · split at h
        · obtain rfl := Except.ok.inj h
          exact ⟨rfl, rfl, rfl, ‹_›⟩
        · cases h
      · cases h
    · cases h
  · cases h

end Mapper

/-- The mapper for a kind is made by the definition that a catalogue has of the kind. -/
theorem Catalogue.exists_make_of_mapper {c : Catalogue} {registry : Registry}
    {kind : GeneratedKind} {version tag : String} {t : Mapper}
    (h : c.mapper registry kind version tag = .ok t) :
    ∃ d, c.find kind.word version = .ok d ∧ Mapper.make registry (some d) tag = .ok t := by
  rw [mapper] at h
  cases hd : c.find kind.word version with
  | error e =>
    rw [hd] at h
    cases h
  | ok d =>
    rw [hd] at h
    change (Mapper.make registry (some d) tag).mapError Error.setup = .ok t at h
    cases hmake : Mapper.make registry (some d) tag with
    | error e =>
      rw [hmake] at h
      cases h
    | ok t' =>
      rw [hmake] at h
      obtain rfl := Except.ok.inj h
      exact ⟨d, rfl, hmake⟩

/-- What the mapper for a kind has from the definition. -/
theorem Catalogue.mapper_spec {c : Catalogue} {registry : Registry} {kind : GeneratedKind}
    {version tag : String} {t : Mapper} (h : c.mapper registry kind version tag = .ok t) :
    ∃ d, c.find kind.word version = .ok d ∧ t.registry = registry ∧ t.type.kind = d.kind ∧
      t.tag = tag ∧ t.specSchema.pointer? ("/properties/" ++ tag) = some t.tagSchema := by
  obtain ⟨d, hd, hmake⟩ := exists_make_of_mapper h
  exact ⟨d, hd, Mapper.make_spec hmake⟩

/-- What a run has found when it is done. -/
structure Findings where
  project : Project
  settings : ProjectSettings
  entries : List AccessEntry
  clusters : List Cluster
  users : List DatabaseUser
  /-- What the users are converted to. -/
  converted : List (Resource DatabaseUserSpec × Option Secret)
  containers : List Container
  peerings : List Peering
  integrations : List Integration
  federations : List Federation
  /-- The mapper for groups, if they are selected. -/
  groupMapper : Option Mapper
  /-- The mapper for clusters and what it maps, if they are selected. -/
  clusterMapping : Option (Mapper × List Cluster)

namespace Job

variable (job : Job)

/-- A listing is what there is of a curated kind, and nothing if the kind is not selected. -/
def Lists {α : Type} (kind : CuratedKind) (listing : Traced Call (List α)) (found : List α) :
    Prop :=
  if job.config.exports kind then listing.result = .ok found else found = []

/-- A mapper is the one for a generated kind, and missing if the kind is not selected. -/
def MapsBy (kind : GeneratedKind) : Option Mapper → Prop
  | none => job.config.exportsGenerated kind = false
  | some t => ∃ config, job.config.generated = some config ∧ config.kinds.contains kind = true ∧
      job.mapper kind config = .ok t

/-- A run finds what the control plane and the catalogue answer, and names for all users. -/
structure Finds (f : Findings) : Prop where
  project : job.controlPlane (.project job.config.projectId) = .ok f.project
  settings : job.controlPlane (.settings job.config.projectId) = .ok f.settings
  entries : job.Lists .ipAccessList
    (job.controlPlane.accessList job.config.projectId job.pageSize) f.entries
  clusters : job.Lists .deployment
    (job.controlPlane.clusters job.config.projectId job.pageSize) f.clusters
  users : job.Lists .databaseUser
    (job.controlPlane.databaseUsers job.config.projectId job.pageSize) f.users
  converted : (job.context f.project).databaseUsers f.users
    (initialClaims (job.context f.project)) = some f.converted
  containers : job.Lists .networkContainer
    (job.controlPlane.containers job.config.projectId job.pageSize) f.containers
  peerings : job.Lists .networkPeering
    (job.controlPlane.peerings job.config.projectId job.pageSize) f.peerings
  integrations : job.Lists .thirdPartyIntegration
    (job.controlPlane.integrations job.config.projectId job.pageSize) f.integrations
  federations : job.Lists .dataFederation
    (job.controlPlane.federations job.config.projectId) f.federations
  groupMapper : job.MapsBy .group f.groupMapper
  clusterMapper : job.MapsBy .cluster (f.clusterMapping.map (·.1))
  mappedClusters : ∀ mapping ∈ f.clusterMapping,
    (job.controlPlane.clusters job.config.projectId job.pageSize).result = .ok mapping.2

end Job

namespace Findings

variable (f : Findings) (job : Job)

/-- The context that everything is converted in. -/
def ctx : Context := job.context f.project

/-- The project with its secret, if it is selected. -/
def projectManifests : List Manifest :=
  if job.config.exports .project then
    [.project ((f.ctx job).project f.project (some f.settings)),
      .secret ((f.ctx job).credentialsSecret job.config.credentials)]
  else []

/-- The manifests of the network containers. -/
def containerResources : List (Resource ContainerSpec) := f.containers.map (f.ctx job).container

/-- The manifests of the network peerings. -/
def peeringResources : List (Resource PeeringSpec) :=
  f.peerings.zipIdx.map fun (p, n) =>
    (f.ctx job).peering p (.ofManifests (f.containerResources job)) (job.word n)

/-- The integrations of known types, each with its secret. -/
def integrationPairs : List (Resource IntegrationSpec × Secret) :=
  f.integrations.filterMap (f.ctx job).integration

/-- The group of the project, if groups are selected. -/
def groupObjects : List MappedObject :=
  f.groupMapper.toList.map fun t => t.group (f.ctx job) job.config.projectId f.project

/-- The clusters of the project, if they are selected. -/
def clusterObjects : List MappedObject :=
  f.clusterMapping.toList.flatMap fun (t, clusters) =>
    clusters.map (t.cluster (f.ctx job) (.ofMapped (f.groupObjects job)) job.config.projectId)

/-- The blocks of manifests in order. -/
def blocks : List (List Manifest) :=
  [f.projectManifests job,
    ((f.ctx job).accessList f.entries).toList.map .accessList,
    f.clusters.map fun c => .deployment ((f.ctx job).deployment c),
    f.converted.flatMap Context.userManifests,
    (f.containerResources job).map .container,
    (f.peeringResources job).map .peering,
    (f.integrationPairs job).flatMap fun (integration, secret) =>
      [.integration integration, .secret secret],
    f.federations.map fun x => .federation ((f.ctx job).federation x),
    (f.groupObjects job).map fun t => .generated t.object,
    (f.clusterObjects job).map fun t => .generated t.object]

/-- The manifests of what was found, in the namespace that is configured. -/
def manifests : List Manifest := (f.blocks job).flatten.map (Manifest.within job.config.space)

end Findings

namespace Job

variable {job : Job} {ctx : Context}

theorem listed_eq_ok_iff {α : Type} {kind : CuratedKind} {listing : Traced Call (List α)}
    {found : List α} :
    (job.listed kind listing).result = .ok found ↔ job.Lists kind listing found := by
  rw [listed, Lists]
  split
  · simp [fetched, enter, calls, Traced.bind_eq_ok_iff]
  · simp [eq_comm]

theorem Lists.eq_of_selected {α : Type} {kind : CuratedKind} {listing : Traced Call (List α)}
    {found answer : List α} (h : job.Lists kind listing found)
    (hkind : job.config.exports kind = true) (hanswer : listing.result = .ok answer) :
    found = answer := by
  rw [Lists, if_pos hkind] at h
  exact Except.ok.inj (h.symm.trans hanswer)

theorem Lists.eq_nil {α : Type} {kind : CuratedKind} {listing : Traced Call (List α)}
    {found : List α} (h : job.Lists kind listing found)
    (hkind : job.config.exports kind = false) : found = [] := by
  rwa [Lists, if_neg (Bool.eq_false_iff.mp hkind)] at h

theorem exportsGenerated_iff {kind : GeneratedKind} :
    job.config.exportsGenerated kind = true ↔
      ∃ config, job.config.generated = some config ∧ config.kinds.contains kind = true :=
  Option.any_eq_true _ _

theorem mapped_of_selected {kind : GeneratedKind} {map : Mapper → Traced Call (List MappedObject)}
    {config : GeneratedConfig} (hconfig : job.config.generated = some config)
    (hkind : config.kinds.contains kind = true) :
    job.mapped kind map = fetched (.generated kind)
      (.ofExcept (job.mapper kind config) >>= fun mapper => calls (map mapper)) := by
  simp only [mapped, hconfig, hkind, if_true]

theorem mapped_of_not_selected {kind : GeneratedKind}
    {map : Mapper → Traced Call (List MappedObject)}
    (h : job.config.exportsGenerated kind = false) : job.mapped kind map = pure [] := by
  rw [mapped]
  cases hconfig : job.config.generated with
  | none => rfl
  | some config =>
    rw [Config.exportsGenerated, hconfig, Option.any_some] at h
    exact if_neg (Bool.eq_false_iff.mp h)

theorem mapped_eq_ok_iff {kind : GeneratedKind} {map : Mapper → Traced Call (List MappedObject)}
    {objects : List MappedObject} :
    (job.mapped kind map).result = .ok objects ↔
      ∃ mapper, job.MapsBy kind mapper ∧
        match mapper with
        | none => objects = []
        | some t => (map t).result = .ok objects := by
  cases hselected : job.config.exportsGenerated kind with
  | false =>
    rw [mapped_of_not_selected hselected, Traced.result_pure, Traced.ok_eq_ok_iff]
    constructor
    · exact fun h => ⟨none, hselected, h⟩
    · rintro ⟨_ | t, hmapper, h⟩
      · exact h
      · -- there is a mapper only for a kind that is selected
        obtain ⟨config, hconfig, hkind, _⟩ := hmapper
        exact absurd (exportsGenerated_iff.mpr ⟨config, hconfig, hkind⟩)
          (Bool.eq_false_iff.mp hselected)
  | true =>
    obtain ⟨config, hconfig, hkind⟩ := exportsGenerated_iff.mp hselected
    rw [mapped_of_selected hconfig hkind]
    simp only [fetched, enter, calls, Traced.bind_eq_ok_iff, Traced.result_emit,
      Traced.result_ofExcept, Traced.result_mapEvents, Traced.result_pure]
    constructor
    · rintro ⟨_, _, found, ⟨t, ht, hfound⟩, _, _, heq⟩
      obtain rfl := Except.ok.inj heq
      exact ⟨some t, ⟨config, hconfig, hkind, ht⟩, hfound⟩
    · rintro ⟨_ | t, hmapper, h⟩
      · exact absurd hselected (Bool.eq_false_iff.mp hmapper)
      · obtain ⟨other, heq, _, ht⟩ := hmapper
        obtain rfl := Option.some.inj (hconfig.symm.trans heq)
        exact ⟨(), trivial, objects, ⟨t, ht, h⟩, (), trivial, rfl⟩

/-- A mapper has its kind from the definition that the catalogue has, and its registry and its tag
from the job. -/
theorem MapsBy.spec {kind : GeneratedKind} {t : Mapper} (h : job.MapsBy kind (some t)) :
    ∃ config d, job.config.generated = some config ∧ config.kinds.contains kind = true ∧
      job.catalogue.find kind.word config.crdVersion = .ok d ∧ t.registry = job.registry ∧
      t.type.kind = d.kind ∧ t.tag = config.apiTag ∧
      t.specSchema.pointer? ("/properties/" ++ config.apiTag) = some t.tagSchema := by
  obtain ⟨config, hconfig, hkind, ht⟩ := h
  obtain ⟨d, hd, hspec⟩ := Catalogue.mapper_spec ht
  exact ⟨config, d, hconfig, hkind, hd, hspec⟩

theorem Finds.mapsBy_group {f : Findings} (hf : job.Finds f) {t : Mapper}
    (ht : f.groupMapper = some t) : job.MapsBy .group (some t) := by
  have hmapper := hf.groupMapper
  rwa [ht] at hmapper

theorem Finds.mapsBy_cluster {f : Findings} (hf : job.Finds f) {t : Mapper}
    {clusters : List Cluster} (ht : f.clusterMapping = some (t, clusters)) :
    job.MapsBy .cluster (some t) := by
  have hmapper := hf.clusterMapper
  rwa [ht] at hmapper

/-! ## Blocks -/

/-- A block that is a function of one listing. -/
theorem block_eq_ok_iff {α β : Type} {kind : CuratedKind} {listing : Traced Call (List α)}
    {convert : List α → Run β} {value : List α → β}
    (hconvert : ∀ found, (convert found).result = .ok (value found)) {block : β} :
    (job.listed kind listing >>= convert).result = .ok block ↔
      ∃ found, job.Lists kind listing found ∧ block = value found := by
  rw [Traced.bind_eq_ok_iff]
  refine exists_congr fun found => ?_
  rw [listed_eq_ok_iff, hconvert, Traced.ok_eq_ok_iff]

theorem projectBlock_eq_ok_iff {project : Project} {settings : ProjectSettings}
    {block : List Manifest} :
    (job.projectBlock ctx project settings).result = .ok block ↔
      block = if job.config.exports .project then
        [.project (ctx.project project (some settings)),
          .secret (ctx.credentialsSecret job.config.credentials)]
      else [] := by
  rw [projectBlock]
  split
  · exact Traced.ok_eq_ok_iff
  · exact Traced.ok_eq_ok_iff

theorem accessListBlock_eq_ok_iff {block : List Manifest} :
    (job.accessListBlock ctx).result = .ok block ↔
      ∃ entries, job.Lists .ipAccessList
          (job.controlPlane.accessList job.config.projectId job.pageSize) entries ∧
        block = (ctx.accessList entries).toList.map .accessList :=
  block_eq_ok_iff fun _ => rfl

theorem deploymentBlock_eq_ok_iff {block : List Manifest} :
    (job.deploymentBlock ctx).result = .ok block ↔
      ∃ clusters, job.Lists .deployment
          (job.controlPlane.clusters job.config.projectId job.pageSize) clusters ∧
        block = clusters.map fun c => .deployment (ctx.deployment c) :=
  block_eq_ok_iff fun _ => rfl

theorem databaseUserBlock_eq_ok_iff {block : List Manifest} :
    (job.databaseUserBlock ctx).result = .ok block ↔
      ∃ users converted, job.Lists .databaseUser
          (job.controlPlane.databaseUsers job.config.projectId job.pageSize) users ∧
        ctx.databaseUsers users (initialClaims ctx) = some converted ∧
        block = converted.flatMap Context.userManifests := by
  rw [databaseUserBlock, Traced.bind_eq_ok_iff]
  refine exists_congr fun users => ?_
  rw [listed_eq_ok_iff]
  cases ctx.databaseUsers users (initialClaims ctx) with
  | none => simp [Traced.fail]
  | some converted =>
    simp only [Traced.result_pure, Except.ok.injEq, Option.some.injEq, exists_eq_left',
      exists_and_left]
    exact and_congr_right fun _ => eq_comm

theorem containers_eq_ok_iff {resources : List (Resource ContainerSpec)} :
    (job.containers ctx).result = .ok resources ↔
      ∃ containers, job.Lists .networkContainer
          (job.controlPlane.containers job.config.projectId job.pageSize) containers ∧
        resources = containers.map ctx.container :=
  block_eq_ok_iff fun _ => rfl

theorem peeringBlock_eq_ok_iff {index : ContainerIndex} {block : List Manifest} :
    (job.peeringBlock ctx index).result = .ok block ↔
      ∃ peerings, job.Lists .networkPeering
          (job.controlPlane.peerings job.config.projectId job.pageSize) peerings ∧
        block = (peerings.zipIdx.map fun (p, n) => ctx.peering p index (job.word n)).map
          .peering :=
  block_eq_ok_iff fun _ => rfl

theorem integrationBlock_eq_ok_iff {block : List Manifest} :
    (job.integrationBlock ctx).result = .ok block ↔
      ∃ integrations, job.Lists .thirdPartyIntegration
          (job.controlPlane.integrations job.config.projectId job.pageSize) integrations ∧
        block = (integrations.filterMap ctx.integration).flatMap fun (integration, secret) =>
          [.integration integration, .secret secret] :=
  block_eq_ok_iff fun _ => rfl

theorem federationBlock_eq_ok_iff {block : List Manifest} :
    (job.federationBlock ctx).result = .ok block ↔
      ∃ federations, job.Lists .dataFederation
          (job.controlPlane.federations job.config.projectId) federations ∧
        block = federations.map fun x => .federation (ctx.federation x) :=
  block_eq_ok_iff fun _ => rfl

/-- The group is made of the project that was fetched before. -/
theorem groups_eq_ok_iff {project : Project} {objects : List MappedObject}
    (hproject : job.controlPlane (.project job.config.projectId) = .ok project) :
    (job.groups ctx project).result = .ok objects ↔
      ∃ mapper, job.MapsBy .group mapper ∧
        objects = mapper.toList.map fun t => t.group ctx job.config.projectId project := by
  rw [groups, mapped_eq_ok_iff]
  refine exists_congr fun mapper => and_congr_right fun _ => ?_
  cases mapper with
  | none => rfl
  | some t =>
    simp only [ControlPlane.mappedGroups, Traced.bind_eq_ok_iff,
      ControlPlane.knownProject_eq_ok hproject, Traced.result_pure]
    simp [eq_comm]

theorem clusters_eq_ok_iff {groups objects : List MappedObject} :
    (job.clusters ctx groups).result = .ok objects ↔
      ∃ mapping : Option (Mapper × List Cluster), job.MapsBy .cluster (mapping.map (·.1)) ∧
        (∀ m ∈ mapping,
          (job.controlPlane.clusters job.config.projectId job.pageSize).result = .ok m.2) ∧
        objects = mapping.toList.flatMap fun (t, clusters) =>
          clusters.map (t.cluster ctx (.ofMapped groups) job.config.projectId) := by
  rw [Job.clusters, mapped_eq_ok_iff]
  constructor
  · rintro ⟨_ | t, hmapper, h⟩
    · exact ⟨none, hmapper, by simp, h⟩
    · simp only [ControlPlane.mappedClusters, Traced.bind_eq_ok_iff, Traced.result_pure] at h
      obtain ⟨clusters, hclusters, later, hlater, h⟩ := h
      obtain rfl := Except.ok.inj hlater
      refine ⟨some (t, clusters), hmapper, by simpa using hclusters, ?_⟩
      simpa using (Except.ok.inj h).symm
  · rintro ⟨_ | ⟨t, clusters⟩, hmapper, hclusters, rfl⟩
    · exact ⟨none, hmapper, rfl⟩
    · refine ⟨some t, hmapper, ?_⟩
      simp only [ControlPlane.mappedClusters, Traced.bind_eq_ok_iff, Traced.result_pure]
      exact ⟨clusters, hclusters _ rfl, [], rfl, by simp⟩

/-! ## The run -/

theorem blocks_eq_ok_iff {project : Project} {settings : ProjectSettings}
    {blocks : List (List Manifest)}
    (hproject : job.controlPlane (.project job.config.projectId) = .ok project)
    (hsettings : job.controlPlane (.settings job.config.projectId) = .ok settings) :
    (job.blocks project settings).result = .ok blocks ↔
      ∃ f, job.Finds f ∧ f.project = project ∧ f.settings = settings ∧ blocks = f.blocks job := by
  simp only [Job.blocks, Traced.bind_eq_ok_iff, projectBlock_eq_ok_iff, accessListBlock_eq_ok_iff,
    deploymentBlock_eq_ok_iff, databaseUserBlock_eq_ok_iff, containers_eq_ok_iff,
    peeringBlock_eq_ok_iff, integrationBlock_eq_ok_iff, federationBlock_eq_ok_iff,
    groups_eq_ok_iff hproject, clusters_eq_ok_iff, Traced.result_pure]
  constructor
  · rintro ⟨_, rfl, _, ⟨entries, hentries, rfl⟩, _, ⟨clusters, hclusters, rfl⟩, _,
      ⟨users, converted, husers, hconverted, rfl⟩, _, ⟨containers, hcontainers, rfl⟩, _,
      ⟨peerings, hpeerings, rfl⟩, _, ⟨integrations, hintegrations, rfl⟩, _,
      ⟨federations, hfederations, rfl⟩, _, ⟨groupMapper, hgroup, rfl⟩, _,
      ⟨mapping, hmapper, hmapped, rfl⟩, hblocks⟩
    exact ⟨⟨project, settings, entries, clusters, users, converted, containers, peerings,
      integrations, federations, groupMapper, mapping⟩,
      ⟨hproject, hsettings, hentries, hclusters, husers, hconverted, hcontainers, hpeerings,
        hintegrations, hfederations, hgroup, hmapper, hmapped⟩, rfl, rfl,
      (Except.ok.inj hblocks).symm⟩
  · rintro ⟨f, hf, rfl, rfl, rfl⟩
    exact ⟨_, rfl, _, ⟨_, hf.entries, rfl⟩, _, ⟨_, hf.clusters, rfl⟩, _,
      ⟨_, _, hf.users, hf.converted, rfl⟩, _, ⟨_, hf.containers, rfl⟩, _,
      ⟨_, hf.peerings, rfl⟩, _, ⟨_, hf.integrations, rfl⟩, _, ⟨_, hf.federations, rfl⟩, _,
      ⟨_, hf.groupMapper, rfl⟩, _, ⟨_, hf.clusterMapper, hf.mappedClusters, rfl⟩, rfl⟩

/-- That a run has failed does not change what it has come to. -/
theorem result_exported (job : Job) : job.exported.result = job.manifests.result := by
  rw [exported]
  split
  · rfl
  · rfl

/-- **A run exports the manifests of what it finds**, and fails exactly if it finds nothing. -/
theorem exported_eq_ok_iff {manifests : List Manifest} :
    job.exported.result = .ok manifests ↔ ∃ f, job.Finds f ∧ manifests = f.manifests job := by
  rw [result_exported, Job.manifests]
  simp only [enter, calls, Traced.bind_eq_ok_iff, Traced.result_emit, Traced.result_mapEvents,
    ControlPlane.project_eq_ok_iff, ControlPlane.settings_eq_ok_iff, Traced.result_pure]
  constructor
  · rintro ⟨_, _, project, hproject, settings, hsettings, blocks, hblocks, hmanifests⟩
    obtain ⟨f, hf, _, _, rfl⟩ := (blocks_eq_ok_iff hproject hsettings).mp hblocks
    exact ⟨f, hf, (Except.ok.inj hmanifests).symm⟩
  · rintro ⟨f, hf, rfl⟩
    exact ⟨(), trivial, f.project, hf.project, f.settings, hf.settings, f.blocks job,
      (blocks_eq_ok_iff hf.project hf.settings).mpr ⟨f, hf, rfl, rfl, rfl⟩, rfl⟩

end Job

/-! ## What is exported -/

namespace Context

variable (ctx : Context)

theorem credentialsSecret_name (credentials : Option Credentials) :
    (ctx.credentialsSecret credentials).metadata.name = some ctx.credentialsSecretName := by
  cases hsecrets : ctx.includeSecrets <;> cases credentials <;>
    simp only [credentialsSecret, hsecrets, Secret.placeholder, Secret.build]

/-- There is an access list only if there are entries. -/
theorem accessList_cases {entries : List AccessEntry} {r : Resource AccessListSpec}
    (h : ctx.accessList entries = some r) :
    entries ≠ [] ∧ r = ctx.resource (ctx.scopedName ["ip-access-list"])
      { linkage := ctx.linkage, entries := entries.map .ofEntry } := by
  rw [accessList] at h
  split at h
  · cases h
  · exact ⟨List.isEmpty_eq_false_iff.mp (Bool.eq_false_iff.mpr ‹_›), (Option.some.inj h).symm⟩

/-- An integration of a known type and its secret are named after the type. -/
theorem integration_cases {source : Integration} {out : Resource IntegrationSpec × Secret}
    (h : ctx.integration source = some out) :
    ∃ type, IntegrationType.ofTag? source.kind = some type ∧
      out.1 = ctx.resource (ctx.scopedName [type.dashed, "integration"])
        (ctx.integrationSpec type source
          ⟨ctx.scopedName [type.dashed, "integration", "secret"]⟩) ∧
      out.2 = ctx.resourceSecret (ctx.scopedName [type.dashed, "integration", "secret"])
        (type.material source) := by
  obtain ⟨type, htype, rfl⟩ := Option.map_eq_some_iff.mp h
  exact ⟨type, htype, rfl, rfl⟩

end Context

namespace Findings

variable (f : Findings) (job : Job)

/-- The manifests of some findings one by one, before a namespace is given to them. -/
inductive Emits : Manifest → Prop
  | project (h : job.config.exports .project = true) :
    Emits (.project ((f.ctx job).project f.project (some f.settings)))
  | credentials (h : job.config.exports .project = true) :
    Emits (.secret ((f.ctx job).credentialsSecret job.config.credentials))
  | accessList {r : Resource AccessListSpec} (h : (f.ctx job).accessList f.entries = some r) :
    Emits (.accessList r)
  | deployment {c : Cluster} (h : c ∈ f.clusters) : Emits (.deployment ((f.ctx job).deployment c))
  | user {out : Resource DatabaseUserSpec × Option Secret} (h : out ∈ f.converted) :
    Emits (.databaseUser out.1)
  | password {out : Resource DatabaseUserSpec × Option Secret} {s : Secret}
    (h : out ∈ f.converted) (hs : out.2 = some s) : Emits (.secret s)
  | container {c : Container} (h : c ∈ f.containers) : Emits (.container ((f.ctx job).container c))
  | peering {p : Peering} {n : Nat} (h : (p, n) ∈ f.peerings.zipIdx) :
    Emits (.peering
      ((f.ctx job).peering p (.ofManifests (f.containerResources job)) (job.word n)))
  | integration {i : Integration} {out : Resource IntegrationSpec × Secret}
    (h : i ∈ f.integrations) (hout : (f.ctx job).integration i = some out) :
    Emits (.integration out.1)
  | material {i : Integration} {out : Resource IntegrationSpec × Secret}
    (h : i ∈ f.integrations) (hout : (f.ctx job).integration i = some out) :
    Emits (.secret out.2)
  | federation {x : Federation} (h : x ∈ f.federations) :
    Emits (.federation ((f.ctx job).federation x))
  | group {t : Mapper} (h : f.groupMapper = some t) :
    Emits (.generated (t.group (f.ctx job) job.config.projectId f.project).object)
  | cluster {t : Mapper} {clusters : List Cluster} {c : Cluster}
    (h : f.clusterMapping = some (t, clusters)) (hc : c ∈ clusters) :
    Emits (.generated (t.cluster (f.ctx job) (.ofMapped (f.groupObjects job))
      job.config.projectId c).object)

variable {f job}

/-- What is in one of the blocks, by its number. -/
theorem mem_flatten_blocks {m : Manifest} {block : List Manifest} (n : Nat)
    (hblock : (f.blocks job)[n]? = some block) (hm : m ∈ block) : m ∈ (f.blocks job).flatten :=
  List.mem_flatten_of_mem (List.mem_of_getElem? hblock) hm

theorem mem_blocks_of_emits {m : Manifest} (h : f.Emits job m) : m ∈ (f.blocks job).flatten := by
  cases h with
  | project h => exact mem_flatten_blocks 0 rfl (by simp [projectManifests, h])
  | credentials h => exact mem_flatten_blocks 0 rfl (by simp [projectManifests, h])
  | accessList h => exact mem_flatten_blocks 1 rfl (List.mem_map_of_mem (Option.mem_toList.mpr h))
  | deployment h => exact mem_flatten_blocks 2 rfl (List.mem_map.mpr ⟨_, h, rfl⟩)
  | user h =>
    exact mem_flatten_blocks 3 rfl (List.mem_flatMap.mpr ⟨_, h, List.mem_cons_self⟩)
  | password h hs =>
    refine mem_flatten_blocks 3 rfl (List.mem_flatMap.mpr ⟨_, h, List.mem_cons_of_mem _ ?_⟩)
    exact List.mem_map_of_mem (Option.mem_toList.mpr hs)
  | container h => exact mem_flatten_blocks 4 rfl (List.mem_map_of_mem (List.mem_map_of_mem h))
  | peering h =>
    exact mem_flatten_blocks 5 rfl (List.mem_map_of_mem (List.mem_map.mpr ⟨_, h, rfl⟩))
  | integration h hout =>
    have hmem : _ ∈ f.integrationPairs job := List.mem_filterMap.mpr ⟨_, h, hout⟩
    exact mem_flatten_blocks 6 rfl (List.mem_flatMap.mpr ⟨_, hmem, List.mem_cons_self⟩)
  | material h hout =>
    have hmem : _ ∈ f.integrationPairs job := List.mem_filterMap.mpr ⟨_, h, hout⟩
    refine mem_flatten_blocks 6 rfl (List.mem_flatMap.mpr ⟨_, hmem, ?_⟩)
    exact List.mem_cons_of_mem _ List.mem_cons_self
  | federation h => exact mem_flatten_blocks 7 rfl (List.mem_map.mpr ⟨_, h, rfl⟩)
  | group h =>
    have hmem : _ ∈ f.groupObjects job := List.mem_map_of_mem (Option.mem_toList.mpr h)
    exact mem_flatten_blocks 8 rfl (List.mem_map.mpr ⟨_, hmem, rfl⟩)
  | cluster h hc =>
    have hmem : _ ∈ f.clusterObjects job :=
      List.mem_flatMap.mpr ⟨_, Option.mem_toList.mpr h, List.mem_map_of_mem hc⟩
    exact mem_flatten_blocks 9 rfl (List.mem_map.mpr ⟨_, hmem, rfl⟩)

/-- The blocks hold what is emitted and nothing else. -/
theorem mem_blocks_iff {m : Manifest} : m ∈ (f.blocks job).flatten ↔ f.Emits job m := by
  refine ⟨?_, mem_blocks_of_emits⟩
  simp only [blocks, List.flatten_cons, List.flatten_nil, List.append_nil, List.mem_append]
  -- one case for each block, in the order of the run
  rintro (h | h | h | h | h | h | h | h | h | h)
  · rw [projectManifests] at h
    split at h
    · rcases List.mem_pair.mp h with rfl | rfl
      · exact .project ‹_›
      · exact .credentials ‹_›
    · cases h
  · obtain ⟨r, hr, rfl⟩ := List.mem_map.mp h
    exact .accessList (Option.mem_toList.mp hr)
  · obtain ⟨c, hc, rfl⟩ := List.mem_map.mp h
    exact .deployment hc
  · obtain ⟨out, hout, h⟩ := List.mem_flatMap.mp h
    rcases List.mem_cons.mp h with rfl | h
    · exact .user hout
    · obtain ⟨s, hs, rfl⟩ := List.mem_map.mp h
      exact .password hout (Option.mem_toList.mp hs)
  · obtain ⟨r, hr, rfl⟩ := List.mem_map.mp h
    obtain ⟨c, hc, rfl⟩ := List.mem_map.mp hr
    exact .container hc
  · obtain ⟨r, hr, rfl⟩ := List.mem_map.mp h
    obtain ⟨⟨p, n⟩, hp, rfl⟩ := List.mem_map.mp hr
    exact .peering hp
  · obtain ⟨out, hout, h⟩ := List.mem_flatMap.mp h
    obtain ⟨i, hi, hout⟩ := List.mem_filterMap.mp hout
    rcases List.mem_pair.mp h with rfl | rfl
    · exact .integration hi hout
    · exact .material hi hout
  · obtain ⟨x, hx, rfl⟩ := List.mem_map.mp h
    exact .federation hx
  · obtain ⟨o, ho, rfl⟩ := List.mem_map.mp h
    obtain ⟨t, ht, rfl⟩ := List.mem_map.mp ho
    exact .group (Option.mem_toList.mp ht)
  · obtain ⟨o, ho, rfl⟩ := List.mem_map.mp h
    obtain ⟨⟨t, clusters⟩, ht, ho⟩ := List.mem_flatMap.mp ho
    obtain ⟨c, hc, rfl⟩ := List.mem_map.mp ho
    exact .cluster (Option.mem_toList.mp ht) hc

/-- What is exported is what is emitted, in its namespace. -/
theorem mem_manifests_iff {m : Manifest} :
    m ∈ f.manifests job ↔ ∃ emitted, f.Emits job emitted ∧ emitted.within job.config.space = m := by
  rw [manifests, List.mem_map]
  exact exists_congr fun _ => and_congr_left fun _ => mem_blocks_iff

end Findings

/-! ## A small project -/

/-- A control plane with one project that has something of every kind. -/
def ControlPlane.small (name : String) : ControlPlane
  | .project id => .ok { id, name }
  | .settings _ => .ok {}
  | .accessList _ _ => .ok ⟨[{ ipAddress := some "192.0.2.1" }], none⟩
  | .clusters _ _ => .ok ⟨[{ name := "Orders" }, { name := "Orders archive" }], none⟩
  | .databaseUsers _ _ =>
    .ok ⟨[{ username := "app_user", databaseName := "admin" },
      { username := "app-user", databaseName := "admin" }], none⟩
  | .containers _ .aws _ =>
    .ok ⟨[{ id := some "c1", providerName := some "AWS", regionName := some "US_EAST_1" }], none⟩
  | .containers _ _ _ => .ok ⟨[], none⟩
  | .peerings _ .aws _ =>
    .ok ⟨[{ containerId := "c1", providerName := some "AWS" },
      { containerId := "c2", providerName := some "AWS" }], none⟩
  | .peerings _ _ _ => .ok ⟨[], none⟩
  | .integrations _ _ => .ok ⟨[{ kind := "SLACK" }], none⟩
  | .federations _ => .ok [{ name := "lake" }]

/-- The export of all kinds of a small project with a name. -/
def Job.small (name : String) : Job where
  controlPlane := .small name
  config := { space := "atlas", projectId := "1", generated := some {} }
  catalogue := .embedded
  word n := if n = 0 then "x0" else "x1"

/-- What can be computed of an export holds of it. -/
theorem Job.exists_of_any (job : Job) (p : List Manifest → Bool)
    (h : job.exported.result.toOption.any p = true) :
    ∃ manifests, job.exported.result = .ok manifests ∧ p manifests = true :=
  AtlasManifests.exists_of_any h

theorem Job.small_exported : ∃ manifests, (Job.small "Shop").exported.result = .ok manifests := by
  obtain ⟨manifests, h, _⟩ := (Job.small "Shop").exists_of_any (fun _ => true) (by decide +kernel)
  exact ⟨manifests, h⟩

end AtlasManifests
