import AtlasManifests.Proofs.LinkModes
import AtlasManifests.Proofs.Listings

/-! # What the selection of kinds decides

An export consists of one block for each kind that is selected, in the order of the kinds.  The
blocks are made here without a run, from what the control plane and the catalogue answer
(`Job.block`).  A block depends on the selection in two places only: peerings name containers that
are exported beside them, and clusters refer to a group that is exported beside them.  Otherwise
selecting kinds does nothing but filter (`Job.exported_select`).
-/
namespace AtlasManifests

/-! ## Selections -/

/-- A choice of kinds, in any order and with any repetitions. -/
structure Selection where
  kinds : List CuratedKind
  /-- The generated kinds, if there are to be any. -/
  generated : Option (List GeneratedKind)

/-- Whether a kind is selected. -/
def Selection.selects (s : Selection) : RunKind → Bool
  | .curated kind => s.kinds.contains kind
  | .generated kind => s.generated.any (·.contains kind)

/-- An export of other kinds, which is the same otherwise. -/
def Job.select (job : Job) (s : Selection) : Job :=
  { job with
    config :=
      { job.config with
        kinds := s.kinds
        generated := s.generated.map fun kinds => { job.config.generated.getD {} with kinds } } }

/-- What is made of the items that are selected is made of all of them, or left out. -/
theorem flatMap_filter {α β : Type} (p : α → Bool) (f : α → List β) (items : List α) :
    (items.filter p).flatMap f = items.flatMap fun a => if p a then f a else [] := by
  induction items with
  | nil => rfl
  | cons a rest ih =>
    rw [List.filter_cons, List.flatMap_cons]
    split
    · rw [List.flatMap_cons, ih]
    · rw [ih, List.nil_append]

/-- What a listing tells, which is nothing if it fails. -/
def Traced.told {ε α : Type} (listing : Traced ε (List α)) : List α :=
  listing.result.toOption.getD []

/-! ## Blocks -/

/-- The block of a kind, of those that are made of some findings. -/
def Findings.blockOf (f : Findings) (job : Job) : RunKind → List Manifest
  | .curated .project => f.projectManifests job
  | .curated .ipAccessList => ((f.ctx job).accessList f.entries).toList.map .accessList
  | .curated .deployment => f.clusters.map fun c => .deployment ((f.ctx job).deployment c)
  | .curated .databaseUser => f.converted.flatMap Context.userManifests
  | .curated .networkContainer => (f.containerResources job).map .container
  | .curated .networkPeering => (f.peeringResources job).map .peering
  | .curated .thirdPartyIntegration =>
    (f.integrationPairs job).flatMap fun (integration, secret) =>
      [.integration integration, .secret secret]
  | .curated .dataFederation => f.federations.map fun x => .federation ((f.ctx job).federation x)
  | .generated .group => (f.groupObjects job).map fun t => .generated t.object
  | .generated .cluster => (f.clusterObjects job).map fun t => .generated t.object

theorem Findings.blocks_eq_map (f : Findings) (job : Job) :
    f.blocks job = RunKind.all.map (f.blockOf job) := rfl

namespace Job

section
variable (job : Job) (project : Project) (settings : ProjectSettings)

/-- The mapper for a generated kind, if it can be made. -/
def mapper? (kind : GeneratedKind) : Option Mapper :=
  (job.mapper kind (job.config.generated.getD {})).toOption

/-- The containers that there are. -/
def containerResources : List (Resource ContainerSpec) :=
  (job.controlPlane.containers job.config.projectId job.pageSize).told.map
    (job.context project).container

/-- The group of the project. -/
def groupObjects : List MappedObject :=
  (job.mapper? .group).toList.map fun t =>
    t.group (job.context project) job.config.projectId project

/-- The block of a kind: its manifests, each with the secrets that accompany it.  Peerings name
containers if these are exported, and clusters refer to the group if it is exported. -/
def block (named grouped : Bool) : RunKind → List Manifest
  | .curated .project =>
    [.project ((job.context project).project project (some settings)),
      .secret ((job.context project).credentialsSecret job.config.credentials)]
  | .curated .ipAccessList =>
    ((job.context project).accessList
      (job.controlPlane.accessList job.config.projectId job.pageSize).told).toList.map .accessList
  | .curated .deployment =>
    (job.controlPlane.clusters job.config.projectId job.pageSize).told.map fun c =>
      .deployment ((job.context project).deployment c)
  | .curated .databaseUser =>
    (((job.context project).databaseUsers
      (job.controlPlane.databaseUsers job.config.projectId job.pageSize).told
      (initialClaims (job.context project))).getD []).flatMap Context.userManifests
  | .curated .networkContainer => (job.containerResources project).map .container
  | .curated .networkPeering =>
    (job.controlPlane.peerings job.config.projectId job.pageSize).told.zipIdx.map fun (p, n) =>
      .peering ((job.context project).peering p
        (.ofManifests (if named then job.containerResources project else [])) (job.word n))
  | .curated .thirdPartyIntegration =>
    ((job.controlPlane.integrations job.config.projectId job.pageSize).told.filterMap
      (job.context project).integration).flatMap fun (integration, secret) =>
        [.integration integration, .secret secret]
  | .curated .dataFederation =>
    (job.controlPlane.federations job.config.projectId).told.map fun x =>
      .federation ((job.context project).federation x)
  | .generated .group => (job.groupObjects project).map fun t => .generated t.object
  | .generated .cluster =>
    (job.mapper? .cluster).toList.flatMap fun t =>
      (job.controlPlane.clusters job.config.projectId job.pageSize).told.map fun c =>
        .generated (t.cluster (job.context project)
          (.ofMapped (if grouped then job.groupObjects project else [])) job.config.projectId
          c).object

end

variable {job : Job} {s : Selection}

/-! ## A run by its blocks -/

theorem Lists.eq_told {α : Type} {kind : CuratedKind} {listing : Traced Call (List α)}
    {found : List α} (h : (job.select s).Lists kind listing found) :
    found = if s.selects (.curated kind) then listing.told else [] := by
  refine h.eq_selected fun answer hanswer => ?_
  rw [Traced.told, hanswer]
  rfl

theorem MapsBy.eq_mapper? {kind : GeneratedKind} {mapper : Option Mapper}
    (h : (job.select s).MapsBy kind mapper) :
    mapper = if s.selects (.generated kind) then job.mapper? kind else none := by
  have hselects : (job.select s).config.exportsGenerated kind = s.selects (.generated kind) :=
    Option.any_map
  cases mapper with
  | none =>
    rw [MapsBy, hselects] at h
    rw [h]
    rfl
  | some t =>
    obtain ⟨config, hconfig, hkind, ht⟩ := h
    have hselected := exportsGenerated_iff.mpr ⟨config, hconfig, hkind⟩
    obtain ⟨kinds, _, rfl⟩ := Option.map_eq_some_iff.mp hconfig
    have ht' : job.mapper kind (job.config.generated.getD {}) = .ok t := ht
    rw [hselects] at hselected
    rw [if_pos hselected, mapper?, ht']
    rfl

section
variable {f : Findings} (hf : (job.select s).Finds f)
include hf

theorem containerResources_select : f.containerResources (job.select s) =
    if s.selects (.curated .networkContainer) then job.containerResources f.project else [] := by
  rw [Findings.containerResources, hf.containers.eq_told]
  split
  · rfl
  · rfl

theorem groupObjects_select : f.groupObjects (job.select s) =
    if s.selects (.generated .group) then job.groupObjects f.project else [] := by
  rw [Findings.groupObjects, hf.groupMapper.eq_mapper?]
  split
  · rfl
  · rfl

theorem converted_select (h : s.selects (.curated .databaseUser) = true) :
    (job.context f.project).databaseUsers
      (job.controlPlane.databaseUsers job.config.projectId job.pageSize).told
      (initialClaims (job.context f.project)) = some f.converted := by
  have husers := hf.users.eq_told
  rw [if_pos h] at husers
  have hconverted := hf.converted
  rwa [husers] at hconverted

theorem converted_select_eq_nil (h : s.selects (.curated .databaseUser) = false) :
    f.converted = [] := by
  have husers := hf.users.eq_told
  rw [if_neg (Bool.eq_false_iff.mp h)] at husers
  have hconverted := hf.converted
  rw [husers] at hconverted
  exact (Option.some.inj hconverted).symm

/-- Clusters are mapped if they are selected. -/
theorem clusterMapping_select : f.clusterMapping =
    if s.selects (.generated .cluster) then
      (job.mapper? .cluster).map
        (·, (job.controlPlane.clusters job.config.projectId job.pageSize).told)
    else none := by
  have hmapper := hf.clusterMapper.eq_mapper?
  cases hmapping : f.clusterMapping with
  | none =>
    rw [hmapping, Option.map_none] at hmapper
    split
    · rw [if_pos ‹_›] at hmapper
      rw [← hmapper]
      rfl
    · rfl
  | some mapping =>
    have hclusters : (job.controlPlane.clusters job.config.projectId job.pageSize).result =
        .ok mapping.2 := hf.mappedClusters mapping hmapping
    rw [hmapping, Option.map_some] at hmapper
    split
    · rw [if_pos ‹_›] at hmapper
      rw [← hmapper, Traced.told, hclusters]
      rfl
    · rw [if_neg ‹_›] at hmapper
      cases hmapper

/-- What a run finds makes the blocks of the selected kinds, and no others. -/
theorem blockOf_select (kind : RunKind) : f.blockOf (job.select s) kind =
    if s.selects kind then
      job.block f.project f.settings (s.selects (.curated .networkContainer))
        (s.selects (.generated .group)) kind
    else [] := by
  match kind with
  | .curated .project => rfl
  | .curated .ipAccessList =>
    rw [Findings.blockOf, hf.entries.eq_told]
    split
    · rfl
    · rfl
  | .curated .deployment =>
    rw [Findings.blockOf, hf.clusters.eq_told]
    split
    · rfl
    · rfl
  | .curated .databaseUser =>
    rw [Findings.blockOf, block]
    split
    · rw [converted_select hf ‹_›, Option.getD_some]
    · rw [converted_select_eq_nil hf (Bool.eq_false_iff.mpr ‹_›)]
      rfl
  | .curated .networkContainer =>
    rw [Findings.blockOf, containerResources_select hf]
    split
    · rfl
    · rfl
  | .curated .networkPeering =>
    rw [Findings.blockOf, Findings.peeringResources, hf.peerings.eq_told, List.map_map]
    split
    · rw [containerResources_select hf]
      rfl
    · rfl
  | .curated .thirdPartyIntegration =>
    rw [Findings.blockOf, Findings.integrationPairs, hf.integrations.eq_told]
    split
    · rfl
    · rfl
  | .curated .dataFederation =>
    rw [Findings.blockOf, hf.federations.eq_told]
    split
    · rfl
    · rfl
  | .generated .group =>
    rw [Findings.blockOf, groupObjects_select hf]
    split
    · rfl
    · rfl
  | .generated .cluster =>
    rw [Findings.blockOf, Findings.clusterObjects, clusterMapping_select hf]
    split
    · rw [groupObjects_select hf, block]
      cases job.mapper? .cluster with
      | none => rfl
      | some t =>
        rw [Option.map_some, Option.toList_some, Option.toList_some, List.flatMap_singleton,
          List.flatMap_singleton, List.map_map]
        rfl
    · rfl

end

end Job

/-! ## Namespaces -/

/-- What is emitted has its namespace already. -/
theorem Findings.Emits.within_eq {f : Findings} {job : Job} {m : Manifest} (hf : job.Finds f)
    (h : f.Emits job m) : m.within job.config.space = m := by
  cases h with
  | project _ => rfl
  | credentials _ =>
    unfold Context.credentialsSecret
    split
    · rfl
    · rfl
  | accessList h =>
    obtain ⟨_, rfl⟩ := (f.ctx job).accessList_cases h
    rfl
  | deployment _ => rfl
  | user h =>
    obtain ⟨user, _, name, secretName, _, _, _, rfl⟩ := Context.converts_of_mem _ hf.converted h
    rfl
  | password h hs =>
    obtain ⟨user, _, name, secretName, _, _, _, rfl⟩ := Context.converts_of_mem _ hf.converted h
    obtain ⟨name', _, rfl⟩ := Option.map_eq_some_iff.mp hs
    rfl
  | container _ => rfl
  | peering _ => rfl
  | integration _ hout =>
    obtain ⟨type, _, hresource, _⟩ := (f.ctx job).integration_cases hout
    rw [hresource]
    rfl
  | material _ hout =>
    obtain ⟨type, _, _, hsecret⟩ := (f.ctx job).integration_cases hout
    rw [hsecret]
    rfl
  | federation _ => rfl
  | group _ => rfl
  | cluster _ _ => rfl

/-! ## Where the selection matters -/

namespace Context

variable (ctx : Context)

/-- Without any containers to name, a peering is the same but for the id of its container. -/
theorem peering_ofManifests_nil (source : Peering) (index : ContainerIndex) (suffix : String) :
    ctx.peering source (.ofManifests []) suffix =
      { ctx.peering source index suffix with
        spec :=
          { (ctx.peering source index suffix).spec with
            containerRef := { id := some source.containerId } } } := by
  rw [peering, peering]
  cases providerOf source.providerName with
  | none => rfl
  | some provider => cases provider <;> rfl

theorem peering_containerRef (source : Peering) (index : ContainerIndex) (suffix : String) :
    (ctx.peering source index suffix).spec.containerRef =
      match index.nameOf source.containerId with
      | some name => { name := some name }
      | none => { id := some source.containerId } := by
  rw [peering]
  cases providerOf source.providerName with
  | none => rfl
  | some provider => cases provider <;> rfl

end Context

/-- A generated object under another name. -/
def Generated.named (name : String) (g : Generated) : Generated :=
  { g with metadata := { g.metadata with name := some name } }

namespace Mapper

variable {t : Mapper}

/-- Without its group, a specification does not depend on the groups that there are. -/
theorem ungrouped_specMembers (hregistry : t.registry = .usual) (ctx : Context)
    (refs refs' : ReferenceIndex) (source : Json) {params : List (String × String)}
    (hparams : IsPlace params) :
    (Json.obj (t.specMembers ctx
        (t.payload ctx.independent refs source params))).ungrouped =
      (Json.obj (t.specMembers ctx
        (t.payload ctx.independent refs' source params))).ungrouped := by
  have hpayload := (without_payload hregistry ctx.independent refs source hparams).trans
    (without_payload hregistry ctx.independent refs' source hparams).symm
  have htag : (Json.obj [(t.tag, .obj (t.payload ctx.independent refs source params))]).ungrouped =
      (Json.obj [(t.tag, .obj (t.payload ctx.independent refs' source params))]).ungrouped :=
    congrArg (fun content => Json.obj [(t.tag, content)]) hpayload
  rw [specMembers, specMembers]
  split
  · rw [Json.ungrouped, Json.ungrouped, Json.mapMembers, Json.mapMembers, Assoc.map_insert,
      Assoc.map_insert]
    exact congrArg (fun content => Json.obj (Assoc.insert secretKey _ [(t.tag, content)])) hpayload
  · exact htag

/-- Other groups change nothing in a manifest but its name and its group. -/
theorem mapSpec_toManifest (hregistry : t.registry = .usual) (ctx : Context) (name name' : String)
    (source : Json) {params : List (String × String)} (hparams : IsPlace params)
    (refs refs' : ReferenceIndex) :
    (t.toManifest ctx name source params refs).mapSpec Json.ungrouped =
      ((t.toManifest ctx name' source params refs').mapSpec Json.ungrouped).named name :=
  congrArg (fun spec => Generated.mk (some t.type) (ctx.metadata name)
    [("spec", spec), ("status", .empty)])
    (ungrouped_specMembers hregistry ctx refs refs' source hparams)

/-- The names of clusters begin with that of the group, if there is one for the id. -/
theorem clusterStem_cases {objects : List MappedObject} {name : String}
    (hname : ∀ o ∈ objects, o.object.metadata.name = some name) (id : String) :
    clusterStem (.ofMapped objects) id = name ∨
      clusterStem (.ofMapped objects) id = Label.normalize id := by
  rw [clusterStem]
  cases hfound : (ReferenceIndex.ofMapped objects).nameOf? GeneratedKind.group.word id with
  | none => exact .inr rfl
  | some found =>
    obtain ⟨o, ho, _, hfound⟩ := ReferenceIndex.exists_of_nameOf? hfound
    exact .inl (Option.some.inj (hfound.symm.trans (hname o ho)))

end Mapper

theorem ContainerIndex.ne_of_nameOf_eq_none {resources : List (Resource ContainerSpec)}
    {id : String} (h : (ofManifests resources).nameOf id = none) {r : Resource ContainerSpec}
    (hr : r ∈ resources) {name : String} (hname : r.metadata.name = some name) :
    r.spec.id ≠ some id := by
  intro hid
  have hentry : (id, name) ∈ (ofManifests resources).entries :=
    List.mem_filterMap.mpr ⟨r, hr, by rw [hid, hname]; rfl⟩
  have hne := List.lookup_eq_none_iff.mp h (id, name) (List.mem_reverse.mpr hentry)
  simp at hne

namespace Manifest

/-- Manifests of one peering, with some containers to name and with none.  The second one has the
id of the container, where the first one has the name of the container with this id if there is
one. -/
def LosesContainers (containers : List (Resource ContainerSpec)) (m m' : Manifest) : Prop :=
  ∃ (r : Resource PeeringSpec) (id : String), m = peering r ∧
    m' = peering { r with spec := { r.spec with containerRef := { id := some id } } } ∧
    (r.spec.containerRef = { id := some id } ∧ (∀ c ∈ containers, c.spec.id ≠ some id) ∨
      ∃ c ∈ containers, ∃ name, c.spec.id = some id ∧ c.metadata.name = some name ∧
        r.spec.containerRef = { name := some name })

/-- Manifests of one cluster, with a group to refer to and with none.  The name of the second one
begins with the id of the project, where that of the first one may begin with the name of the
project, and they may say differently which group they belong to. -/
def LosesGroup (projectName id : String) (m m' : Manifest) : Prop :=
  ∃ (g g' : Generated) (stem part : String), m = generated g ∧ m' = generated g' ∧
    (stem = Label.normalize projectName ∨ stem = Label.normalize id) ∧
    g'.metadata.name = some (Label.normalizeParts [Label.normalize id, part]) ∧
    g.mapSpec Json.ungrouped =
      (g'.mapSpec Json.ungrouped).named (Label.normalizeParts [stem, part])

end Manifest

namespace Job

/-- The block of a kind has objects of this kind and secrets for them only.  It is the same
whatever else is selected, but for what peerings say of their containers, and clusters of their
group. -/
structure SeparatesBlocks (job : Job) (project : Project) (settings : ProjectSettings) : Prop where
  curated : ∀ named grouped kind, ∀ m ∈ job.block project settings named grouped (.curated kind),
    m.curated? = some kind ∨ ∃ s, m = .secret s
  generated : ∀ named grouped kind,
    ∀ m ∈ job.block project settings named grouped (.generated kind),
      ∃ t g, job.mapper? kind = some t ∧ m = .generated g ∧ g.type = some t.type
  alone : ∀ kind, kind ≠ .curated .networkPeering → kind ≠ .generated .cluster →
    ∀ named named' grouped grouped', job.block project settings named grouped kind =
      job.block project settings named' grouped' kind
  peerings : ∀ named grouped grouped',
    job.block project settings named grouped (.curated .networkPeering) =
      job.block project settings named grouped' (.curated .networkPeering)
  clusters : ∀ named named' grouped,
    job.block project settings named grouped (.generated .cluster) =
      job.block project settings named' grouped (.generated .cluster)
  containerRefs : ∀ grouped,
    List.Forall₂ (Manifest.LosesContainers (job.containerResources project))
    (job.block project settings true grouped (.curated .networkPeering))
    (job.block project settings false grouped (.curated .networkPeering))
  groupRefs : ∀ named, List.Forall₂ (Manifest.LosesGroup project.name job.config.projectId)
    (job.block project settings named true (.generated .cluster))
    (job.block project settings named false (.generated .cluster))

variable {job : Job} {project : Project} {settings : ProjectSettings}

theorem curated?_of_mem_block {named grouped : Bool} {kind : CuratedKind} {m : Manifest}
    (h : m ∈ job.block project settings named grouped (.curated kind)) :
    m.curated? = some kind ∨ ∃ s, m = .secret s := by
  cases kind with
  | project =>
    rcases List.mem_pair.mp h with rfl | rfl
    · exact .inl rfl
    · exact .inr ⟨_, rfl⟩
  | databaseUser =>
    obtain ⟨out, _, h⟩ := List.mem_flatMap.mp h
    rcases List.mem_cons.mp h with rfl | h
    · exact .inl rfl
    · obtain ⟨s, _, rfl⟩ := List.mem_map.mp h
      exact .inr ⟨s, rfl⟩
  | thirdPartyIntegration =>
    obtain ⟨out, _, h⟩ := List.mem_flatMap.mp h
    rcases List.mem_pair.mp h with rfl | rfl
    · exact .inl rfl
    · exact .inr ⟨_, rfl⟩
  | ipAccessList | deployment | networkContainer | networkPeering | dataFederation =>
    obtain ⟨_, _, rfl⟩ := List.mem_map.mp h
    exact .inl rfl

theorem registry_of_mapper? {kind : GeneratedKind} {t : Mapper} (h : job.mapper? kind = some t) :
    t.registry = job.registry := by
  rw [mapper?] at h
  cases hmapper : job.mapper kind (job.config.generated.getD {}) with
  | error e =>
    rw [hmapper] at h
    cases h
  | ok t' =>
    rw [hmapper] at h
    obtain rfl := Option.some.inj h
    obtain ⟨_, _, hregistry, _⟩ := Catalogue.mapper_spec hmapper
    exact hregistry

theorem type_of_mem_block {named grouped : Bool} {kind : GeneratedKind} {m : Manifest}
    (h : m ∈ job.block project settings named grouped (.generated kind)) :
    ∃ t g, job.mapper? kind = some t ∧ m = .generated g ∧ g.type = some t.type := by
  cases kind with
  | group =>
    obtain ⟨o, ho, rfl⟩ := List.mem_map.mp h
    obtain ⟨t, ht, rfl⟩ := List.mem_map.mp ho
    exact ⟨t, _, Option.mem_toList.mp ht, rfl, rfl⟩
  | cluster =>
    obtain ⟨t, ht, h⟩ := List.mem_flatMap.mp h
    obtain ⟨c, _, rfl⟩ := List.mem_map.mp h
    exact ⟨t, _, Option.mem_toList.mp ht, rfl, rfl⟩

theorem containerRefs_block {grouped : Bool} :
    List.Forall₂ (Manifest.LosesContainers (job.containerResources project))
      (job.block project settings true grouped (.curated .networkPeering))
      (job.block project settings false grouped (.curated .networkPeering)) := by
  rw [block, block, List.forall₂_map_left_iff, List.forall₂_map_right_iff, List.forall₂_same]
  rintro ⟨p, n⟩ -
  let index := ContainerIndex.ofManifests (job.containerResources project)
  have href := (job.context project).peering_containerRef p index (job.word n)
  refine ⟨(job.context project).peering p index (job.word n), p.containerId, rfl,
    congrArg Manifest.peering ((job.context project).peering_ofManifests_nil p index _), ?_⟩
  cases hname : index.nameOf p.containerId with
  | none =>
    rw [hname] at href
    refine .inl ⟨href, fun c hc => ?_⟩
    obtain ⟨source, _, rfl⟩ := List.mem_map.mp hc
    exact ContainerIndex.ne_of_nameOf_eq_none hname hc rfl
  | some name =>
    rw [hname] at href
    obtain ⟨c, hc, hid, hcname⟩ := ContainerIndex.exists_of_nameOf hname
    exact .inr ⟨c, hc, name, hid, hcname, href⟩

theorem groupRefs_block (hregistry : job.registry = .usual) {named : Bool} :
    List.Forall₂ (Manifest.LosesGroup project.name job.config.projectId)
      (job.block project settings named true (.generated .cluster))
      (job.block project settings named false (.generated .cluster)) := by
  have hname : ∀ o ∈ job.groupObjects project,
      o.object.metadata.name = some (Label.normalize project.name) := by
    intro o ho
    obtain ⟨_, _, rfl⟩ := List.mem_map.mp ho
    rfl
  rw [block, block]
  cases hmapper : job.mapper? .cluster with
  | none => exact .nil
  | some t =>
    have ht : t.registry = .usual := (registry_of_mapper? hmapper).trans hregistry
    rw [Option.toList_some, List.flatMap_singleton, List.flatMap_singleton,
      List.forall₂_map_left_iff, List.forall₂_map_right_iff, List.forall₂_same]
    intro c _
    exact ⟨_, _, _, c.name, rfl, rfl, Mapper.clusterStem_cases hname _, rfl,
      Mapper.mapSpec_toManifest ht _ _ _ _ (.inr ⟨_, rfl⟩) _ _⟩

theorem separatesBlocks (hregistry : job.registry = .usual) :
    job.SeparatesBlocks project settings where
  curated _ _ _ _ := curated?_of_mem_block
  generated _ _ _ _ := type_of_mem_block
  alone kind hpeering hcluster named named' grouped grouped' := by
    match kind with
    | .curated .networkPeering => exact absurd rfl hpeering
    | .generated .cluster => exact absurd rfl hcluster
    | .curated .project | .curated .ipAccessList | .curated .deployment | .curated .databaseUser
    | .curated .networkContainer | .curated .thirdPartyIntegration | .curated .dataFederation
    | .generated .group => rfl
  peerings _ _ _ := rfl
  clusters _ _ _ := rfl
  containerRefs _ := containerRefs_block
  groupRefs _ := groupRefs_block hregistry

theorem manifests_select {s : Selection} {f : Findings} (hf : (job.select s).Finds f) :
    f.manifests (job.select s) = (RunKind.all.filter s.selects).flatMap
      (job.block f.project f.settings (s.selects (.curated .networkContainer))
        (s.selects (.generated .group))) := by
  have hwithin : ∀ m ∈ (f.blocks (job.select s)).flatten,
      m.within (job.select s).config.space = id m := fun m hm =>
    (Findings.mem_blocks_iff.mp hm).within_eq hf
  have hblocks : f.blocks (job.select s) = RunKind.all.map fun kind =>
      if s.selects kind then job.block f.project f.settings
        (s.selects (.curated .networkContainer)) (s.selects (.generated .group)) kind
      else [] := by
    rw [Findings.blocks_eq_map]
    exact List.map_congr_left fun kind _ => blockOf_select hf kind
  rw [Findings.manifests, List.map_congr_left hwithin, List.map_id, hblocks, ← List.flatMap_def,
    flatMap_filter]

/-- **Selecting kinds only filters.**  An export is made of the blocks of the selected kinds, in
the order of the kinds.  The blocks are always the same, with two exceptions: peerings name
containers only if these are exported, and clusters have the name of the group, and refer to it,
only if it is exported. -/
theorem exported_select (hregistry : job.registry = .usual) :
    (∀ s manifests, (job.select s).exported.result = .ok manifests → ∃ project settings,
      job.controlPlane (.project job.config.projectId) = .ok project ∧
      job.controlPlane (.settings job.config.projectId) = .ok settings ∧
      manifests = (RunKind.all.filter s.selects).flatMap
        (job.block project settings (s.selects (.curated .networkContainer))
          (s.selects (.generated .group)))) ∧
    ∀ project settings, job.SeparatesBlocks project settings := by
  refine ⟨fun s manifests h => ?_, fun _ _ => separatesBlocks hregistry⟩
  obtain ⟨f, hf, rfl⟩ := exported_eq_ok_iff.mp h
  exact ⟨f.project, f.settings, hf.project, hf.settings, manifests_select hf⟩

end Job

/-- Peerings with the containers exported beside them, and without: only the first one has its
container there. -/
example : ([true, false].map fun named =>
    (((Job.small "Shop").block { id := "1", name := "Shop" } {} named true
      (.curated .networkPeering)).filterMap Manifest.peering?).map (·.spec.containerRef.name)) =
    [[some "shop-container-aws-useast1", none], [none, none]] := by decide +kernel

/-- Clusters with the group exported beside them, and without. -/
example : ([true, false].map fun grouped =>
    ((Job.small "Shop").block { id := "1", name := "Shop" } {} true grouped
      (.generated .cluster)).map Manifest.name) =
    [["shop-orders", "shop-orders-archive"], ["1-orders", "1-orders-archive"]] := by
  decide +kernel

/-- A selection without containers and without the group, in another order than that of the
kinds. -/
def Selection.sparse : Selection :=
  ⟨[.networkPeering, .deployment, .networkPeering], some [.cluster, .cluster]⟩

/-- The export of some kinds of a small project. -/
theorem Job.exported_select_small :
    (Job.small "Shop").registry = .usual ∧ ∃ manifests project settings,
      ((Job.small "Shop").select .sparse).exported.result = .ok manifests ∧
      manifests.length = 6 ∧
      manifests = [.curated .deployment, .curated .networkPeering, .generated .cluster].flatMap
        ((Job.small "Shop").block project settings false false) := by
  have hregistry : (Job.small "Shop").registry = .usual := rfl
  obtain ⟨manifests, hmanifests, hlength⟩ := ((Job.small "Shop").select .sparse).exists_of_any
    (fun manifests => manifests.length == 6) (by decide +kernel)
  obtain ⟨project, settings, -, -, heq⟩ :=
    (Job.exported_select hregistry).1 .sparse manifests hmanifests
  exact ⟨hregistry, manifests, project, settings, hmanifests, beq_iff_eq.mp hlength, heq⟩

end AtlasManifests
