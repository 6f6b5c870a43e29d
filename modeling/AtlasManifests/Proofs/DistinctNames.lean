import AtlasManifests.Proofs.Findings
import Mathlib.Data.List.Nodup
import Mathlib.Data.List.Perm.Basic

/-! # When the objects of an export have names of their own

Two objects of one kind must not share a name.  Users and their secrets never do, since they claim
their names, and neither do peerings with different words.  The names of all other objects are only
made of texts behind the name of the project and cut to sixty-three characters; nothing looks at
names in use.  So they differ exactly if what there is room for behind the name of the project
differs (`Findings.ToldApart`), which a long name prevents
(`Job.longNamed_keys_not_nodup`).

The proof sorts an export by kind (`Findings.keys_perm`) and goes through the kinds one by one.
-/
namespace AtlasManifests

/-! ## Lists -/

/-- Two ways to name things are equally distinct if they confuse the same things. -/
theorem nodup_map_congr {α β γ : Type} {f : α → β} {g : α → γ} {l : List α}
    (h : ∀ a b, f a = f b ↔ g a = g b) : (l.map f).Nodup ↔ (l.map g).Nodup := by
  rw [List.Nodup, List.Nodup, List.pairwise_map, List.pairwise_map]
  simp only [ne_eq, h]

/-- Names are kept apart by their kinds. -/
theorem nodup_keys_iff {groups : List (String × List String)}
    (hkinds : (groups.map (·.1)).Nodup) :
    (groups.flatMap fun g => g.2.map (g.1, ·)).Nodup ↔ ∀ g ∈ groups, g.2.Nodup := by
  rw [List.nodup_flatMap]
  refine (and_iff_left ?_).trans (forall₂_congr fun g _ => ?_)
  · refine (List.pairwise_map.mp hkinds).imp fun hne key hkey hkey' => ?_
    obtain ⟨_, _, rfl⟩ := List.mem_map.mp hkey
    obtain ⟨_, _, heq⟩ := List.mem_map.mp hkey'
    exact hne (Prod.mk.inj heq).1.symm
  · exact List.nodup_map_iff fun _ _ heq => (Prod.mk.inj heq).2

/-! ## The kinds of definitions -/

namespace Catalogue

/-- What is found for a kind is a definition of that kind. -/
def KeepsKinds (c : Catalogue) : Prop :=
  ∀ kind version d, c.find kind version = .ok d → d.kind = kind

theorem keepsKinds_split {files : List SplitFile}
    (h : ∀ file ∈ files, ∀ d, file.source.read = .ok d → d.kind = file.kind) :
    (split files).KeepsKinds := by
  intro kind version d hd
  simp only [find] at hd
  split at hd
  · cases hd
  · split at hd
    · cases hd
    · next file hfind =>
      have hkind : file.kind = kind := beq_iff_eq.mp (List.find?_some hfind :)
      have hmem := List.mem_of_mem_filter (List.mem_of_find?_eq_some hfind)
      exact (h file hmem d hd).trans hkind

theorem keepsKinds_embedded : embedded.KeepsKinds := by
  refine keepsKinds_split fun file hfile d hd => ?_
  obtain ⟨⟨version, kind, definition⟩, hmem, rfl⟩ := List.mem_map.mp hfile
  obtain rfl := Except.ok.inj hd
  have hall : ∀ entry ∈ Embedded.all, entry.2.2.kind = entry.2.1 := by decide
  exact hall _ hmem

end Catalogue

/-! ## The names of an export by kind -/

theorem Manifest.key_within (space : String) (m : Manifest) : (m.within space).key = m.key := by
  rw [key, name_within, within, kind_withMetadata, key]

theorem Manifest.map_key_map {α : Type} {l : List α} {object : α → Manifest} {kind : String}
    {name : α → String} (h : ∀ x ∈ l, (object x).key = (kind, name x)) :
    (l.map object).map key = (l.map name).map (kind, ·) := by
  rw [List.map_map, List.map_map]
  exact List.map_congr_left h

namespace Findings

variable (f : Findings) (job : Job)

/-- The known types of the integrations. -/
def types : List IntegrationType := f.integrations.filterMap fun i => IntegrationType.ofTag? i.kind

/-- The texts that tell the secrets apart whose names nobody claims. -/
def secretParts : List (List String) :=
  (if job.config.exports .project then [["credentials"]] else []) ++
    f.types.map fun t => [t.dashed, "integration", "secret"]

/-- The names of the secrets of passwords. -/
def passwordNames : List String :=
  f.converted.flatMap fun out => out.2.toList.map fun s => (Manifest.secret s).name

/-- The name of a peering with a word. -/
def peeringName (p : Peering) (word : String) : String :=
  Label.unique [(f.ctx job).projectName, "peering", lowerTag (p.providerName.getD ""),
    p.regionToken] word

/-- The names of all objects by their kinds. -/
def named : List (String × List String) :=
  [(CuratedKind.project.resource,
      if job.config.exports .project then [(f.ctx job).projectResourceName] else []),
    ("Secret", (f.secretParts job).map (f.ctx job).scopedName ++ f.passwordNames),
    (CuratedKind.ipAccessList.resource,
      ((f.ctx job).accessList f.entries).toList.map fun r => (Manifest.accessList r).name),
    (CuratedKind.deployment.resource, f.clusters.map fun c => (f.ctx job).scopedName [c.name]),
    (CuratedKind.databaseUser.resource,
      f.converted.map fun out => (Manifest.databaseUser out.1).name),
    (CuratedKind.networkContainer.resource, f.containers.map fun c =>
      (f.ctx job).scopedName ["container", lowerTag (c.providerName.getD ""), c.regionToken]),
    (CuratedKind.networkPeering.resource,
      f.peerings.zipIdx.map fun (p, n) => f.peeringName job p (job.word n)),
    (CuratedKind.thirdPartyIntegration.resource,
      f.types.map fun t => (f.ctx job).scopedName [t.dashed, "integration"]),
    (CuratedKind.dataFederation.resource,
      f.federations.map fun x => (f.ctx job).scopedName [x.name]),
    (GeneratedKind.group.word,
      (f.groupObjects job).map fun t => (Manifest.generated t.object).name),
    (GeneratedKind.cluster.word,
      (f.clusterObjects job).map fun t => (Manifest.generated t.object).name)]

theorem named_kinds_nodup : ((f.named job).map (·.1)).Nodup := by
  simp only [named, List.map_cons, List.map_nil]
  decide

theorem map_key_projectManifests :
    (f.projectManifests job).map Manifest.key =
      (if job.config.exports .project then [(f.ctx job).projectResourceName] else []).map
          (CuratedKind.project.resource, ·) ++
        ((if job.config.exports .project then [["credentials"]] else []).map
          (f.ctx job).scopedName).map ("Secret", ·) := by
  rw [projectManifests]
  split
  · simp only [List.map_cons, List.map_nil, List.singleton_append]
    refine congrArg₂ List.cons rfl (congrArg₂ List.cons ?_ rfl)
    rw [Manifest.key, Manifest.name, Manifest.metadata, Context.credentialsSecret_name]
    rfl
  · rfl

theorem map_key_userManifests :
    ((f.converted.flatMap Context.userManifests).map Manifest.key).Perm
      ((f.converted.map fun out => (Manifest.databaseUser out.1).name).map
          (CuratedKind.databaseUser.resource, ·) ++
        f.passwordNames.map ("Secret", ·)) := by
  have hperm := (List.map_append_flatMap_perm f.converted
    (fun out => Manifest.key (.databaseUser out.1))
    (fun out => out.2.toList.map fun s => Manifest.key (.secret s))).symm
  simpa [List.map_flatMap, Context.userManifests, passwordNames, Function.comp_def, Manifest.key,
    Manifest.kind] using hperm

variable {f job} in
/-- What the integrations and their secrets are called follows from their types. -/
theorem map_integrationPairs {α : Type} {g : Resource IntegrationSpec × Secret → α}
    {h : IntegrationType → α}
    (hg : ∀ i out, (f.ctx job).integration i = some out → ∀ t,
      IntegrationType.ofTag? i.kind = some t → g out = h t) :
    (f.integrationPairs job).map g = f.types.map h := by
  rw [integrationPairs, types, List.map_filterMap, List.map_filterMap]
  refine List.filterMap_congr fun i _ => ?_
  have hi := hg i
  rw [Context.integration] at hi ⊢
  cases htype : IntegrationType.ofTag? i.kind with
  | none => rfl
  | some t =>
    rw [htype] at hi
    exact congrArg some (hi _ rfl t rfl)

theorem map_key_integrationPairs :
    (((f.integrationPairs job).flatMap fun (integration, secret) =>
        [Manifest.integration integration, .secret secret]).map Manifest.key).Perm
      ((f.types.map fun t => (f.ctx job).scopedName [t.dashed, "integration"]).map
          (CuratedKind.thirdPartyIntegration.resource, ·) ++
        ((f.types.map fun t => [t.dashed, "integration", "secret"]).map
          (f.ctx job).scopedName).map ("Secret", ·)) := by
  have hperm := (List.map_append_flatMap_perm (f.integrationPairs job)
    (fun out => Manifest.key (.integration out.1)) (fun out => [Manifest.key (.secret out.2)])).symm
  have hintegrations : (f.integrationPairs job).map (fun out => Manifest.key (.integration out.1)) =
      f.types.map fun t => (CuratedKind.thirdPartyIntegration.resource,
        (f.ctx job).scopedName [t.dashed, "integration"]) := by
    refine map_integrationPairs fun i out hout t ht => ?_
    obtain ⟨t', ht', hresource, _⟩ := (f.ctx job).integration_cases hout
    obtain rfl := Option.some.inj (ht'.symm.trans ht)
    rw [hresource]
    rfl
  have hsecrets : (f.integrationPairs job).map (fun out => Manifest.key (.secret out.2)) =
      f.types.map fun t => ("Secret",
        (f.ctx job).scopedName [t.dashed, "integration", "secret"]) := by
    refine map_integrationPairs fun i out hout t ht => ?_
    obtain ⟨t', ht', _, hsecret⟩ := (f.ctx job).integration_cases hout
    obtain rfl := Option.some.inj (ht'.symm.trans ht)
    rw [hsecret]
    rfl
  rw [hintegrations, ← List.map_eq_flatMap, hsecrets] at hperm
  rw [List.map_flatMap, List.map_map, List.map_map, List.map_map]
  exact hperm

variable {f job}

theorem map_key_groupObjects (hkinds : job.catalogue.KeepsKinds) (hf : job.Finds f) :
    ((f.groupObjects job).map fun t => Manifest.generated t.object).map Manifest.key =
      ((f.groupObjects job).map fun t => (Manifest.generated t.object).name).map
        (GeneratedKind.group.word, ·) := by
  refine Manifest.map_key_map fun o ho => ?_
  obtain ⟨t, ht, rfl⟩ := List.mem_map.mp ho
  obtain ⟨_, d, _, _, hd, _, hkind, _⟩ := (hf.mapsBy_group (Option.mem_toList.mp ht)).spec
  exact congrArg (·, _) (hkind.trans (hkinds _ _ _ hd))

theorem map_key_clusterObjects (hkinds : job.catalogue.KeepsKinds) (hf : job.Finds f) :
    ((f.clusterObjects job).map fun t => Manifest.generated t.object).map Manifest.key =
      ((f.clusterObjects job).map fun t => (Manifest.generated t.object).name).map
        (GeneratedKind.cluster.word, ·) := by
  refine Manifest.map_key_map fun o ho => ?_
  obtain ⟨⟨t, clusters⟩, ht, ho⟩ := List.mem_flatMap.mp ho
  obtain ⟨c, _, rfl⟩ := List.mem_map.mp ho
  obtain ⟨_, d, _, _, hd, _, hkind, _⟩ := (hf.mapsBy_cluster (Option.mem_toList.mp ht)).spec
  exact congrArg (·, _) (hkind.trans (hkinds _ _ _ hd))

/-- **An export sorted by kind**: what keeps its objects apart are the names of each kind. -/
theorem keys_perm (hkinds : job.catalogue.KeepsKinds) (hf : job.Finds f) :
    ((f.manifests job).map Manifest.key).Perm
      ((f.named job).flatMap fun g => g.2.map (g.1, ·)) := by
  have hwithin : (f.manifests job).map Manifest.key = (f.blocks job).flatten.map Manifest.key := by
    rw [manifests, List.map_map]
    exact List.map_congr_left fun m _ => m.key_within job.config.space
  have hentries : (((f.ctx job).accessList f.entries).toList.map Manifest.accessList).map
      Manifest.key = (((f.ctx job).accessList f.entries).toList.map fun r =>
        (Manifest.accessList r).name).map (CuratedKind.ipAccessList.resource, ·) :=
    Manifest.map_key_map fun _ _ => rfl
  have hdeployments : (f.clusters.map fun c => Manifest.deployment ((f.ctx job).deployment c)).map
      Manifest.key = (f.clusters.map fun c => (f.ctx job).scopedName [c.name]).map
        (CuratedKind.deployment.resource, ·) := Manifest.map_key_map fun _ _ => rfl
  have hcontainers : ((f.containerResources job).map Manifest.container).map Manifest.key =
      (f.containers.map fun c => (f.ctx job).scopedName ["container",
        lowerTag (c.providerName.getD ""), c.regionToken]).map
          (CuratedKind.networkContainer.resource, ·) := by
    rw [containerResources, List.map_map, List.map_map, List.map_map]
    exact List.map_congr_left fun _ _ => rfl
  have hpeerings : ((f.peeringResources job).map Manifest.peering).map Manifest.key =
      (f.peerings.zipIdx.map fun (p, n) => f.peeringName job p (job.word n)).map
        (CuratedKind.networkPeering.resource, ·) := by
    rw [peeringResources, List.map_map, List.map_map, List.map_map]
    exact List.map_congr_left fun _ _ => rfl
  have hfederations : (f.federations.map fun x =>
      Manifest.federation ((f.ctx job).federation x)).map Manifest.key =
        (f.federations.map fun x => (f.ctx job).scopedName [x.name]).map
          (CuratedKind.dataFederation.resource, ·) := Manifest.map_key_map fun _ _ => rfl
  -- both sides hold the same keys equally often
  refine List.perm_iff_count.mpr fun key => ?_
  have husers := f.map_key_userManifests.count_eq key
  have hintegrations := (f.map_key_integrationPairs job).count_eq key
  rw [hwithin]
  simp only [blocks, named, secretParts, List.flatten_cons, List.flatten_nil, List.flatMap_cons,
    List.flatMap_nil, List.append_nil, List.map_append, List.count_append, hentries, hdeployments,
    hcontainers, hpeerings, hfederations, f.map_key_projectManifests job,
    map_key_groupObjects hkinds hf, map_key_clusterObjects hkinds hf] at husers hintegrations ⊢
  omega

/-! ## Names that are always distinct -/

theorem users_nodup (hf : job.Finds f) :
    (f.converted.map fun out => (Manifest.databaseUser out.1).name).Nodup ∧
      f.passwordNames.Nodup ∧ (f.ctx job).credentialsSecretName ∉ f.passwordNames := by
  obtain ⟨hnodup, hfree⟩ := (f.ctx job).databaseUsers_fresh hf.converted
  have hperm := f.map_key_userManifests
  obtain ⟨husers, hpasswords, _⟩ := List.nodup_append.mp (hperm.nodup_iff.mp hnodup)
  refine ⟨husers.of_map, hpasswords.of_map, fun hmem => ?_⟩
  have hkey : ("Secret", (f.ctx job).credentialsSecretName) ∈
      (f.converted.flatMap Context.userManifests).map Manifest.key :=
    hperm.mem_iff.mpr (List.mem_append_right _ (List.mem_map_of_mem hmem))
  exact hfree _ hkey Claims.mem_taken_reserve

variable (f job) in
/-- The words that are drawn for the peerings are words, and no two of them are equal. -/
structure HasDistinctWords : Prop where
  isWord : ∀ n < f.peerings.length, Label.IsWord (job.word n).toList
  injective : ∀ m n, m < f.peerings.length → n < f.peerings.length →
    job.word m = job.word n → m = n

theorem peerings_nodup (hwords : f.HasDistinctWords job) :
    (f.peerings.zipIdx.map fun (p, n) => f.peeringName job p (job.word n)).Nodup := by
  have hlt : ∀ x ∈ f.peerings.zipIdx, x.2 < f.peerings.length := by
    intro x hx
    simpa using List.snd_lt_of_mem_zipIdx hx
  have hnumbers : (f.peerings.zipIdx.map Prod.snd).Nodup := by
    rw [List.zipIdx_map_snd]
    exact List.nodup_range'
  have hdrawn : (f.peerings.zipIdx.map fun x => job.word x.2).Nodup :=
    List.pairwise_map.mpr ((List.pairwise_map.mp hnumbers).imp_of_mem fun hx hy hne heq =>
      hne (hwords.injective _ _ (hlt _ hx) (hlt _ hy) heq))
  exact Label.unique_nodup (fun x hx => hwords.isWord x.2 (hlt x hx)) hdrawn

/-! ## Names that may be cut alike -/

theorem scopedName_nodup_iff {α : Type} {ctx : Context} {l : List α} {parts : α → List String} :
    (l.map fun x => ctx.scopedName (parts x)).Nodup ↔
      (l.map fun x => Label.behind ctx.projectName (parts x)).Nodup :=
  nodup_map_congr fun _ _ => Label.normalizeParts_cons_eq_iff

variable (f job) in
/-- The name that the names of the generated clusters begin with. -/
def clusterStem : String :=
  Mapper.clusterStem (.ofMapped (f.groupObjects job)) job.config.projectId

variable (f job) in
/-- The clusters that are mapped. -/
def mappedClusters : List Cluster := f.clusterMapping.toList.flatMap (·.2)

variable (f job) in
/-- The objects of each kind are told apart by what their names show behind the name of the
project, and no password has the secret of an integration for its own. -/
structure ToldApart : Prop where
  deployments : (f.clusters.map fun c => Label.behind (f.ctx job).projectName [c.name]).Nodup
  containers : (f.containers.map fun c => Label.behind (f.ctx job).projectName
    ["container", lowerTag (c.providerName.getD ""), c.regionToken]).Nodup
  integrations : (f.types.map fun t => Label.behind (f.ctx job).projectName
    [t.dashed, "integration"]).Nodup
  federations : (f.federations.map fun x => Label.behind (f.ctx job).projectName [x.name]).Nodup
  secrets : ((f.secretParts job).map (Label.behind (f.ctx job).projectName)).Nodup
  passwords : ∀ name ∈ f.passwordNames, ∀ t ∈ f.types,
    name ≠ (f.ctx job).scopedName [t.dashed, "integration", "secret"]
  clusters : (f.mappedClusters.map fun c => Label.behind (f.clusterStem job) [c.name]).Nodup

theorem secrets_nodup_iff (hf : job.Finds f) :
    ((f.secretParts job).map (f.ctx job).scopedName ++ f.passwordNames).Nodup ↔
      ((f.secretParts job).map (Label.behind (f.ctx job).projectName)).Nodup ∧
        ∀ name ∈ f.passwordNames, ∀ t ∈ f.types,
          name ≠ (f.ctx job).scopedName [t.dashed, "integration", "secret"] := by
  obtain ⟨_, hpasswords, hcredentials⟩ := users_nodup hf
  rw [List.nodup_append, scopedName_nodup_iff]
  refine and_congr_right fun _ => ?_
  constructor
  · rintro ⟨_, hapart⟩ name hname t ht heq
    refine hapart _ ?_ _ hname heq.symm
    exact List.mem_map_of_mem (List.mem_append_right _ (List.mem_map_of_mem ht))
  · refine fun hapart => ⟨hpasswords, fun secret hsecret name hname heq => ?_⟩
    obtain ⟨parts, hparts, rfl⟩ := List.mem_map.mp hsecret
    rcases List.mem_append.mp hparts with hparts | hparts
    · -- the name of the project's secret was taken before any password got one
      split at hparts
      · obtain rfl := List.mem_singleton.mp hparts
        subst heq
        exact hcredentials hname
      · cases hparts
    · obtain ⟨t, ht, rfl⟩ := List.mem_map.mp hparts
      exact hapart name hname t ht heq.symm

theorem clusters_nodup_iff :
    ((f.clusterObjects job).map fun t => (Manifest.generated t.object).name).Nodup ↔
      (f.mappedClusters.map fun c => Label.behind (f.clusterStem job) [c.name]).Nodup := by
  have hnames : (f.clusterObjects job).map (fun t => (Manifest.generated t.object).name) =
      f.mappedClusters.map fun c => Label.normalizeParts [f.clusterStem job, c.name] := by
    rw [clusterObjects, mappedClusters, List.map_flatMap, List.map_flatMap]
    refine List.flatMap_congr fun mapping _ => ?_
    rw [List.map_map]
    rfl
  rw [hnames]
  exact nodup_map_congr fun _ _ => Label.normalizeParts_cons_eq_iff

/-- **Which exports have distinct names**: those whose objects are told apart. -/
theorem keys_nodup_iff (hkinds : job.catalogue.KeepsKinds) (hf : job.Finds f)
    (hwords : f.HasDistinctWords job) :
    ((f.manifests job).map Manifest.key).Nodup ↔ f.ToldApart job := by
  rw [(keys_perm hkinds hf).nodup_iff, nodup_keys_iff (f.named_kinds_nodup job)]
  simp only [named, List.forall_mem_cons, scopedName_nodup_iff, secrets_nodup_iff hf,
    clusters_nodup_iff, (users_nodup hf).1, peerings_nodup hwords]
  constructor
  · rintro ⟨_, ⟨hsecrets, hpasswords⟩, _, hdeployments, _, hcontainers, _, hintegrations,
      hfederations, _, hclusters, _⟩
    exact ⟨hdeployments, hcontainers, hintegrations, hfederations, hsecrets, hpasswords, hclusters⟩
  · -- of projects, access lists and groups there is one at most
    intro h
    refine ⟨?_, ⟨h.secrets, h.passwords⟩, ?_, h.deployments, trivial, h.containers, trivial,
      h.integrations, h.federations, ?_, h.clusters, by simp⟩
    · split <;> simp
    · cases (f.ctx job).accessList f.entries <;> simp
    · rw [groupObjects]
      cases f.groupMapper <;> simp

variable (f job) in
/-- What the control plane promises about names, and the words about each other: no two clusters or
federations are spelled alike, no two containers have one provider and one region, and there is
one integration of a type at most. -/
structure IsPromised : Prop where
  clusters : (f.clusters.map fun c => Label.normalize c.name).Nodup
  mappedClusters : (f.mappedClusters.map fun c => Label.normalize c.name).Nodup
  federations : (f.federations.map fun x => Label.normalize x.name).Nodup
  containers : (f.containers.map fun c => (c.providerName.getD "", c.regionToken)).Nodup
  integrations : (f.integrations.map (·.kind)).Nodup
  words : f.HasDistinctWords job

end Findings

/-- **Which exports have distinct names**: for every run whose definitions are of the kinds that
they are found for and whose words differ, no two objects share kind and name exactly if the
objects are told apart by what there is room for behind the name of the project. -/
theorem Job.exported_keys_nodup_iff {job : Job} {f : Findings} (hf : job.Finds f)
    (hkinds : job.catalogue.KeepsKinds) (hwords : f.HasDistinctWords job)
    {manifests : List Manifest} (h : job.exported.result = .ok manifests) :
    (manifests.map Manifest.key).Nodup ↔ f.ToldApart job := by
  obtain rfl : f.manifests job = manifests :=
    Except.ok.inj ((exported_eq_ok_iff.mpr ⟨f, hf, rfl⟩).symm.trans h)
  exact Findings.keys_nodup_iff hkinds hf hwords

/-- The objects of a small project with a short name are told apart. -/
theorem Job.exported_keys_nodup_iff_small :
    ∃ f manifests, (Job.small "Shop").Finds f ∧ f.HasDistinctWords (Job.small "Shop") ∧
      (Job.small "Shop").exported.result = .ok manifests ∧
      (manifests.map Manifest.key).Nodup ∧ f.ToldApart (Job.small "Shop") := by
  obtain ⟨manifests, h, hnodup⟩ := (Job.small "Shop").exists_of_any
    (fun ms => decide (ms.map Manifest.key).Nodup) (by decide +kernel)
  obtain ⟨f, hf, rfl⟩ := exported_eq_ok_iff.mp h
  have hpeerings : f.peerings = [{ containerId := "c1", providerName := some "AWS" },
      { containerId := "c2", providerName := some "AWS" }] := hf.peerings.eq_of_selected rfl rfl
  have hwords : f.HasDistinctWords (Job.small "Shop") := by
    constructor <;> rw [hpeerings]
    · have hisWord : ∀ n < 2, Label.IsWord ((Job.small "Shop").word n).toList := by decide
      exact hisWord
    · have hinjective : ∀ m < 2, ∀ n < 2,
          (Job.small "Shop").word m = (Job.small "Shop").word n → m = n := by decide
      exact fun m n hm hn => hinjective m hm n hn
  have hnodup := of_decide_eq_true hnodup
  exact ⟨f, _, hf, hwords, h, hnodup,
    (Job.exported_keys_nodup_iff hf Catalogue.keepsKinds_embedded hwords h).mp hnodup⟩

/-- The export of a project with a long name and of its only integration. -/
def Job.longNamed : Job :=
  { Job.small (String.ofList (List.replicate 63 'a')) with
    config :=
      { space := "atlas", projectId := "1", kinds := [.project, .thirdPartyIntegration] } }

/-- Such a name leaves no room behind it: both secrets and the project are called alike. -/
theorem Job.longNamed_keys_not_nodup :
    ∃ f manifests, Job.longNamed.Finds f ∧ f.IsPromised Job.longNamed ∧
      Job.longNamed.exported.result = .ok manifests ∧ ¬ (manifests.map Manifest.key).Nodup := by
  obtain ⟨manifests, h, hnodup⟩ := Job.longNamed.exists_of_any
    (fun ms => !decide (ms.map Manifest.key).Nodup) (by decide +kernel)
  obtain ⟨f, hf, rfl⟩ := exported_eq_ok_iff.mp h
  refine ⟨f, _, hf, ?_, h, by simpa using hnodup⟩
  have hclusters : f.clusters = [] := hf.clusters.eq_nil rfl
  have hfederations : f.federations = [] := hf.federations.eq_nil rfl
  have hcontainers : f.containers = [] := hf.containers.eq_nil rfl
  have hpeerings : f.peerings = [] := hf.peerings.eq_nil rfl
  have hintegrations : f.integrations = [{ kind := "SLACK" }] :=
    hf.integrations.eq_of_selected rfl rfl
  have hmapping : f.clusterMapping = none := by
    cases hmapping : f.clusterMapping with
    | none => rfl
    | some mapping =>
      obtain ⟨config, hconfig, _⟩ := hf.mapsBy_cluster hmapping
      cases hconfig
  refine ⟨?_, ?_, ?_, ?_, ?_, ?_, ?_⟩
  · simp [hclusters]
  · simp [Findings.mappedClusters, hmapping]
  · simp [hfederations]
  · simp [hcontainers]
  · simp [hintegrations]
  · simp [hpeerings]
  · simp [hpeerings]

end AtlasManifests
