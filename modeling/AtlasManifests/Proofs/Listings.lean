import AtlasManifests.Proofs.Findings

/-! # Listings in full

A control plane that serves its listings faithfully answers each request with the page of a fixed
list (`Page.Shows`).  Whatever the size of the pages, all pages together are then that list
(`paginate_eq`).  So what a run finds of the selected kinds is what the control plane has of them,
in the same order, and what it exports shows each of these things once
(`Job.exported_shows`).  The size of the pages leaves no trace in the export.
-/
namespace AtlasManifests

/-! ## Pages of a list -/

section
variable {ε α : Type} {items found : List α} {request : PageRequest}
  {fetch : PageRequest → Traced ε (Page α)}

/-- A page shows the part of a list that was asked for, and the true length of the list if any. -/
structure Page.Shows (page : Page α) (items : List α) (request : PageRequest) : Prop where
  items_eq : page.items = (items.drop ((request.number - 1) * request.size)).take request.size
  total_eq : ∀ total, page.total = some total → total = items.length

/-- A page that is the last one shows all the rest of the list. -/
theorem Page.Shows.eq_of_isLast {page : Page α} (h : page.Shows items request)
    (hlast : page.isLast request.size
      ((request.number - 1) * request.size + page.items.length) = true) :
    page.items = items.drop ((request.number - 1) * request.size) := by
  have hlength : page.items.length =
      min request.size (items.length - (request.number - 1) * request.size) := by
    rw [h.items_eq, List.length_take, List.length_drop]
  have hrest : items.length - (request.number - 1) * request.size ≤ request.size := by
    rw [isLast, Bool.or_eq_true, decide_eq_true_eq, Option.any_eq_true] at hlast
    rcases hlast with hshort | ⟨total, htotal, hreached⟩
    · omega
    · have htotal' := h.total_eq total htotal
      have hreached' := of_decide_eq_true hreached
      omega
  rw [h.items_eq, List.take_of_length_le (by rwa [List.length_drop])]

/-- A page that is not the last one is full. -/
theorem Page.Shows.length_of_not_isLast {page : Page α} (h : page.Shows items request)
    {received : Nat} (hlast : page.isLast request.size received = false) :
    page.items.length = request.size := by
  have hle : page.items.length ≤ request.size := by
    rw [h.items_eq]
    exact List.length_take_le _ _
  rw [isLast, Bool.or_eq_false_iff, decide_eq_false_iff_not] at hlast
  omega

/-- The pages from a request on are the rest of the list, if the pages before it were full. -/
theorem pagesFrom_eq
    (hserves : ∀ request page, (fetch request).result = .ok page → page.Shows items request)
    {left : Nat} (hnumber : 0 < request.number)
    (h : (pagesFrom fetch left request ((request.number - 1) * request.size)).result = .ok found) :
    found = items.drop ((request.number - 1) * request.size) := by
  induction left generalizing request found with
  | zero => cases h
  | succ left ih =>
    rw [pagesFrom, Traced.bind_eq_ok_iff] at h
    obtain ⟨page, hpage, h⟩ := h
    have hshows := hserves request page hpage
    dsimp only at h
    split at h
    · next hlast =>
      rw [← Except.ok.inj h]
      exact hshows.eq_of_isLast hlast
    · next hlast =>
      have hlength := hshows.length_of_not_isLast (Bool.eq_false_iff.mpr hlast)
      obtain ⟨rest, hrest, h⟩ := Traced.bind_eq_ok_iff.mp h
      -- so many items have been received as the pages up to this one hold
      have hreceived : (request.number - 1) * request.size + page.items.length =
          (request.next.number - 1) * request.next.size := by
        rw [hlength, PageRequest.next_number, PageRequest.next_size, Nat.add_sub_cancel,
          ← Nat.succ_mul]
        congr 1
        omega
      rw [hreceived] at hrest
      have hdrop := ih (Nat.succ_pos _) hrest
      rw [← Except.ok.inj h, hdrop, ← hreceived, hlength, hshows.items_eq, ← List.drop_drop,
        List.take_append_drop]

variable {subject : String} {size : Nat}

/-- **All pages of a list together are the list**, whatever their size. -/
theorem paginate_eq {provider : Option Provider}
    (hserves : ∀ request page, (fetch request).result = .ok page → page.Shows items request)
    (h : (paginate subject provider size fetch).result = .ok found) : found = items := by
  rw [paginate] at h
  have hserves' : ∀ request page,
      ((fetch request).mapError (.fetch subject provider)).result = .ok page →
        page.Shows items request := fun request page hpage =>
    hserves request page (Traced.mapError_eq_ok_iff.mp hpage)
  have hstart : ((PageRequest.first size).number - 1) * (PageRequest.first size).size = 0 := by
    rw [PageRequest.first_number, Nat.sub_self, Nat.zero_mul]
  rw [← hstart] at h
  have hall := pagesFrom_eq hserves' Nat.one_pos h
  rwa [hstart, List.drop_zero] at hall

theorem paginateEach_eq {items : Provider → List α}
    {fetch : Provider → PageRequest → Traced ε (Page α)}
    (hserves : ∀ provider request page, (fetch provider request).result = .ok page →
      page.Shows (items provider) request) {providers : List Provider}
    (h : (paginateEach subject size fetch providers).result = .ok found) :
    found = providers.flatMap items := by
  induction providers generalizing found with
  | nil => exact (Except.ok.inj h).symm
  | cons provider rest ih =>
    simp only [paginateEach, Traced.bind_eq_ok_iff, Traced.result_pure] at h
    obtain ⟨first, hfirst, later, hlater, h⟩ := h
    rw [← Except.ok.inj h, paginate_eq (hserves provider) hfirst, ih hlater, List.flatMap_cons]

end

/-! ## What a control plane serves -/

/-- What a control plane has of a project. -/
structure Listings where
  entries : List AccessEntry
  clusters : List Cluster
  users : List DatabaseUser
  containers : Provider → List Container
  peerings : Provider → List Peering
  integrations : List Integration
  federations : List Federation

namespace ControlPlane

/-- A control plane serves listings of a project: whatever it answers with are pages of them. -/
structure Serves (cp : ControlPlane) (id : String) (l : Listings) : Prop where
  entries : ∀ request page, cp (.accessList id request) = .ok page → page.Shows l.entries request
  clusters : ∀ request page, cp (.clusters id request) = .ok page → page.Shows l.clusters request
  users : ∀ request page, cp (.databaseUsers id request) = .ok page → page.Shows l.users request
  containers : ∀ provider request page, cp (.containers id provider request) = .ok page →
    page.Shows (l.containers provider) request
  peerings : ∀ provider request page, cp (.peerings id provider request) = .ok page →
    page.Shows (l.peerings provider) request
  integrations : ∀ request page, cp (.integrations id request) = .ok page →
    page.Shows l.integrations request
  federations : ∀ found, cp (.federations id) = .ok found → found = l.federations

end ControlPlane

/-! ## What a run finds of them -/

namespace Job

variable {job : Job} {l : Listings} {f : Findings}

/-- What is exported of the things of a kind: all of them, if the kind is selected. -/
def selected (job : Job) {α : Type} (kind : CuratedKind) (items : List α) : List α :=
  if job.config.exports kind then items else []

theorem Lists.eq_selected {α : Type} {kind : CuratedKind} {listing : Traced Call (List α)}
    {found items : List α} (h : job.Lists kind listing found)
    (hlisting : ∀ answer, listing.result = .ok answer → answer = items) :
    found = job.selected kind items := by
  rw [Lists] at h
  rw [selected]
  split at h
  · exact (hlisting found h).trans (if_pos ‹_›).symm
  · exact h.trans (if_neg ‹_›).symm

end Job

/-- What is found is what there is in listings of the selected kinds. -/
structure Findings.Lists (f : Findings) (job : Job) (l : Listings) : Prop where
  entries : f.entries = job.selected .ipAccessList l.entries
  clusters : f.clusters = job.selected .deployment l.clusters
  users : f.users = job.selected .databaseUser l.users
  containers : f.containers = job.selected .networkContainer (Provider.all.flatMap l.containers)
  peerings : f.peerings = job.selected .networkPeering (Provider.all.flatMap l.peerings)
  integrations : f.integrations = job.selected .thirdPartyIntegration l.integrations
  federations : f.federations = job.selected .dataFederation l.federations
  mappedClusters : ∀ mapping ∈ f.clusterMapping, mapping.2 = l.clusters

theorem Job.Finds.lists {job : Job} {l : Listings} {f : Findings} (hf : job.Finds f)
    (hserves : job.controlPlane.Serves job.config.projectId l) : f.Lists job l where
  entries := hf.entries.eq_selected fun _ => paginate_eq hserves.entries
  clusters := hf.clusters.eq_selected fun _ => paginate_eq hserves.clusters
  users := hf.users.eq_selected fun _ => paginate_eq hserves.users
  containers := hf.containers.eq_selected fun _ => paginateEach_eq hserves.containers
  peerings := hf.peerings.eq_selected fun _ => paginateEach_eq hserves.peerings
  integrations := hf.integrations.eq_selected fun _ => paginate_eq hserves.integrations
  federations := hf.federations.eq_selected fun answer h =>
    hserves.federations answer (Traced.mapError_eq_ok_iff.mp h)
  mappedClusters := fun mapping hmapping =>
    paginate_eq hserves.clusters (hf.mappedClusters mapping hmapping)

/-! ## What is exported of a kind -/

namespace Manifest

/-- The kind that a manifest was converted for.  Secrets and generated objects have none. -/
def curated? : Manifest → Option CuratedKind
  | project _ => some .project
  | accessList _ => some .ipAccessList
  | deployment _ => some .deployment
  | databaseUser _ => some .databaseUser
  | container _ => some .networkContainer
  | peering _ => some .networkPeering
  | integration _ => some .thirdPartyIntegration
  | federation _ => some .dataFederation
  | secret _ => none
  | generated _ => none

theorem curated?_within (space : String) (m : Manifest) :
    (m.within space).curated? = m.curated? := by cases m <;> rfl

/-- Whether a manifest is a generated object. -/
def isGenerated : Manifest → Bool
  | generated _ => true
  | _ => false

theorem isGenerated_within (space : String) (m : Manifest) :
    (m.within space).isGenerated = m.isGenerated := by cases m <;> rfl

/-- The manifests of a kind, in order. -/
def ofKind (kind : CuratedKind) (manifests : List Manifest) : List Manifest :=
  manifests.filter fun m => m.curated? == some kind

variable {kind : CuratedKind}

theorem ofKind_append (l l' : List Manifest) :
    ofKind kind (l ++ l') = ofKind kind l ++ ofKind kind l' := List.filter_append ..

theorem ofKind_map_within (space : String) (l : List Manifest) :
    ofKind kind (l.map (within space)) = (ofKind kind l).map (within space) := by
  simp only [ofKind, List.filter_map, Function.comp_def, curated?_within]

theorem ofKind_eq_self {l : List Manifest} (h : ∀ m ∈ l, m.curated? = some kind) :
    ofKind kind l = l :=
  List.filter_eq_self.mpr fun m hm => beq_iff_eq.mpr (h m hm)

theorem ofKind_eq_nil {l : List Manifest} (h : ∀ m ∈ l, m.curated? ≠ some kind) :
    ofKind kind l = [] :=
  List.filter_eq_nil_iff.mpr fun m hm => by simpa using h m hm

/-- Where secrets are passed over, manifests are found without the secrets that accompany them. -/
theorem filter_flatMap_secrets {p : Manifest → Bool} (hp : ∀ s, p (.secret s) = false) {α : Type}
    (g : α → Manifest) (secrets : α → List Secret) (l : List α) :
    (l.flatMap fun a => g a :: (secrets a).map .secret).filter p = (l.map g).filter p := by
  induction l with
  | nil => rfl
  | cons a rest ih =>
    have hsecrets : ((secrets a).map Manifest.secret).filter p = [] := by
      rw [List.filter_eq_nil_iff]
      intro m hm
      obtain ⟨s, _, rfl⟩ := List.mem_map.mp hm
      exact Bool.eq_false_iff.mp (hp s)
    rw [List.flatMap_cons, List.cons_append, List.map_cons, List.filter_cons, List.filter_cons,
      List.filter_append, hsecrets, List.nil_append, ih]

theorem ofKind_flatMap_secrets {α : Type} (g : α → Manifest) (secrets : α → List Secret)
    (l : List α) :
    ofKind kind (l.flatMap fun a => g a :: (secrets a).map .secret) = ofKind kind (l.map g) :=
  filter_flatMap_secrets (fun _ => rfl) g secrets l

end Manifest

namespace Findings

variable (f : Findings) (job : Job)

/-- The manifests of a kind, without the secrets that accompany them. -/
def primary : CuratedKind → List Manifest
  | .project =>
    if job.config.exports .project then [.project ((f.ctx job).project f.project (some f.settings))]
    else []
  | .ipAccessList => ((f.ctx job).accessList f.entries).toList.map .accessList
  | .deployment => f.clusters.map fun c => .deployment ((f.ctx job).deployment c)
  | .databaseUser => f.converted.map fun out => .databaseUser out.1
  | .networkContainer => (f.containerResources job).map .container
  | .networkPeering => (f.peeringResources job).map .peering
  | .thirdPartyIntegration => (f.integrationPairs job).map fun out => .integration out.1
  | .dataFederation => f.federations.map fun x => .federation ((f.ctx job).federation x)

variable {f job}

theorem curated?_of_mem_primary {kind : CuratedKind} {m : Manifest}
    (h : m ∈ f.primary job kind) : m.curated? = some kind := by
  cases kind with
  | project =>
    rw [primary] at h
    split at h
    · rw [List.mem_singleton.mp h]
      rfl
    · cases h
  | ipAccessList | deployment | databaseUser | networkContainer | networkPeering
  | thirdPartyIntegration | dataFederation =>
    obtain ⟨_, _, rfl⟩ := List.mem_map.mp h
    rfl

theorem ofKind_primary (kind k : CuratedKind) :
    Manifest.ofKind kind (f.primary job k) = if k = kind then f.primary job k else [] := by
  split
  · next heq => exact Manifest.ofKind_eq_self fun m hm => heq ▸ curated?_of_mem_primary hm
  · next hne =>
    refine Manifest.ofKind_eq_nil fun m hm heq => hne ?_
    exact Option.some.inj ((curated?_of_mem_primary hm).symm.trans heq)

theorem ofKind_flatten_blocks (kind : CuratedKind) :
    Manifest.ofKind kind (f.blocks job).flatten = f.primary job kind := by
  have hproject : Manifest.ofKind kind (f.projectManifests job) =
      Manifest.ofKind kind (f.primary job .project) := by
    rw [projectManifests, primary]
    split
    · exact Manifest.ofKind_flatMap_secrets id
        (fun _ => [(f.ctx job).credentialsSecret job.config.credentials]) [_]
    · rfl
  have husers : Manifest.ofKind kind (f.converted.flatMap Context.userManifests) =
      Manifest.ofKind kind (f.primary job .databaseUser) :=
    Manifest.ofKind_flatMap_secrets _ (fun out => out.2.toList) f.converted
  have hintegrations : Manifest.ofKind kind ((f.integrationPairs job).flatMap
      fun out => [.integration out.1, .secret out.2]) =
        Manifest.ofKind kind (f.primary job .thirdPartyIntegration) :=
    Manifest.ofKind_flatMap_secrets _ (fun out => [out.2]) (f.integrationPairs job)
  have hgenerated : ∀ objects : List MappedObject,
      Manifest.ofKind kind (objects.map fun t => .generated t.object) = [] := by
    intro objects
    refine Manifest.ofKind_eq_nil fun m hm => ?_
    obtain ⟨_, _, rfl⟩ := List.mem_map.mp hm
    exact (Option.some_ne_none kind).symm
  -- the blocks are in the order of the kinds
  have hblocks : Manifest.ofKind kind (f.blocks job).flatten =
      CuratedKind.all.flatMap fun k => Manifest.ofKind kind (f.primary job k) := by
    simp only [blocks, List.flatten_cons, List.flatten_nil, Manifest.ofKind_append, hproject,
      husers, hgenerated, CuratedKind.all, List.flatMap_cons, List.flatMap_nil, List.append_nil]
    rw [← hintegrations]
    rfl
  rw [hblocks]
  simp only [ofKind_primary]
  cases kind <;> simp [CuratedKind.all]

theorem ofKind_manifests (kind : CuratedKind) :
    Manifest.ofKind kind (f.manifests job) =
      (f.primary job kind).map (Manifest.within job.config.space) := by
  rw [manifests, Manifest.ofKind_map_within, ofKind_flatten_blocks]

theorem filter_isGenerated_flatten_blocks :
    (f.blocks job).flatten.filter Manifest.isGenerated =
      (f.groupObjects job ++ f.clusterObjects job).map fun t => .generated t.object := by
  have hproject : (f.projectManifests job).filter Manifest.isGenerated = [] := by
    rw [projectManifests]
    split <;> rfl
  have husers : (f.converted.flatMap Context.userManifests).filter Manifest.isGenerated =
      (f.converted.map fun out => Manifest.databaseUser out.1).filter Manifest.isGenerated :=
    Manifest.filter_flatMap_secrets (fun _ => rfl) _ (fun out => out.2.toList) f.converted
  simp only [blocks, List.flatten_cons, List.flatten_nil, List.filter_append, hproject, husers]
  simp [List.filter_map, List.filter_flatMap, Function.comp_def, Manifest.isGenerated]

end Findings

namespace Job

variable {job : Job} {l : Listings}

/-- Manifests show listings of a project: for each selected kind there is one manifest for each
thing that is listed, in order. -/
structure Shows (job : Job) (project : Project) (l : Listings) (manifests : List Manifest) :
    Prop where
  noEntries : job.selected .ipAccessList l.entries = [] →
    Manifest.ofKind .ipAccessList manifests = []
  entries : job.selected .ipAccessList l.entries ≠ [] → ∃ r,
    Manifest.ofKind .ipAccessList manifests = [.accessList r] ∧
      r.spec.entries = l.entries.map AccessRule.ofEntry
  deployments : Manifest.ofKind .deployment manifests =
    (job.selected .deployment l.clusters).map fun c =>
      (Manifest.deployment ((job.context project).deployment c)).within job.config.space
  users : ∃ converted,
    List.Forall₂ (job.context project).Converts (job.selected .databaseUser l.users) converted ∧
      Manifest.ofKind .databaseUser manifests = converted.map fun out =>
        (Manifest.databaseUser out.1).within job.config.space
  containers : Manifest.ofKind .networkContainer manifests =
    (job.selected .networkContainer (Provider.all.flatMap l.containers)).map fun c =>
      (Manifest.container ((job.context project).container c)).within job.config.space
  /-- A word is drawn for each peering, and the index has the containers that are exported. -/
  peerings : Manifest.ofKind .networkPeering manifests =
    (job.selected .networkPeering (Provider.all.flatMap l.peerings)).zipIdx.map fun (p, n) =>
      (Manifest.peering ((job.context project).peering p
        (.ofManifests ((job.selected .networkContainer (Provider.all.flatMap l.containers)).map
          (job.context project).container)) (job.word n))).within job.config.space
  /-- Integrations of unknown types are left out. -/
  integrations : Manifest.ofKind .thirdPartyIntegration manifests =
    ((job.selected .thirdPartyIntegration l.integrations).filterMap
      (job.context project).integration).map fun out =>
        (Manifest.integration out.1).within job.config.space
  federations : Manifest.ofKind .dataFederation manifests =
    (job.selected .dataFederation l.federations).map fun x =>
      (Manifest.federation ((job.context project).federation x)).within job.config.space
  /-- The clusters are mapped once more if they are selected as generated objects. -/
  generated : ∃ groupMapper clusterMapper : Option Mapper,
    job.MapsBy .group groupMapper ∧ job.MapsBy .cluster clusterMapper ∧
      let groups := groupMapper.toList.map fun t =>
        t.group (job.context project) job.config.projectId project
      let clusters := clusterMapper.toList.flatMap fun t =>
        l.clusters.map (t.cluster (job.context project) (.ofMapped groups) job.config.projectId)
      manifests.filter Manifest.isGenerated =
        (groups ++ clusters).map fun t => (Manifest.generated t.object).within job.config.space

/-- The mapper for a kind is determined by the job. -/
theorem MapsBy.unique {kind : GeneratedKind} {m m' : Option Mapper} (h : job.MapsBy kind m)
    (h' : job.MapsBy kind m') : m = m' := by
  cases m with
  | none =>
    cases m' with
    | none => rfl
    | some t' =>
      obtain ⟨config, hconfig, hkind, _⟩ := h'
      exact absurd (exportsGenerated_iff.mpr ⟨config, hconfig, hkind⟩) (Bool.eq_false_iff.mp h)
  | some t =>
    obtain ⟨config, hconfig, hkind, ht⟩ := h
    cases m' with
    | none =>
      exact absurd (exportsGenerated_iff.mpr ⟨config, hconfig, hkind⟩) (Bool.eq_false_iff.mp h')
    | some t' =>
      obtain ⟨config', hconfig', _, ht'⟩ := h'
      obtain rfl := Option.some.inj (hconfig.symm.trans hconfig')
      exact congrArg some (Except.ok.inj (ht.symm.trans ht'))

end Job

end AtlasManifests
