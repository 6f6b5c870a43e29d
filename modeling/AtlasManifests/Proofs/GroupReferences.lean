import AtlasManifests.Proofs.DistinctNames
import AtlasManifests.Proofs.MappingInverse

/-! # References of clusters to groups

When several projects are mapped, each of their clusters refers to the group of its project by
name, and an index of the groups takes it back to the id of a project.  Groups have the names of
their projects, normalized one by one, so two of them may have the same name.  The index then knows
the last one.  Hence a cluster is read back as one of its own project exactly if no later project
has a group with the same name (`mappedClusters_leadHome_iff`).
-/
namespace AtlasManifests

/-! ## Indexes of mapped objects -/

namespace ReferenceIndex

variable (index : ReferenceIndex) (kind id name : String)

/-- The last manifest with an id gives its name. -/
theorem nameOf?_insert (k i : String) :
    (index.insert kind id name).nameOf? k i =
      if kind = k ∧ id = i then some name else index.nameOf? k i := by
  by_cases h : kind = k ∧ id = i
  · obtain ⟨rfl, rfl⟩ := h
    rw [if_pos ⟨rfl, rfl⟩, nameOf?_insert_self]
  · have hb : (kind == k && id == i) = false := by simpa using h
    rw [if_neg h, nameOf?, insert, List.find?_cons, hb]
    rfl

/-- The last manifest with a name gives its id. -/
theorem idOf?_insert (k n : String) :
    (index.insert kind id name).idOf? k n =
      if kind = k ∧ name = n then some id else index.idOf? k n := by
  by_cases h : kind = k ∧ name = n
  · obtain ⟨rfl, rfl⟩ := h
    rw [if_pos ⟨rfl, rfl⟩, idOf?_insert_self]
  · have hb : (kind == k && name == n) = false := by simpa using h
    rw [if_neg h, idOf?, insert, List.find?_cons, hb]
    rfl

/-- An object with a name is inserted behind those that are mapped before it. -/
theorem ofMapped_append_singleton (objects : List MappedObject) {last : MappedObject}
    (hname : last.object.metadata.name = some name) :
    ofMapped (objects ++ [last]) = (ofMapped objects).insert last.object.kind last.id name := by
  simp only [ofMapped, List.foldl_append, List.foldl_cons, List.foldl_nil, hname]

end ReferenceIndex

/-! ## Projects and their clusters -/

/-- A project with the id that it was asked for, and its clusters. -/
structure ProjectListing where
  id : String
  project : Project
  clusters : List Cluster

/-- The name of the group of a project. -/
def ProjectListing.groupName (p : ProjectListing) : String := Label.normalize p.project.name

namespace Mapper

variable (t : Mapper) (ctx : Context) (found : List ProjectListing)

/-- The groups of projects. -/
def groupsOf : List MappedObject := found.map fun p => t.group ctx p.id p.project

/-- The clusters of projects, given an index of groups. -/
def clustersOf (refs : ReferenceIndex) : List MappedObject :=
  found.flatMap fun p => p.clusters.map (t.cluster ctx refs p.id)

end Mapper

namespace ControlPlane

variable {cp : ControlPlane} {ctx : Context} {known : List Project} {size : Nat}

/-- A listing is what a control plane answers for an id, unless the project is known. -/
structure Answers (cp : ControlPlane) (known : List Project) (size : Nat) (p : ProjectListing) :
    Prop where
  project : (cp.knownProject known p.id).result = .ok p.project
  clusters : (cp.clusters p.id size).result = .ok p.clusters

/-- Groups and clusters that are mapped are those of the projects, in order. -/
theorem exists_answers {tg tc : Mapper} {refs : ReferenceIndex} {ids : List String}
    {groups clusters : List MappedObject}
    (hgroups : (cp.mappedGroups ctx tg known ids).result = .ok groups)
    (hclusters : (cp.mappedClusters ctx tc refs size ids).result = .ok clusters) :
    ∃ found : List ProjectListing, found.map (·.id) = ids ∧
      (∀ p ∈ found, cp.Answers known size p) ∧
      groups = tg.groupsOf ctx found ∧ clusters = tc.clustersOf ctx found refs := by
  induction ids generalizing groups clusters with
  | nil =>
    obtain rfl := Except.ok.inj hgroups
    obtain rfl := Except.ok.inj hclusters
    exact ⟨[], rfl, by simp, rfl, rfl⟩
  | cons id rest ih =>
    simp only [mappedGroups, Traced.bind_eq_ok_iff, Traced.result_pure] at hgroups
    obtain ⟨project, hproject, laterGroups, hlaterGroups, hgroups⟩ := hgroups
    simp only [mappedClusters, Traced.bind_eq_ok_iff, Traced.result_pure] at hclusters
    obtain ⟨own, hown, laterClusters, hlaterClusters, hclusters⟩ := hclusters
    obtain ⟨found, hids, hfound, rfl, rfl⟩ := ih hlaterGroups hlaterClusters
    refine ⟨⟨id, project, own⟩ :: found, ?_, ?_, ?_, ?_⟩
    · rw [List.map_cons, hids]
    · exact List.forall_mem_cons.mpr ⟨⟨hproject, hown⟩, hfound⟩
    · exact (Except.ok.inj hgroups).symm
    · exact (Except.ok.inj hclusters).symm

end ControlPlane

namespace Mapper

variable {t : Mapper} {ctx : Context} {refs : ReferenceIndex} {found : List ProjectListing}

section
variable (hkind : t.type.kind = GeneratedKind.group.word)
include hkind

/-- The index of groups with one project more. -/
theorem ofMapped_groups_append (ctx : Context) (found : List ProjectListing)
    (last : ProjectListing) :
    ReferenceIndex.ofMapped (t.groupsOf ctx (found ++ [last])) =
      (ReferenceIndex.ofMapped (t.groupsOf ctx found)).insert GeneratedKind.group.word last.id
        last.groupName := by
  rw [groupsOf, List.map_append, List.map_singleton,
    ReferenceIndex.ofMapped_append_singleton last.groupName _ rfl, ← hkind]
  rfl

/-- Each project has its group in the index. -/
theorem nameOf?_groups (hids : (found.map (·.id)).Nodup) {p : ProjectListing} (hp : p ∈ found) :
    (ReferenceIndex.ofMapped (t.groupsOf ctx found)).nameOf? GeneratedKind.group.word p.id =
      some p.groupName := by
  induction found using List.reverseRecOn with
  | nil => cases hp
  | append_singleton earlier last ih =>
    rw [ofMapped_groups_append hkind, ReferenceIndex.nameOf?_insert]
    rw [List.map_append, List.nodup_append] at hids
    obtain ⟨hearlier, _, hne⟩ := hids
    rcases List.mem_append.mp hp with hp | hp
    · have hid : p.id ≠ last.id := hne _ (List.mem_map_of_mem hp) _ List.mem_cons_self
      rw [if_neg fun h => hid h.2.symm]
      exact ih hearlier hp
    · obtain rfl := List.mem_singleton.mp hp
      rw [if_pos ⟨rfl, rfl⟩]

theorem exists_idOf?_groups {p : ProjectListing} (hp : p ∈ found) :
    ∃ other, (ReferenceIndex.ofMapped (t.groupsOf ctx found)).idOf? GeneratedKind.group.word
      p.groupName = some other := by
  induction found using List.reverseRecOn with
  | nil => cases hp
  | append_singleton earlier last ih =>
    rw [ofMapped_groups_append hkind, ReferenceIndex.idOf?_insert]
    by_cases hname : last.groupName = p.groupName
    · exact ⟨last.id, if_pos ⟨rfl, hname⟩⟩
    · rw [if_neg fun h => hname h.2]
      rcases List.mem_append.mp hp with hp | hp
      · exact ih hp
      · exact absurd (congrArg _ (List.mem_singleton.mp hp).symm) hname

/-- The names of groups lead back to projects of some kind exactly if no later project has a group
with the same name. -/
theorem idOf?_groups_iff (hids : (found.map (·.id)).Nodup) (needed : ProjectListing → Prop) :
    (∀ p ∈ found, needed p →
        (ReferenceIndex.ofMapped (t.groupsOf ctx found)).idOf? GeneratedKind.group.word
          p.groupName = some p.id) ↔
      found.Pairwise fun p later => needed p → p.groupName ≠ later.groupName := by
  induction found using List.reverseRecOn with
  | nil => simp
  | append_singleton earlier last ih =>
    rw [List.map_append, List.nodup_append] at hids
    obtain ⟨hearlier, _, hne⟩ := hids
    rw [ofMapped_groups_append hkind, List.forall_mem_append, List.pairwise_append]
    simp only [ReferenceIndex.idOf?_insert, true_and]
    constructor
    · rintro ⟨hback, _⟩
      -- the last group takes over its name from those that had it
      have hnames : ∀ p ∈ earlier, needed p → last.groupName ≠ p.groupName := by
        intro p hp hneeded heq
        have hid := hback p hp hneeded
        rw [if_pos heq] at hid
        exact hne _ (List.mem_map_of_mem hp) _ List.mem_cons_self (Option.some.inj hid).symm
      refine ⟨(ih hearlier).mp fun p hp hneeded => ?_, List.pairwise_singleton _ _, ?_⟩
      · have hid := hback p hp hneeded
        rwa [if_neg (hnames p hp hneeded)] at hid
      · intro p hp later hlater hneeded
        rw [List.mem_singleton.mp hlater]
        exact (hnames p hp hneeded).symm
    · rintro ⟨hpairwise, _, hnames⟩
      refine ⟨fun p hp hneeded => ?_, fun p hp _ => ?_⟩
      · have hname : p.groupName ≠ last.groupName := hnames p hp last List.mem_cons_self hneeded
        rw [if_neg hname.symm]
        exact (ih hearlier).mpr hpairwise p hp hneeded
      · rw [List.mem_singleton.mp hp, if_pos rfl]

end

/-! ## Clusters that are read back -/

/-- A manifest is read back as one of the project with an id. -/
def LeadsHome (t : Mapper) (refs : ReferenceIndex) (id : String) (manifest : Generated) : Prop :=
  ∃ source, t.fromManifest manifest refs = .ok source ∧
    source.pathParams.lookup "groupId" = some id

/-- The id of a group can be replaced by a reference if the schema declares one and the index has
the group. -/
theorem referenceFor?_groupId (hregistry : t.registry = .usual) (id : String) :
    t.referenceFor? false refs "groupId" id = (t.tagProperty? "groupRef").bind fun _ =>
      (refs.nameOf? GeneratedKind.group.word id).map fun name =>
        ("groupRef", referenceJson name) := by
  have hrule : t.registry.byId? "groupId" = some ⟨"groupId", "groupRef", "Group"⟩ := by
    rw [hregistry]
    rfl
  rw [referenceFor?, if_neg Bool.false_ne_true, hrule]
  have hword : GeneratedKind.group.word = "Group" := rfl
  cases hschema : t.tagProperty? "groupRef" with
  | none => simp [hschema]
  | some schema => cases htarget : refs.nameOf? "Group" id <;> simp [hschema, hword, htarget]

/-- A reference is written in place of the id of a group wherever the schema declares one. -/
theorem paramMember?_group (hregistry : t.registry = .usual) {id name : String}
    (hname : refs.nameOf? GeneratedKind.group.word id = some name) :
    t.paramMember? false refs "groupId" id =
      if (t.tagProperty? "groupRef").isSome then some ("groupRef", referenceJson name)
      else (t.tagProperty? "groupId").map fun _ => ("groupId", .str id) := by
  rw [paramMember?, referenceFor?_groupId hregistry, hname]
  cases t.tagProperty? "groupRef" with
  | none => rfl
  | some schema => rfl

/-- The id that a cluster is read back with: what the index has for the name of its reference, or
the id as it is written. -/
def idRead? (t : Mapper) (id other : String) : Option String :=
  if (t.tagProperty? "groupRef").isSome then some other
  else (t.tagProperty? "groupId").map fun _ => id

theorem idRead?_eq_some_iff (id other : String) :
    t.idRead? id other = some id ↔
      ((t.tagProperty? "groupRef").isSome = true ∨ (t.tagProperty? "groupId").isSome = true) ∧
        ((t.tagProperty? "groupRef").isSome = true → other = id) := by
  rw [idRead?]
  cases t.tagProperty? "groupRef" with
  | some schema => simp
  | none => simp [Option.isSome_iff_exists]

/-- A reference to a group is read as the id that the index has for its name. -/
theorem readParam?_groupRef (hregistry : t.registry = .usual) {name other : String}
    (hother : refs.idOf? GeneratedKind.group.word name = some other) :
    t.readParam? refs ("groupRef", referenceJson name) = some ("groupId", other) := by
  have hrule : (⟨"groupId", "groupRef", "Group"⟩ : ReferenceRule) ∈ t.registry.rules := by
    rw [hregistry]
    exact List.mem_singleton_self _
  have htarget : refs.idOf? "Group" name = some other := hother
  rw [readParam?_reference (tellsApart_groupId hregistry other) hrule, htarget]
  rfl

theorem readParam?_groupId (hregistry : t.registry = .usual) (id : String) :
    t.readParam? refs ("groupId", .str id) = some ("groupId", id) :=
  readParam?_value (tellsApart_groupId hregistry id) (List.mem_singleton_self ("groupId", id))

/-- A cluster is read back as one of its project exactly if the id that is read is the one that was
written. -/
theorem leadsHome_cluster_iff (hregistry : t.registry = .usual) (hmode : ctx.independent = false)
    {id name other : String} (hname : refs.nameOf? GeneratedKind.group.word id = some name)
    (hother : refs.idOf? GeneratedKind.group.word name = some other) (c : Cluster) :
    t.LeadsHome refs id (t.cluster ctx refs id c).object ↔ t.idRead? id other = some id := by
  have hshown : ¬ t.HidesPayload ctx := fun h => Bool.false_ne_true (hmode.symm.trans h.1)
  have hmember := paramMember?_group hregistry hname
  rw [← hmode] at hmember
  have hread : ∀ param ∈ [("groupId", id)], ∀ member,
      t.paramMember? ctx.independent refs param.1 param.2 = some member →
        ∃ value, t.readParam? refs member = some (param.1, value) := by
    rw [List.forall_mem_singleton, hmember]
    intro member h
    split at h
    · obtain rfl := Option.some.inj h
      exact ⟨other, readParam?_groupRef hregistry hother⟩
    · obtain ⟨_, _, rfl⟩ := Option.map_eq_some_iff.mp h
      exact ⟨id, readParam?_groupId hregistry id⟩
  -- beside the entry there is only what the id was written as
  have hfound : (t.members ctx.independent refs [("groupId", id)]).filterMap (t.readParam? refs) =
      (t.idRead? id other).toList.map ("groupId", ·) := by
    rw [members, List.filterMap_cons, List.filterMap_nil, hmember, idRead?]
    by_cases href : (t.tagProperty? "groupRef").isSome = true
    · rw [if_pos href, if_pos href]
      simp [readParam?_groupRef hregistry hother]
    · rw [if_neg href, if_neg href]
      cases t.tagProperty? "groupId" with
      | none => rfl
      | some schema => simp [readParam?_groupId hregistry]
  have hfrom : t.fromManifest (t.cluster ctx refs id c).object refs = _ :=
    fromManifest_eq (tellsApart_groupId hregistry id) hshown hread c.toJson.canonical
  rw [LeadsHome, hfrom, hfound]
  cases t.idRead? id other with
  | none => simp [Assoc.ofList]
  | some read => simp [Assoc.ofList, Assoc.insert]

/-- Clusters are kept with their projects: a schema declares what leads to a project, and if that
is a reference, then no later project has a group with the same name. -/
structure KeepsHome (t : Mapper) (found : List ProjectListing) : Prop where
  declared : ∀ p ∈ found, p.clusters ≠ [] →
    (t.tagProperty? "groupRef").isSome = true ∨ (t.tagProperty? "groupId").isSome = true
  names : (t.tagProperty? "groupRef").isSome = true →
    found.Pairwise fun p later => p.clusters ≠ [] → p.groupName ≠ later.groupName

/-- **Which clusters stay with their projects**: of the clusters of any number of projects, all are
read back as clusters of the project that they were listed for exactly if the schema declares what
leads there, and no project with clusters is followed by one whose group has the same name. -/
theorem mappedClusters_leadHome_iff {c : Catalogue} (hc : c.KeepsKinds) {version tag : String}
    {tg tc : Mapper} (hg : c.mapper .usual .group version tag = .ok tg)
    (ht : c.mapper .usual .cluster version tag = .ok tc) (hmode : ctx.independent = false)
    {cp : ControlPlane} {known : List Project} {size : Nat} {ids : List String} (hids : ids.Nodup)
    {groups clusters : List MappedObject}
    (hgroups : (cp.mappedGroups ctx tg known ids).result = .ok groups)
    (hclusters : (cp.mappedClusters ctx tc (.ofMapped groups) size ids).result = .ok clusters) :
    ∃ found : List ProjectListing, found.map (·.id) = ids ∧
      (∀ p ∈ found, cp.Answers known size p) ∧
      groups = tg.groupsOf ctx found ∧ clusters = tc.clustersOf ctx found (.ofMapped groups) ∧
      ((∀ p ∈ found, ∀ c ∈ p.clusters,
          tc.LeadsHome (.ofMapped groups) p.id (tc.cluster ctx (.ofMapped groups) p.id c).object) ↔
        tc.KeepsHome found) := by
  obtain ⟨found, rfl, hfound, rfl, rfl⟩ := ControlPlane.exists_answers hgroups hclusters
  refine ⟨found, rfl, hfound, rfl, rfl, ?_⟩
  obtain ⟨d, hd, _, hkind, _⟩ := Catalogue.mapper_spec hg
  obtain ⟨_, _, hregistry, _⟩ := Catalogue.mapper_spec ht
  have hgroup : tg.type.kind = GeneratedKind.group.word := hkind.trans (hc _ _ _ hd)
  -- one cluster at a time: its project is in the index, if not under its own id
  generalize hrefs : ReferenceIndex.ofMapped (tg.groupsOf ctx found) = refs
  have hlead : ∀ p ∈ found, ∀ c, tc.LeadsHome refs p.id (tc.cluster ctx refs p.id c).object ↔
      ((tc.tagProperty? "groupRef").isSome = true ∨ (tc.tagProperty? "groupId").isSome = true) ∧
        ((tc.tagProperty? "groupRef").isSome = true →
          refs.idOf? GeneratedKind.group.word p.groupName = some p.id) := by
    subst hrefs
    intro p hp c
    obtain ⟨other, hother⟩ : ∃ other, (ReferenceIndex.ofMapped (tg.groupsOf ctx found)).idOf?
        GeneratedKind.group.word p.groupName = some other := exists_idOf?_groups hgroup hp
    rw [leadsHome_cluster_iff hregistry hmode (nameOf?_groups hgroup hids hp) hother,
      idRead?_eq_some_iff, hother, Option.some_inj]
  have hnames : (∀ p ∈ found, p.clusters ≠ [] →
      refs.idOf? GeneratedKind.group.word p.groupName = some p.id) ↔
        found.Pairwise fun p later => p.clusters ≠ [] → p.groupName ≠ later.groupName :=
    hrefs ▸ idOf?_groups_iff hgroup hids _
  constructor
  · intro h
    refine ⟨fun p hp hne => ?_, fun href => hnames.mp fun p hp hne => ?_⟩
    · obtain ⟨c, hc⟩ := List.exists_mem_of_ne_nil _ hne
      exact ((hlead p hp c).mp (h p hp c hc)).1
    · obtain ⟨c, hc⟩ := List.exists_mem_of_ne_nil _ hne
      exact ((hlead p hp c).mp (h p hp c hc)).2 href
  · intro h p hp c hc
    have hne : p.clusters ≠ [] := List.ne_nil_of_mem hc
    exact (hlead p hp c).mpr ⟨h.declared p hp hne, fun href => hnames.mpr (h.names href) p hp hne⟩

end Mapper

/-! ## Two projects -/

/-- A control plane with the project `Shop` and another one, each with two clusters. -/
def ControlPlane.shops (other : String) : ControlPlane
  | .project id => .ok { id, name := if id = "1" then "Shop" else other }
  | call => ControlPlane.small "Shop" call

namespace Mapper

open ControlPlane (shops)

/-- Something that can be computed of the mapped groups and clusters of two projects. -/
def checkShops (other : String) (check : Mapper → List MappedObject → List MappedObject → Bool)
    (tg tc : Mapper) : Bool :=
  ((shops other).mappedGroups (shopContext false) tg [] ["1", "2"]).result.toOption.any
    fun groups : List MappedObject =>
      ((shops other).mappedClusters (shopContext false) tc (.ofMapped groups) 100
        ["1", "2"]).result.toOption.any (check tc groups)

theorem exists_of_checkShops (other : String)
    (check : Mapper → List MappedObject → List MappedObject → Bool) (h :
      (Catalogue.embedded.mapper .usual .group "2.10.0" "v20250312").toOption.any
        (fun tg => (Catalogue.embedded.mapper .usual .cluster "2.10.0" "v20250312").toOption.any
          (checkShops other check tg)) = true) :
    ∃ tg tc groups clusters,
      Catalogue.embedded.mapper .usual .group "2.10.0" "v20250312" = .ok tg ∧
      Catalogue.embedded.mapper .usual .cluster "2.10.0" "v20250312" = .ok tc ∧
      ((shops other).mappedGroups (shopContext false) tg [] ["1", "2"]).result = .ok groups ∧
      ((shops other).mappedClusters (shopContext false) tc (.ofMapped groups) 100
        ["1", "2"]).result = .ok clusters ∧ check tc groups clusters = true := by
  obtain ⟨tg, hg, h⟩ := exists_of_any h
  obtain ⟨tc, ht, h⟩ := exists_of_any h
  obtain ⟨groups, hgroups, h⟩ := exists_of_any h
  obtain ⟨clusters, hclusters, h⟩ := exists_of_any h
  exact ⟨tg, tc, groups, clusters, hg, ht, hgroups, hclusters, h⟩

/-- The clusters of two projects with different names are read back as clusters of their own
project. -/
theorem mappedClusters_leadHome_market :
    ∃ tg tc groups clusters,
      Catalogue.embedded.mapper .usual .group "2.10.0" "v20250312" = .ok tg ∧
      Catalogue.embedded.mapper .usual .cluster "2.10.0" "v20250312" = .ok tc ∧
      ((shops "Market").mappedGroups (shopContext false) tg [] ["1", "2"]).result = .ok groups ∧
      ((shops "Market").mappedClusters (shopContext false) tc (.ofMapped groups) 100
        ["1", "2"]).result = .ok clusters ∧
      ∃ found : List ProjectListing, found.map (·.id) = ["1", "2"] ∧
        clusters = tc.clustersOf (shopContext false) found (.ofMapped groups) ∧
        clusters.length = 4 ∧
        ∀ p ∈ found, ∀ c ∈ p.clusters, tc.LeadsHome (.ofMapped groups) p.id
          (tc.cluster (shopContext false) (.ofMapped groups) p.id c).object := by
  obtain ⟨tg, tc, groups, clusters, hg, ht, hgroups, hclusters, hp⟩ :=
    exists_of_checkShops "Market"
      (fun tc _ clusters => (tc.tagProperty? "groupRef").isSome && decide (clusters.length = 4))
      (by decide +kernel)
  obtain ⟨href, hlength⟩ := Bool.and_eq_true_iff.mp hp
  obtain ⟨found, hids, hfound, -, hmapped, hiff⟩ := mappedClusters_leadHome_iff
    Catalogue.keepsKinds_embedded hg ht rfl (by decide) hgroups hclusters
  refine ⟨tg, tc, groups, clusters, hg, ht, hgroups, hclusters, found, hids, hmapped,
    of_decide_eq_true hlength, hiff.mpr ⟨fun _ _ _ => .inl href, fun _ => ?_⟩⟩
  obtain ⟨p, rest, rfl, hp, hrest⟩ := List.map_eq_cons_iff.mp hids
  obtain ⟨q, rest, rfl, hq, hrest⟩ := List.map_eq_cons_iff.mp hrest
  obtain rfl := List.map_eq_nil_iff.mp hrest
  have hshop := (hfound p (by simp)).project
  have hmarket := (hfound q (by simp)).project
  rw [hp] at hshop
  rw [hq] at hmarket
  have hne : p.groupName ≠ q.groupName := by
    rw [ProjectListing.groupName, ProjectListing.groupName, ← Except.ok.inj hshop,
      ← Except.ok.inj hmarket]
    decide +kernel
  simp [hne]

/-- If the names of two projects differ by upper and lower case only, the clusters of the first are
read back as clusters of the second. -/
theorem mappedClusters_not_leadHome_shop :
    ∃ tg tc groups clusters,
      Catalogue.embedded.mapper .usual .group "2.10.0" "v20250312" = .ok tg ∧
      Catalogue.embedded.mapper .usual .cluster "2.10.0" "v20250312" = .ok tc ∧
      ((shops "shop").mappedGroups (shopContext false) tg [] ["1", "2"]).result = .ok groups ∧
      ((shops "shop").mappedClusters (shopContext false) tc (.ofMapped groups) 100
        ["1", "2"]).result = .ok clusters ∧
      ∃ found : List ProjectListing, found.map (·.id) = ["1", "2"] ∧
        (∀ p ∈ found, (shops "shop").Answers [] 100 p) ∧
        clusters = tc.clustersOf (shopContext false) found (.ofMapped groups) ∧
        ¬ ∀ p ∈ found, ∀ c ∈ p.clusters, tc.LeadsHome (.ofMapped groups) p.id
          (tc.cluster (shopContext false) (.ofMapped groups) p.id c).object := by
  obtain ⟨tg, tc, groups, clusters, hg, ht, hgroups, hclusters, hp⟩ :=
    exists_of_checkShops "shop"
      (fun tc groups _ => ((shops "shop").clusters "1" 100).result.toOption.any
        fun listed : List Cluster => listed.any fun c =>
          (tc.fromManifest (tc.cluster (shopContext false) (.ofMapped groups) "1" c).object
            (.ofMapped groups)).toOption.any fun source : SourceObject =>
              decide (source.pathParams.lookup "groupId" = some "2")) (by decide +kernel)
  obtain ⟨listed, hlisted, hp⟩ := exists_of_any hp
  obtain ⟨c, hc, hp⟩ := List.any_eq_true.mp hp
  obtain ⟨source, hsource, hsecond⟩ := exists_of_any hp
  obtain ⟨found, hids, hfound, -, hmapped⟩ := ControlPlane.exists_answers hgroups hclusters
  refine ⟨tg, tc, groups, clusters, hg, ht, hgroups, hclusters, found, hids, hfound, hmapped, ?_⟩
  intro h
  obtain ⟨p, rest, rfl, hid, -⟩ := List.map_eq_cons_iff.mp hids
  have hanswer := (hfound p List.mem_cons_self).clusters
  rw [hid] at hanswer
  obtain rfl := Except.ok.inj (hanswer.symm.trans hlisted)
  obtain ⟨other, hother, hlookup⟩ := h p List.mem_cons_self c hc
  rw [hid, hsource] at hother
  obtain rfl := Except.ok.inj hother
  rw [hid, of_decide_eq_true hsecond] at hlookup
  exact absurd hlookup (by decide)

end Mapper

end AtlasManifests
