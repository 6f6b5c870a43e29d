import AtlasManifests.Proofs.Listings
import AtlasManifests.Proofs.Records
import AtlasManifests.Proofs.SortedMaps

/-! # Manifests are read back

The JSON of a manifest of a curated kind is read back as that manifest (`readBack`), because each
part that specifications are made of is read back.  Metadata goes through the typed form that
objects of any kind have, which keeps what a cluster knows; plain metadata is its own typed form
(`Metadata.read_toJson`).  The same theorem says which of the two links is read from a value, and
that a link is written as one of them alone.
-/

namespace AtlasManifests

attribute [local simp] Assoc.lookup_cons

-- fields are read one after the other, from the outside
attribute [local simp ↓] bind_eq_some_iff

/-! ## Parts of what is asked for -/

@[simp] theorem TagSpec.undoes : Undoes ofJson? toJson where
  read_write _ := by
    rw [ofJson?]
    simp [toJson]
  ne_null _ := nofun

@[simp] theorem HardwareSpec.undoes : Undoes ofJson? toJson where
  read_write _ := by
    rw [ofJson?]
    simp [toJson]
  ne_null _ := nofun

@[simp] theorem ComputeScalingSpec.undoes : Undoes ofJson? toJson where
  read_write _ := by
    rw [ofJson?]
    simp [toJson]
  ne_null _ := nofun

@[simp] theorem DiskScalingSpec.undoes : Undoes ofJson? toJson where
  read_write _ := by
    rw [ofJson?]
    simp [toJson]
  ne_null _ := nofun

@[simp] theorem AutoScalingSpec.undoes : Undoes ofJson? toJson where
  read_write _ := by
    rw [ofJson?]
    simp [toJson]
  ne_null _ := nofun

@[simp] theorem RegionSpec.undoes : Undoes ofJson? toJson where
  read_write _ := by
    rw [ofJson?]
    simp [toJson]
  ne_null _ := nofun

@[simp] theorem ZoneSpec.undoes : Undoes ofJson? toJson where
  read_write _ := by
    rw [ofJson?]
    simp [toJson]
  ne_null _ := nofun

@[simp] theorem ProjectSettingsSpec.undoes : Undoes ofJson? toJson where
  read_write _ := by
    rw [ofJson?]
    simp [toJson]
  ne_null _ := nofun

@[simp] theorem RoleSpec.undoes : Undoes ofJson? toJson where
  read_write _ := by
    rw [ofJson?]
    simp [toJson]
  ne_null _ := nofun

@[simp] theorem ScopeSpec.undoes : Undoes ofJson? toJson where
  read_write _ := by
    rw [ofJson?]
    simp [toJson]
  ne_null _ := nofun

@[simp] theorem AwsAccessSpec.undoes : Undoes ofJson? toJson where
  read_write _ := by
    rw [ofJson?]
    simp [toJson]
  ne_null _ := nofun

@[simp] theorem CloudAccessSpec.undoes : Undoes ofJson? toJson where
  read_write _ := by
    rw [ofJson?]
    simp [toJson]
  ne_null _ := nofun

@[simp] theorem ProcessingRegionSpec.undoes : Undoes ofJson? toJson where
  read_write _ := by
    rw [ofJson?]
    simp [toJson]
  ne_null _ := nofun

@[simp] theorem DataSourceSpec.undoes : Undoes ofJson? toJson where
  read_write _ := by
    rw [ofJson?]
    simp [toJson]
  ne_null _ := nofun

@[simp] theorem CollectionSpec.undoes : Undoes ofJson? toJson where
  read_write _ := by
    rw [ofJson?]
    simp [toJson]
  ne_null _ := nofun

@[simp] theorem ViewSpec.undoes : Undoes ofJson? toJson where
  read_write _ := by
    rw [ofJson?]
    simp [toJson]
  ne_null _ := nofun

@[simp] theorem DatabaseSpec.undoes : Undoes ofJson? toJson where
  read_write _ := by
    rw [ofJson?]
    simp [toJson]
  ne_null _ := nofun

@[simp] theorem StoreSpec.undoes : Undoes ofJson? toJson where
  read_write _ := by
    rw [ofJson?]
    simp [toJson]
  ne_null _ := nofun

@[simp] theorem StorageSpec.undoes : Undoes ofJson? toJson where
  read_write _ := by
    rw [ofJson?]
    simp [toJson]
  ne_null _ := nofun

@[simp] theorem AccessRule.undoes : Undoes AccessRule.ofJson? AccessRule.toJson where
  read_write _ := by
    rw [AccessRule.ofJson?]
    simp [AccessRule.toJson]
  ne_null _ := nofun

@[simp] theorem Deployment.undoes : Undoes Deployment.ofJson? Deployment.toJson where
  read_write _ := by
    rw [Deployment.ofJson?]
    simp [Deployment.toJson]
  ne_null _ := nofun

@[simp] theorem AwsContainer.undoes : Undoes AwsContainer.ofJson? AwsContainer.toJson where
  read_write _ := by
    rw [AwsContainer.ofJson?]
    simp [AwsContainer.toJson]
  ne_null _ := nofun

@[simp] theorem AzureContainer.undoes : Undoes AzureContainer.ofJson? AzureContainer.toJson where
  read_write _ := by
    rw [AzureContainer.ofJson?]
    simp [AzureContainer.toJson]
  ne_null _ := nofun

@[simp] theorem GcpContainer.undoes : Undoes GcpContainer.ofJson? GcpContainer.toJson where
  read_write _ := by
    rw [GcpContainer.ofJson?]
    simp [GcpContainer.toJson]
  ne_null _ := nofun

@[simp] theorem ContainerRef.undoes : Undoes ContainerRef.ofJson? ContainerRef.toJson where
  read_write _ := by
    rw [ContainerRef.ofJson?]
    simp [ContainerRef.toJson]
  ne_null _ := nofun

@[simp] theorem AwsPeering.undoes : Undoes AwsPeering.ofJson? AwsPeering.toJson where
  read_write _ := by
    rw [AwsPeering.ofJson?]
    simp [AwsPeering.toJson]
  ne_null _ := nofun

@[simp] theorem AzurePeering.undoes : Undoes AzurePeering.ofJson? AzurePeering.toJson where
  read_write _ := by
    rw [AzurePeering.ofJson?]
    simp [AzurePeering.toJson]
  ne_null _ := nofun

@[simp] theorem GcpPeering.undoes : Undoes GcpPeering.ofJson? GcpPeering.toJson where
  read_write _ := by
    rw [GcpPeering.ofJson?]
    simp [GcpPeering.toJson]
  ne_null _ := nofun

@[simp] theorem DatadogBlock.undoes : Undoes DatadogBlock.ofJson? DatadogBlock.toJson where
  read_write _ := by
    rw [DatadogBlock.ofJson?]
    simp [DatadogBlock.toJson]
  ne_null _ := nofun

@[simp] theorem MicrosoftTeamsBlock.undoes :
    Undoes MicrosoftTeamsBlock.ofJson? MicrosoftTeamsBlock.toJson where
  read_write _ := by
    rw [MicrosoftTeamsBlock.ofJson?]
    simp [MicrosoftTeamsBlock.toJson]
  ne_null _ := nofun

@[simp] theorem NewRelicBlock.undoes : Undoes NewRelicBlock.ofJson? NewRelicBlock.toJson where
  read_write _ := by
    rw [NewRelicBlock.ofJson?]
    simp [NewRelicBlock.toJson]
  ne_null _ := nofun

@[simp] theorem OpsGenieBlock.undoes : Undoes OpsGenieBlock.ofJson? OpsGenieBlock.toJson where
  read_write _ := by
    rw [OpsGenieBlock.ofJson?]
    simp [OpsGenieBlock.toJson]
  ne_null _ := nofun

@[simp] theorem PagerDutyBlock.undoes : Undoes PagerDutyBlock.ofJson? PagerDutyBlock.toJson where
  read_write _ := by
    rw [PagerDutyBlock.ofJson?]
    simp [PagerDutyBlock.toJson]
  ne_null _ := nofun

@[simp] theorem PrometheusBlock.undoes :
    Undoes PrometheusBlock.ofJson? PrometheusBlock.toJson where
  read_write _ := by
    rw [PrometheusBlock.ofJson?]
    simp [PrometheusBlock.toJson]
  ne_null _ := nofun

@[simp] theorem SlackBlock.undoes : Undoes SlackBlock.ofJson? SlackBlock.toJson where
  read_write _ := by
    rw [SlackBlock.ofJson?]
    simp [SlackBlock.toJson]
  ne_null _ := nofun

@[simp] theorem VictorOpsBlock.undoes : Undoes VictorOpsBlock.ofJson? VictorOpsBlock.toJson where
  read_write _ := by
    rw [VictorOpsBlock.ofJson?]
    simp [VictorOpsBlock.toJson]
  ne_null _ := nofun

@[simp] theorem WebhookBlock.undoes : Undoes WebhookBlock.ofJson? WebhookBlock.toJson where
  read_write _ := by
    rw [WebhookBlock.ofJson?]
    simp [WebhookBlock.toJson]
  ne_null _ := nofun

@[simp] theorem ProjectSpec.undoes : Undoes ProjectSpec.ofJson? ProjectSpec.toJson where
  read_write _ := by
    rw [ProjectSpec.ofJson?]
    simp [ProjectSpec.toJson, -Bool.exists_bool]
  ne_null _ := nofun

/-! ## What is asked for with a link to a project -/

@[simp] theorem AccessListSpec.undoes : Undoes AccessListSpec.ofJson? AccessListSpec.toJson where
  read_write _ := by
    rw [AccessListSpec.ofJson?]
    simp [AccessListSpec.toJson, Linkage.members]
  ne_null _ := nofun

@[simp] theorem DeploymentSpec.undoes : Undoes DeploymentSpec.ofJson? DeploymentSpec.toJson where
  read_write _ := by
    rw [DeploymentSpec.ofJson?]
    simp [DeploymentSpec.toJson, Linkage.members,
      Deployment.undoes.read_write]
  ne_null _ := nofun

@[simp] theorem DatabaseUserSpec.undoes :
    Undoes DatabaseUserSpec.ofJson? DatabaseUserSpec.toJson where
  read_write _ := by
    rw [DatabaseUserSpec.ofJson?]
    simp [DatabaseUserSpec.toJson, Linkage.members]
  ne_null _ := nofun

@[simp] theorem ContainerSpec.undoes : Undoes ContainerSpec.ofJson? ContainerSpec.toJson where
  read_write _ := by
    rw [ContainerSpec.ofJson?]
    simp [ContainerSpec.toJson, Linkage.members]
  ne_null _ := nofun

@[simp] theorem PeeringSpec.undoes : Undoes PeeringSpec.ofJson? PeeringSpec.toJson where
  read_write _ := by
    rw [PeeringSpec.ofJson?]
    simp [PeeringSpec.toJson, Linkage.members, ContainerRef.undoes.read_write]
  ne_null _ := nofun

@[simp] theorem IntegrationSpec.undoes :
    Undoes IntegrationSpec.ofJson? IntegrationSpec.toJson where
  read_write _ := by
    rw [IntegrationSpec.ofJson?]
    simp [IntegrationSpec.toJson, Linkage.members]
  ne_null _ := nofun

@[simp] theorem FederationSpec.undoes : Undoes FederationSpec.ofJson? FederationSpec.toJson where
  read_write _ := by
    rw [FederationSpec.ofJson?]
    simp [FederationSpec.toJson, Linkage.members]
  ne_null _ := nofun

/-! ## Metadata -/

namespace Metadata

/-- Metadata with nothing but a name, a namespace and labels; the labels are a map. -/
structure IsPlain (m : Metadata) : Prop where
  others_eq : m.others = []
  isSorted : ∀ labels ∈ m.labels, Assoc.IsSorted labels

theorem toJson_of_isPlain {m : Metadata} (h : m.IsPlain) :
    m.toJson = .ofFields [("labels", m.labels.map ofTextMembers), ("name", m.name.map .str),
      ("namespace", m.space.map .str)] := by
  have hname : "labels" < "name" := by decide
  have hspace : "labels" < "namespace" := by decide
  have hboth : "name" < "namespace" := by decide
  rw [toJson, h.others_eq, Json.ofFields]
  cases m.labels <;> cases m.name <;> cases m.space <;>
    simp only [put, Assoc.insert, Option.map_none, Option.map_some, List.filterMap_cons,
      List.filterMap_nil, if_pos hname, if_pos hspace, if_pos hboth]

/-- Texts under keys, as values. -/
def ofTexts (texts : List (String × String)) : List (String × Json) :=
  texts.map fun (k, v) => (k, .str v)

theorem lt_of_mem_ofTexts {texts : List (String × String)} {key : String}
    (h : ∀ entry ∈ texts, key < entry.1) : ∀ entry ∈ ofTexts texts, key < entry.1 := by
  intro entry hentry
  obtain ⟨entry, hmem, rfl⟩ := List.mem_map.mp hentry
  exact h entry hmem

/-- A table of texts, sorted by keys, is its own typed form. -/
theorem readTable_ofTexts {texts : List (String × String)} (h : Assoc.IsSorted texts) :
    Shape.readTable .text (Datum.ofMembers (ofTexts texts)) = some (ofTexts texts) := by
  induction texts with
  | nil => rfl
  | cons entry rest ih =>
    obtain ⟨key, text⟩ := entry
    obtain ⟨hfirst, hrest⟩ := List.pairwise_cons.mp h
    have hlt := lt_of_mem_ofTexts hfirst
    have hnew : (ofTexts rest).lookup key = none := by
      refine List.lookup_eq_none_iff.mpr fun entry hentry => bne_iff_ne.mpr fun heq => ?_
      exact absurd (heq ▸ hlt entry hentry) (lt_irrefl _)
    change ((Shape.readTable .text (Datum.ofMembers (ofTexts rest))).bind fun later =>
      some (if (later.lookup key).isSome then later else
        Assoc.insert key (.str text) later)) = _
    rw [ih hrest, Option.bind_some, hnew, Assoc.insert_of_lt hlt]
    rfl

theorem textMembers?_ofTextMembers (texts : List (String × String)) :
    textMembers? (ofTextMembers texts) = some texts := by
  rw [textMembers?, ofTextMembers, Json.members?, Option.bind_some]
  induction texts with
  | nil => rfl
  | cons entry rest ih => simp [ih]

theorem isAbsent_leaf (facets : Facets) : (Datum.leaf facets).isAbsent = facets.absent := rfl

theorem isAbsent_ofTextMembers (texts : List (String × String)) :
    (Datum.ofJson (ofTextMembers texts)).isAbsent = false := rfl

theorem read_ofTextMembers {texts : List (String × String)} (h : Assoc.IsSorted texts) :
    Shape.texts.read (.ofJson (ofTextMembers texts)) = some (ofTextMembers texts) :=
  congrArg (Option.map Json.obj) (readTable_ofTexts h)

/-- Plain metadata is its own typed form. -/
theorem read_toJson {m : Metadata} (h : m.IsPlain) :
    Shape.metadata.read (.ofJson m.toJson) = some m.toJson := by
  rw [toJson_of_isPlain h, Json.ofFields]
  obtain ⟨name, space, labels, others⟩ := m
  have hlabels (texts : List (String × String)) (htexts : labels = some texts) :=
    read_ofTextMembers (h.isSorted texts htexts)
  -- each of the three is there or not, and nothing else is
  cases labels <;> cases name <;> cases space <;>
    simp [Datum.ofJson, Datum.ofMembers, Shape.read, Shape.readMembers, Shape.metadata,
      Shape.fields, Assoc.lookup_cons, Shape.assemble, Shape.Presence.default?,
      isAbsent_leaf, isAbsent_ofTextMembers, Shape.ofLeaf?, hlabels]

theorem ofTyped_toJson {m : Metadata} (h : m.IsPlain) : ofTyped m.toJson = m := by
  rw [toJson_of_isPlain h, Json.ofFields]
  obtain ⟨name, space, labels, others⟩ := m
  obtain rfl : others = [] := h.others_eq
  cases labels <;> cases name <;> cases space <;>
    simp [ofTyped, Json.get?, Json.members?, Assoc.lookup_cons, textMembers?_ofTextMembers]

theorem ofJson?_toJson {m : Metadata} (h : m.IsPlain) : ofJson? m.toJson = some m := by
  rw [ofJson?, read_toJson h, Option.map_some, ofTyped_toJson h]

end Metadata

/-! ## Objects -/

theorem Resource.ofJson?_toJson {Spec : Type} {readSpec : Json → Option Spec}
    {writeSpec : Spec → Json} (hspec : Undoes readSpec writeSpec) (kind : CuratedKind)
    (r : Resource Spec) (hplain : r.metadata.IsPlain) :
    ofJson? readSpec (r.toJson kind writeSpec) = some r := by
  obtain ⟨metadata, spec, status⟩ := r
  have hmetadata : Metadata.ofJson? metadata.toJson = some metadata :=
    Metadata.ofJson?_toJson hplain
  have hstatus : Field.optional status? (if status then some .empty else none) =
      some (if status then some () else none) := by cases status <;> rfl
  have hisSome : (if status then some () else none).isSome = status := by cases status <;> rfl
  simp [ofJson?, toJson, hmetadata, hspec.read_write, hstatus, hisSome]

/-- A manifest of a curated kind is read back if its metadata is plain. -/
theorem Manifest.ofCurated?_toJson {kind : CuratedKind} {m : Manifest}
    (hkind : m.curated? = some kind) (hplain : m.metadata.IsPlain) :
    ofCurated? kind m.toJson = some m := by
  cases m with
  | project r =>
    cases hkind
    exact congrArg (Option.map project) (Resource.ofJson?_toJson ProjectSpec.undoes _ r hplain)
  | accessList r =>
    cases hkind
    exact congrArg (Option.map accessList)
      (Resource.ofJson?_toJson AccessListSpec.undoes _ r hplain)
  | deployment r =>
    cases hkind
    exact congrArg (Option.map deployment)
      (Resource.ofJson?_toJson DeploymentSpec.undoes _ r hplain)
  | databaseUser r =>
    cases hkind
    exact congrArg (Option.map databaseUser)
      (Resource.ofJson?_toJson DatabaseUserSpec.undoes _ r hplain)
  | container r =>
    cases hkind
    exact congrArg (Option.map container) (Resource.ofJson?_toJson ContainerSpec.undoes _ r hplain)
  | peering r =>
    cases hkind
    exact congrArg (Option.map peering) (Resource.ofJson?_toJson PeeringSpec.undoes _ r hplain)
  | integration r =>
    cases hkind
    exact congrArg (Option.map integration)
      (Resource.ofJson?_toJson IntegrationSpec.undoes _ r hplain)
  | federation r =>
    cases hkind
    exact congrArg (Option.map federation)
      (Resource.ofJson?_toJson FederationSpec.undoes _ r hplain)
  | secret s => cases hkind
  | generated g => cases hkind

/-! ## Links -/

namespace Linkage

/-- What a link is written as: the members of one of the two kinds, and nothing of the other. -/
inductive Written : Linkage → Json → Prop
  | external (projectId secret : String) :
      Written (.external projectId ⟨secret⟩)
        (.obj [("externalProjectRef", .obj [("id", .str projectId)]),
          ("connectionSecret", .obj [("name", .str secret)])])
  | named (name : String) :
      Written (.project name none) (.obj [("projectRef", .obj [("name", .str name)])])
  | within (name space : String) :
      Written (.project name (some space))
        (.obj [("projectRef", .obj [("name", .str name), ("namespace", .str space)])])

theorem written_toJson (l : Linkage) : Written l l.toJson := by
  match l with
  | .external projectId ⟨secret⟩ => exact .external projectId secret
  | .project name none => exact .named name
  | .project name (some space) => exact .within name space

theorem ofJson?_toJson (l : Linkage) : ofJson? l.toJson = some l := by
  have h : ofJson? (.ofFields (l.fields ++ [])) = some l := ofJson?_ofFields l (by simp)
  rwa [List.append_nil] at h

theorem ofJson?_eq (j : Json) :
    ofJson? j =
      match (j.get? "externalProjectRef").bind externalId?,
        (j.get? "connectionSecret").bind Reference.ofJson? with
      | some projectId, some secret => some (.external projectId secret)
      | _, _ => (j.get? "projectRef").bind projectRef? := by
  rw [ofJson?]
  cases j.get? "externalProjectRef" with
  | none => rfl
  | some project =>
    cases j.get? "connectionSecret" with
    | none => cases h : externalId? project <;> simp [h]
    | some secret =>
      cases h : externalId? project <;> cases h' : Reference.ofJson? secret <;> simp [h, h']

theorem projectRef?_eq_some {j : Json} {l : Linkage} (h : projectRef? j = some l) :
    ∃ name space, l = .project name space := by
  simp only [projectRef?, Option.bind_eq_bind, Option.bind_eq_some_iff] at h
  obtain ⟨_, _, name, _, space, _, heq⟩ := h
  exact ⟨name, space, (Option.some.inj heq).symm⟩

variable {j : Json} {l : Linkage}

/-- A link is read as one from outside exactly if both of its members can be read. -/
theorem eq_external_iff (h : ofJson? j = some l) (projectId : String) (secret : Reference) :
    l = .external projectId secret ↔
      (j.get? "externalProjectRef").bind externalId? = some projectId ∧
        (j.get? "connectionSecret").bind Reference.ofJson? = some secret := by
  rw [ofJson?_eq] at h
  split at h
  · next id? name? hid hname =>
    obtain rfl := Option.some.inj h
    rw [hid, hname, external.injEq, Option.some.injEq, Option.some.injEq]
  · next hboth =>
    obtain ⟨_, _, hproject⟩ := Option.bind_eq_some_iff.mp h
    obtain ⟨name, space, rfl⟩ := projectRef?_eq_some hproject
    exact ⟨nofun, fun hread => absurd hread.2 (hboth _ _ hread.1)⟩

theorem eq_project (h : ofJson? j = some l)
    (hnone : (j.get? "externalProjectRef").bind externalId? = none ∨
      (j.get? "connectionSecret").bind Reference.ofJson? = none) :
    ∃ name space, l = .project name space := by
  cases l with
  | project name space => exact ⟨name, space, rfl⟩
  | external projectId secret =>
    obtain ⟨hid, hsecret⟩ := (eq_external_iff h projectId secret).mp rfl
    rcases hnone with hnone | hnone
    · cases hnone.symm.trans hid
    · cases hnone.symm.trans hsecret

end Linkage

/-- **Manifests and links are read back.**  A manifest of a curated kind whose metadata has nothing
but a name, a namespace and labels is what is read from its JSON.  A value that is read as a link is
read as one from outside exactly if the id of the project and the secret can both be read, and
otherwise as one to a project in the cluster; the link is written as the members of its own kind
alone, which are read as the same link. -/
theorem readBack :
    (∀ (kind : CuratedKind) (m : Manifest), m.curated? = some kind → m.metadata.IsPlain →
      Manifest.ofCurated? kind m.toJson = some m) ∧
    ∀ (j : Json) (l : Linkage), Linkage.ofJson? j = some l →
      (∀ projectId secret, l = .external projectId secret ↔
        (j.get? "externalProjectRef").bind Linkage.externalId? = some projectId ∧
          (j.get? "connectionSecret").bind Reference.ofJson? = some secret) ∧
      ((j.get? "externalProjectRef").bind Linkage.externalId? = none ∨
          (j.get? "connectionSecret").bind Reference.ofJson? = none →
        ∃ name space, l = .project name space) ∧
      l.Written l.toJson ∧ Linkage.ofJson? l.toJson = some l := by
  refine ⟨fun kind m hkind hplain => Manifest.ofCurated?_toJson hkind hplain, fun j l hl => ?_⟩
  exact ⟨Linkage.eq_external_iff hl, Linkage.eq_project hl, l.written_toJson, l.ofJson?_toJson⟩

/-- An access list with two labels, of which one rule holds until a leap second, and a value with
the members of both kinds of link. -/
theorem readBack_both :
    let list : Manifest := .accessList
      { metadata := { name := some "list", labels := some [("a", "1"), ("b", "")] }
        spec := {
          linkage := .project "project" none
          entries := [
            { cidrBlock := some "10.0.0.0/8" },
            { ipAddress := some "10.0.0.1"
              deleteAfterDate :=
                some ⟨⟨2016, 12, 31, by decide⟩, 23, 59, 60, 5000000, by decide⟩ }] }
        status := true }
    let j : Json := .obj [("projectRef", .obj [("name", .str "project")]),
      ("externalProjectRef", .obj [("id", .str "1")]),
      ("connectionSecret", .arr [.str "key"])]
    Manifest.ofCurated? .ipAccessList list.toJson = some list ∧
      Linkage.ofJson? j = some (.external "1" ⟨"key"⟩) ∧
      Linkage.ofJson? (Linkage.external "1" ⟨"key"⟩).toJson = some (.external "1" ⟨"key"⟩) := by
  intro list j
  have hsorted : Assoc.IsSorted [("a", "1"), ("b", "")] :=
    show List.Pairwise _ _ by decide
  have hplain : list.metadata.IsPlain := ⟨rfl, fun labels h => Option.some.inj h ▸ hsorted⟩
  have hj : Linkage.ofJson? j = some (.external "1" ⟨"key"⟩) := rfl
  exact ⟨readBack.1 .ipAccessList list rfl hplain, hj, (readBack.2 j _ hj).2.2.2⟩

end AtlasManifests
