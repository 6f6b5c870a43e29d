import AtlasManifests.Proofs.Listings
import AtlasManifests.Proofs.SchemaAdmission

/-! # Definitions admit what is converted

Each part of a specification is written as its schema has it: every field that is written is
declared with a schema that its value fits, and every field that has to be there is written.  The
fields of a link stand beside those of a specification, and they are one of the alternatives that
the schema leaves (`Linkage.fits_linked`).  So the definition of a curated kind admits every
manifest of the kind (`Manifest.admitted`), whatever it was converted from
(`Context.converted_admitted`).
-/
namespace AtlasManifests

open Schema

attribute [local simp] Assoc.lookup_cons must may str Curated.maybeStr Curated.maybeFlag

/-! ## Parts of specifications -/

@[simp] theorem Reference.fits (r : Reference) : Curated.reference.Fits r.toJson := by
  simp [Curated.reference, toJson]

@[simp] theorem Reference.fits_sameNamespace (r : Reference) :
    Curated.sameNamespace.Fits r.toJson := by simp [Curated.sameNamespace]

@[simp] theorem TagSpec.fits (t : TagSpec) : Curated.tag.Fits t.toJson := by
  simp [Curated.tag, TagSpec.toJson]

@[simp] theorem HardwareSpec.fits (h : HardwareSpec) : Curated.hardware.Fits h.toJson := by
  simp [Curated.hardware, HardwareSpec.toJson]

@[simp] theorem AutoScalingSpec.fits (s : AutoScalingSpec) :
    Curated.autoScaling.Fits s.toJson := by
  simp [Curated.autoScaling, AutoScalingSpec.toJson, ComputeScalingSpec.toJson,
    DiskScalingSpec.toJson]

@[simp] theorem RegionSpec.fits (r : RegionSpec) : Curated.region.Fits r.toJson := by
  simp [Curated.region, RegionSpec.toJson]

@[simp] theorem DataSourceSpec.fits (s : DataSourceSpec) : Curated.dataSource.Fits s.toJson := by
  simp [Curated.dataSource, DataSourceSpec.toJson]

@[simp] theorem CollectionSpec.fits (c : CollectionSpec) : Curated.collection.Fits c.toJson := by
  simp [Curated.collection, CollectionSpec.toJson]

@[simp] theorem DatabaseSpec.fits (d : DatabaseSpec) : Curated.database.Fits d.toJson := by
  simp [Curated.database, DatabaseSpec.toJson, ViewSpec.toJson]

@[simp] theorem StoreSpec.fits (s : StoreSpec) : Curated.store.Fits s.toJson := by
  simp [Curated.store, StoreSpec.toJson]

theorem ProjectSpec.fits (spec : ProjectSpec) : (Curated.spec .project).Fits spec.toJson := by
  simp [Curated.spec, Curated.projectFields, ProjectSpec.toJson, ProjectSettingsSpec.toJson]

/-! ## Links -/

section
variable {fields : List (String × Bool × Schema)} {own : List (String × Option Json)}

theorem Linkage.covers (l : Linkage) : Covers Curated.linkFields l.fields := by
  cases l <;> simp [Curated.linkFields, Linkage.fields]

theorem Curated.mem_linkFields_iff {name : String} :
    name ∈ linkFields.map (·.1) ↔ name ∈ Linkage.members := by
  simp only [linkFields, must, may, Linkage.members, List.map_cons, List.map_nil, List.mem_cons,
    List.not_mem_nil, or_false]
  tauto

theorem Curated.may_of_mem_linkFields {field : String × Bool × Schema} (h : field ∈ linkFields) :
    field.2.1 = false := by
  revert field
  simp [linkFields]

/-- The fields of a link and those that it stands beside. -/
theorem Linkage.covers_append (l : Linkage) (hown : Covers fields own)
    (hapart : ∀ name ∈ members, name ∉ own.map (·.1)) :
    Covers (Curated.linkFields ++ fields) (l.fields ++ own) := by
  refine ⟨fun (name, value) hmem => ?_, fun field hfield htrue => ?_⟩
  · -- the members of a link are declared in front, so nothing else may have their names
    rw [List.lookup_append]
    rcases List.mem_append.mp hmem with hmem | hmem
    · have hname : name ∈ members := l.names_sublist.subset (List.mem_map_of_mem hmem)
      have hsome := Assoc.lookup_isSome_iff.mpr (Curated.mem_linkFields_iff.mpr hname)
      obtain ⟨field, hfield⟩ := Option.isSome_iff_exists.mp hsome
      have hdeclared := l.covers.declared _ hmem
      rw [hfield] at hdeclared ⊢
      exact hdeclared
    · have hname : name ∉ members := fun h => hapart name h (List.mem_map_of_mem hmem)
      have hnone : Curated.linkFields.lookup name = none :=
        Assoc.lookup_eq_none (mt Curated.mem_linkFields_iff.mp hname)
      rw [hnone, Option.none_or]
      exact hown.declared _ hmem
  · -- no member of a link has to be there by itself: that is left to the alternatives
    rcases List.mem_append.mp hfield with hfield | hfield
    · cases htrue.symm.trans (Curated.may_of_mem_linkFields hfield)
    · obtain ⟨value, hmem⟩ := hown.required field hfield htrue
      exact ⟨value, List.mem_append_right _ hmem⟩

/-- What stands beside a link fits with it: the members of a link are one of the alternatives. -/
theorem Linkage.fits_linked (l : Linkage) (hown : Covers fields own)
    (hapart : ∀ name ∈ members, name ∉ own.map (·.1)) :
    (Curated.linked fields).Fits (.ofFields (l.fields ++ own)) := by
  have hfits := fits_record_iff.mpr (l.covers_append hown hapart)
  cases l with
  | external projectId secret =>
    refine .oneOf hfits List.mem_cons_self fun name hname => isThere_iff.mp ?_
    rcases List.mem_pair.mp hname with rfl | rfl <;> simp [Linkage.fields]
  | project projectName space =>
    refine .oneOf hfits (List.mem_cons_of_mem _ List.mem_cons_self) fun name hname =>
      isThere_iff.mp ?_
    obtain rfl := List.mem_singleton.mp hname
    simp [Linkage.fields]

end

/-! ## Specifications -/

theorem AccessListSpec.fits (spec : AccessListSpec) :
    (Curated.spec .ipAccessList).Fits spec.toJson :=
  spec.linkage.fits_linked (by simp [Curated.accessListFields, AccessRule.toJson, Instant.toJson])
    (by simp [Linkage.members])

theorem DeploymentSpec.fits (spec : DeploymentSpec) :
    (Curated.spec .deployment).Fits spec.toJson :=
  spec.linkage.fits_linked
    (by simp [Curated.deploymentFields, Deployment.toJson, ZoneSpec.toJson])
    (by simp [Linkage.members])

theorem DatabaseUserSpec.fits (spec : DatabaseUserSpec) :
    (Curated.spec .databaseUser).Fits spec.toJson :=
  spec.linkage.fits_linked
    (by simp [Curated.databaseUserFields, RoleSpec.toJson, ScopeSpec.toJson])
    (by simp [Linkage.members])

theorem ContainerSpec.fits (spec : ContainerSpec) :
    (Curated.spec .networkContainer).Fits spec.toJson :=
  spec.linkage.fits_linked
    (by simp [Curated.containerFields, AwsContainer.toJson, AzureContainer.toJson,
      GcpContainer.toJson])
    (by simp [Linkage.members])

theorem PeeringSpec.fits (spec : PeeringSpec) :
    (Curated.spec .networkPeering).Fits spec.toJson :=
  spec.linkage.fits_linked
    (by simp [Curated.peeringFields, ContainerRef.toJson, AwsPeering.toJson, AzurePeering.toJson,
      GcpPeering.toJson])
    (by simp [Linkage.members])

theorem IntegrationSpec.fits (spec : IntegrationSpec) :
    (Curated.spec .thirdPartyIntegration).Fits spec.toJson :=
  spec.linkage.fits_linked
    (by simp [Curated.integrationFields, Curated.switch, DatadogBlock.toJson,
      MicrosoftTeamsBlock.toJson, NewRelicBlock.toJson, OpsGenieBlock.toJson,
      PagerDutyBlock.toJson, PrometheusBlock.toJson, SlackBlock.toJson, VictorOpsBlock.toJson,
      WebhookBlock.toJson])
    (by simp [Linkage.members])

theorem FederationSpec.fits (spec : FederationSpec) :
    (Curated.spec .dataFederation).Fits spec.toJson :=
  spec.linkage.fits_linked
    (by simp [Curated.federationFields, CloudAccessSpec.toJson, AwsAccessSpec.toJson,
      ProcessingRegionSpec.toJson, StorageSpec.toJson])
    (by simp [Linkage.members])

/-! ## Objects -/

/-- The members that every object in a cluster has, whatever is declared. -/
def commonMembers : List String := ["apiVersion", "kind", "metadata"]

/-- What an object has beside the members that every object has. -/
def Json.withoutCommon : Json → Json
  | .obj members => .obj (members.filter fun (name, _) => !commonMembers.contains name)
  | j => j

/-- An object that a version of a definition admits: it calls itself what the definition does, it
has metadata, and the schema of the version admits everything else. -/
structure Definition.Admits (d : Definition) (version schema : Json) (j : Json) : Prop where
  apiVersion :
    j.get? "apiVersion" = some (.str (d.group ++ "/" ++ Definition.versionName version))
  kind : j.get? "kind" = some (.str d.kind)
  metadata : ∃ members, j.get? "metadata" = some (.obj members)
  rest : Admission.admits schema j.withoutCommon = true

theorem Curated.status_fits : status.Fits .empty := by
  simp [status, Json.empty]

theorem Resource.withoutCommon_toJson {Spec : Type} (kind : CuratedKind) (writeSpec : Spec → Json)
    (r : Resource Spec) :
    (r.toJson kind writeSpec).withoutCommon =
      .ofFields [("spec", some (writeSpec r.spec)),
        ("status", if r.status then some .empty else none)] := by
  cases h : r.status <;> simp [toJson, Json.withoutCommon, Json.ofFields, commonMembers, h]

theorem Resource.admitted {Spec : Type} {kind : CuratedKind} {writeSpec : Spec → Json}
    (r : Resource Spec) (hspec : (Curated.spec kind).Fits (writeSpec r.spec)) :
    (Curated.definition kind).Admits
      (Definition.version (some (Curated.columns kind)) "v1" true (Curated.schema kind))
      (Curated.schema kind).toJson (r.toJson kind writeSpec) where
  apiVersion := rfl
  kind := rfl
  metadata := ⟨_, rfl⟩
  rest := by
    refine Fits.admits ?_
    rw [withoutCommon_toJson]
    cases h : r.status <;>
      simp [Curated.schema, hspec, Curated.status_fits]

theorem CuratedKind.resource_injective {kind kind' : CuratedKind}
    (h : kind.resource = kind'.resource) : kind = kind' := by
  have hread : ofResource? kind.resource = ofResource? kind'.resource := congrArg ofResource? h
  rw [ofResource?_resource, ofResource?_resource] at hread
  exact Option.some.inj hread

/-- The manifests that the objects of each kind are converted to. -/
inductive Context.Converted (ctx : Context) : CuratedKind → Manifest → Prop
  | project (project : Project) (settings : Option ProjectSettings) :
      Converted ctx .project (.project (ctx.project project settings))
  | accessList {entries : List AccessEntry} {r : Resource AccessListSpec}
      (h : ctx.accessList entries = some r) : Converted ctx .ipAccessList (.accessList r)
  | deployment (cluster : Cluster) :
      Converted ctx .deployment (.deployment (ctx.deployment cluster))
  | databaseUser {user : DatabaseUser} {claims claims' : Claims}
      {out : Resource DatabaseUserSpec × Option Secret}
      (h : ctx.databaseUser user claims = some (out, claims')) :
      Converted ctx .databaseUser (.databaseUser out.1)
  | container (source : Container) :
      Converted ctx .networkContainer (.container (ctx.container source))
  | peering (source : Peering) (containers : ContainerIndex) (suffix : String) :
      Converted ctx .networkPeering (.peering (ctx.peering source containers suffix))
  | integration {source : Integration} {out : Resource IntegrationSpec × Secret}
      (h : ctx.integration source = some out) :
      Converted ctx .thirdPartyIntegration (.integration out.1)
  | federation (source : Federation) :
      Converted ctx .dataFederation (.federation (ctx.federation source))

theorem Context.Converted.curated? {ctx : Context} {kind : CuratedKind} {m : Manifest}
    (h : ctx.Converted kind m) : m.curated? = some kind := by cases h <;> rfl

/-- The definition of a kind admits every manifest of the kind. -/
theorem Manifest.admitted {kind : CuratedKind} {m : Manifest} (h : m.curated? = some kind) :
    (Curated.definition kind).Admits
      (Definition.version (some (Curated.columns kind)) "v1" true (Curated.schema kind))
      (Curated.schema kind).toJson m.toJson := by
  cases m with
  | project r =>
    cases h
    exact r.admitted r.spec.fits
  | accessList r =>
    cases h
    exact r.admitted r.spec.fits
  | deployment r =>
    cases h
    exact r.admitted r.spec.fits
  | databaseUser r =>
    cases h
    exact r.admitted r.spec.fits
  | container r =>
    cases h
    exact r.admitted r.spec.fits
  | peering r =>
    cases h
    exact r.admitted r.spec.fits
  | integration r =>
    cases h
    exact r.admitted r.spec.fits
  | federation r =>
    cases h
    exact r.admitted r.spec.fits
  | secret s => cases h
  | generated g => cases h

/-- **Converted objects are admitted by the definitions.**  For every context, in both modes, and
whatever is converted to a manifest of a curated kind: there is a definition of that kind, it has
one version, and it admits the JSON of the manifest.  So whatever a path leads to in the manifest is
declared at that path, at every depth. -/
theorem Context.converted_admitted {ctx : Context} {kind : CuratedKind} {m : Manifest}
    (h : ctx.Converted kind m) :
    (∃ d ∈ Curated.all, d.kind = kind.resource) ∧
    ∀ d ∈ Curated.all, d.kind = kind.resource →
      ∃ version schema, d.versions = [version] ∧ Definition.schemaOf? version = some schema ∧
        d.Admits version schema m.toJson ∧
        ∀ steps below, m.toJson.withoutCommon.walk? steps = some below →
          ∃ schema' ∈ Admission.below? schema steps, Admission.admits schema' below = true := by
  refine ⟨⟨_, List.mem_map_of_mem kind.mem_all, rfl⟩, fun d hd hkind => ?_⟩
  obtain ⟨kind', _, rfl⟩ := List.mem_map.mp hd
  have hkinds : kind' = kind := CuratedKind.resource_injective hkind
  subst hkinds
  have hadmits := Manifest.admitted h.curated?
  exact ⟨_, _, rfl, rfl, hadmits, fun steps below hwalk => Admission.admits_walk hadmits.rest hwalk⟩

/-- A Datadog integration of a project outside of the cluster. -/
theorem Context.converted_admitted_datadog :
    let ctx : Context :=
      { space := "atlas", projectId := "1", projectName := "Shop", operatorVersion := "2.10.0"
        independent := true, includeSecrets := false }
    let source : Integration :=
      { kind := "DATADOG", region := some "US", sendDatabaseMetrics := some true }
    ∃ out, ctx.integration source = some out ∧
      ∃ d ∈ Curated.all, d.kind = "AtlasThirdPartyIntegration" ∧
        ∃ version schema, d.versions = [version] ∧ Definition.schemaOf? version = some schema ∧
          d.Admits version schema (Manifest.integration out.1).toJson := by
  intro ctx source
  have hout : ∃ out, ctx.integration source = some out := ⟨_, rfl⟩
  obtain ⟨out, hout⟩ := hout
  obtain ⟨⟨d, hd, hkind⟩, hadmitted⟩ := Context.converted_admitted (.integration hout)
  obtain ⟨version, schema, hversions, hschema, hadmits, _⟩ := hadmitted d hd hkind
  exact ⟨out, hout, d, hd, hkind, version, schema, hversions, hschema, hadmits⟩

end AtlasManifests
