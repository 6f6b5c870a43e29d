import AtlasManifests.Proofs.Findings

/-! # Every exported object is well formed

The objects of a run are made in three ways: as resources of a curated kind, as secrets, and by a
mapper.  All three take their metadata from one context, so each object has a label for its name
and says which version of the operator it is for (`Findings.Emits.isComplete`); its namespace is
given to it at the end, which changes nothing else (`Manifest.IsComplete.within`).
-/
namespace AtlasManifests

/-! ## The status that is written -/

theorem Resource.get?_status {Spec : Type} (r : Resource Spec) (kind : CuratedKind)
    (write : Spec → Json) :
    (r.toJson kind write).get? "status" = if r.status then some .empty else none := by
  rw [Resource.toJson, Json.lookup_ofFields (by simp)]
  rfl

theorem Generated.get?_status (g : Generated) :
    g.toJson.get? "status" = g.data.lookup "status" := by
  have hdata : (g.data.map fun member => (member.1, some member.2)).filterMap
      (fun member => member.2.map (member.1, ·)) = g.data := by
    simp [List.filterMap_map]
  rw [Generated.toJson, Json.ofFields, Json.get?, List.filterMap_append, List.lookup_append,
    Json.lookup_filterMap_of_not_mem (by simp), Option.none_or]
  exact congrArg (List.lookup "status") hdata

namespace Manifest

/-- The status of a manifest that has one. -/
def status? : Manifest → Option Json
  | project r => if r.status then some .empty else none
  | accessList r => if r.status then some .empty else none
  | deployment r => if r.status then some .empty else none
  | databaseUser r => if r.status then some .empty else none
  | container r => if r.status then some .empty else none
  | peering r => if r.status then some .empty else none
  | integration r => if r.status then some .empty else none
  | federation r => if r.status then some .empty else none
  | secret _ => none
  | generated g => g.data.lookup "status"

theorem get?_status (m : Manifest) : m.toJson.get? "status" = m.status? := by
  cases m with
  | project r => exact r.get?_status _ _
  | accessList r => exact r.get?_status _ _
  | deployment r => exact r.get?_status _ _
  | databaseUser r => exact r.get?_status _ _
  | container r => exact r.get?_status _ _
  | peering r => exact r.get?_status _ _
  | integration r => exact r.get?_status _ _
  | federation r => exact r.get?_status _ _
  | secret s =>
    show s.toJson.get? "status" = none
    rw [Secret.toJson, Json.lookup_ofFields (by simp)]
    rfl
  | generated g => exact g.get?_status

@[simp] theorem status?_withMetadata (metadata : Metadata) (m : Manifest) :
    (m.withMetadata metadata).status? = m.status? := by cases m <;> rfl

/-- An object that lacks nothing but its namespace: it has a label for its name, the label with
the version of the operator and, unless it is a secret, a status that is empty. -/
structure IsComplete (version : String) (m : Manifest) : Prop where
  name : ∃ name, m.metadata.name = some name ∧ Label.IsLabel name.toList
  version : (m.metadata.labels.getD []).lookup versionLabel = some version
  status : (∀ s, m ≠ secret s) → m.toJson.get? "status" = some .empty

/-- An object that a cluster accepts in a namespace. -/
structure IsWellFormed (space version : String) (m : Manifest) : Prop extends
    IsComplete version m where
  space : m.metadata.space = some space

variable {version : String} {m : Manifest}

theorem withMetadata_ne_secret (metadata : Metadata) (h : ∀ s, m.withMetadata metadata ≠ secret s) :
    ∀ s, m ≠ secret s := by
  rintro s rfl
  exact h { s with metadata := metadata } rfl

/-- Objects get their namespace without losing anything. -/
theorem IsComplete.within (h : m.IsComplete version) (space : String) :
    (m.within space).IsWellFormed space version where
  name := by simpa [Manifest.within] using h.name
  version := by simpa [Manifest.within] using h.version
  status hs := by
    rw [Manifest.within, get?_status, status?_withMetadata, ← get?_status]
    exact h.status (withMetadata_ne_secret _ hs)
  space := by simp [Manifest.within]

end Manifest

/-! ## The metadata of a context -/

namespace Context

variable (ctx : Context) {name : String}

theorem isComplete_of_metadata {m : Manifest} (hname : Label.IsLabel name.toList)
    (hm : m.metadata = ctx.metadata name) (hstatus : m.status? = some .empty) :
    m.IsComplete ctx.operatorVersion where
  name := ⟨name, by rw [hm]; rfl, hname⟩
  version := by rw [hm]; simp [Context.metadata, versionLabels]
  status _ := by rw [Manifest.get?_status, hstatus]

theorem isComplete_build (hname : Label.IsLabel name.toList) (data : List (String × List UInt8)) :
    (Manifest.secret (.build name ctx.space data ctx.credentialsLabels)).IsComplete
      ctx.operatorVersion where
  name := ⟨name, rfl, hname⟩
  version := by
    simp [Manifest.metadata, Secret.build, credentialsLabels, Assoc.lookup_cons, versionLabel,
      projectIdLabel, projectNameLabel, typeLabel]
  status hs := absurd rfl (hs _)

theorem isLabel_scopedName (parts : List String) : Label.IsLabel (ctx.scopedName parts).toList :=
  Label.isLabel_normalizeParts _

theorem isComplete_credentialsSecret (credentials : Option Credentials) :
    (Manifest.secret (ctx.credentialsSecret credentials)).IsComplete ctx.operatorVersion := by
  have hname : Label.IsLabel ctx.credentialsSecretName.toList := Label.isLabel_normalizeParts _
  cases hsecrets : ctx.includeSecrets <;> cases credentials <;>
    simp only [credentialsSecret, hsecrets] <;> exact ctx.isComplete_build hname _

theorem isComplete_accessList {entries : List AccessEntry} {r : Resource AccessListSpec}
    (h : ctx.accessList entries = some r) :
    (Manifest.accessList r).IsComplete ctx.operatorVersion := by
  obtain ⟨_, rfl⟩ := ctx.accessList_cases h
  exact ctx.isComplete_of_metadata (ctx.isLabel_scopedName _) rfl rfl

theorem isComplete_userManifests {user : DatabaseUser}
    {out : Resource DatabaseUserSpec × Option Secret} (h : ctx.Converts user out) :
    ∀ m ∈ userManifests out, m.IsComplete ctx.operatorVersion := by
  obtain ⟨name, secretName, hname, hsecret, _, rfl⟩ := h
  intro m hm
  rcases List.mem_cons.mp hm with rfl | hm
  · exact ctx.isComplete_of_metadata hname rfl rfl
  · obtain ⟨s, hs, rfl⟩ := List.mem_map.mp hm
    obtain ⟨name', hname', rfl⟩ := Option.map_eq_some_iff.mp (Option.mem_toList.mp hs)
    exact ctx.isComplete_build (hsecret name' hname') _

theorem isComplete_integration {source : Integration} {out : Resource IntegrationSpec × Secret}
    (h : ctx.integration source = some out) :
    (Manifest.integration out.1).IsComplete ctx.operatorVersion ∧
      (Manifest.secret out.2).IsComplete ctx.operatorVersion := by
  obtain ⟨type, _, hresource, hsecret⟩ := ctx.integration_cases h
  rw [hresource, hsecret]
  exact ⟨ctx.isComplete_of_metadata (ctx.isLabel_scopedName _) rfl rfl,
    ctx.isComplete_build (ctx.isLabel_scopedName _) _⟩

theorem isComplete_toManifest (t : Mapper) (hname : Label.IsLabel name.toList) (source : Json)
    (params : List (String × String)) (refs : ReferenceIndex) :
    (Manifest.generated (t.toManifest ctx name source params refs)).IsComplete
      ctx.operatorVersion :=
  ctx.isComplete_of_metadata hname rfl rfl

end Context

/-! ## Every object of a run -/

/-- Whatever kind an object is of, it is complete when it is emitted. -/
theorem Findings.Emits.isComplete {f : Findings} {job : Job} {m : Manifest} (hf : job.Finds f)
    (h : f.Emits job m) : m.IsComplete (f.ctx job).operatorVersion := by
  -- a user and its secret come from one conversion
  have huser : ∀ out ∈ f.converted, ∀ m ∈ Context.userManifests out,
      m.IsComplete (f.ctx job).operatorVersion := by
    intro out hout
    obtain ⟨user, _, hc⟩ := Context.converts_of_mem _ hf.converted hout
    exact Context.isComplete_userManifests _ hc
  cases h with
  | project _ => exact (f.ctx job).isComplete_of_metadata (Label.isLabel_normalize _) rfl rfl
  | credentials _ => exact (f.ctx job).isComplete_credentialsSecret _
  | accessList h => exact (f.ctx job).isComplete_accessList h
  | deployment _ =>
    exact (f.ctx job).isComplete_of_metadata ((f.ctx job).isLabel_scopedName _) rfl rfl
  | user h => exact huser _ h _ List.mem_cons_self
  | password h hs =>
    refine huser _ h _ (List.mem_cons_of_mem _ ?_)
    exact List.mem_map_of_mem (Option.mem_toList.mpr hs)
  | container _ =>
    exact (f.ctx job).isComplete_of_metadata ((f.ctx job).isLabel_scopedName _) rfl rfl
  | peering _ => exact (f.ctx job).isComplete_of_metadata (Label.isLabel_withSuffix _ _) rfl rfl
  | integration _ hout => exact ((f.ctx job).isComplete_integration hout).1
  | material _ hout => exact ((f.ctx job).isComplete_integration hout).2
  | federation _ =>
    exact (f.ctx job).isComplete_of_metadata ((f.ctx job).isLabel_scopedName _) rfl rfl
  | group _ => exact (f.ctx job).isComplete_toManifest _ (Label.isLabel_normalize _) _ _ _
  | cluster _ _ =>
    exact (f.ctx job).isComplete_toManifest _ (Label.isLabel_normalizeParts _) _ _ _

/-- **Every object of an export is well formed**, whatever the control plane answers and whatever
words are drawn. -/
theorem Job.exported_isWellFormed {job : Job} {manifests : List Manifest}
    (h : job.exported.result = .ok manifests) :
    ∀ m ∈ manifests, m.IsWellFormed job.config.space job.config.operatorVersion := by
  obtain ⟨f, hf, rfl⟩ := exported_eq_ok_iff.mp h
  intro m hm
  obtain ⟨emitted, hemitted, rfl⟩ := Findings.mem_manifests_iff.mp hm
  exact (hemitted.isComplete hf).within job.config.space

/-- An export of every kind of object. -/
theorem Job.exported_isWellFormed_small :
    ∃ manifests, (Job.small "Shop").exported.result = .ok manifests ∧
      ∀ m ∈ manifests, m.IsWellFormed "atlas" "2.10.0" := by
  obtain ⟨manifests, h⟩ := Job.small_exported
  exact ⟨manifests, h, Job.exported_isWellFormed h⟩

end AtlasManifests
