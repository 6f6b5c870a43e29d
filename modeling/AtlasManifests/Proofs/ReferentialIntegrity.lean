import AtlasManifests.Proofs.Listings
import AtlasManifests.Proofs.MappingInverse

/-! # What an export mentions is in the export

An object mentions others by kind and name.  Who is mentioned and who has the name are decided in
different places: links and secret names by the context, passwords by the claims, containers and
groups by an index of the manifests made before.  An export is closed (`Job.IsClosed`) if each
mention has its object in the export; links to the project count only where the project is
exported.  The module lists the mentions of an object, says what each converter mentions, and
finds the object for each of them (`Job.exported_isClosed`).
-/
namespace AtlasManifests

/-! ## Mentions -/

/-- What an object says to refer to another one.  Without a namespace it means its own, and without
a name it refers to nothing. -/
structure Mention where
  kind : String
  name : Option String
  space : Option String := none
  deriving DecidableEq

namespace Mention

/-- A mention of a secret. -/
def secret (name : String) : Mention := ⟨"Secret", some name, none⟩

/-- A mention in an object of a namespace has its object among some manifests. -/
def Resolves (mention : Mention) (space : Option String) (manifests : List Manifest) : Prop :=
  ∃ name, mention.name = some name ∧ ∃ m ∈ manifests, m.kind = mention.kind ∧
    m.metadata.name = some name ∧ m.metadata.space = (mention.space <|> space)

end Mention

/-- What a link mentions: the project, or the secret that gives access to it. -/
def Linkage.mentions : Linkage → List Mention
  | external _ secret => [.secret secret.name]
  | project name space => [⟨CuratedKind.project.resource, some name, space⟩]

/-- The references to secrets in the settings of an integration. -/
def IntegrationSpec.secretRefs (spec : IntegrationSpec) : List Reference :=
  spec.datadog.toList.map (·.apiKeySecretRef) ++
    spec.microsoftTeams.toList.map (·.urlSecretRef) ++
    spec.newRelic.toList.map (·.credentialsSecretRef) ++
    spec.opsGenie.toList.map (·.apiKeySecretRef) ++
    spec.pagerDuty.toList.map (·.serviceKeySecretRef) ++
    spec.prometheus.toList.map (·.prometheusCredentialsSecretRef) ++
    spec.slack.toList.map (·.apiTokenSecretRef) ++
    spec.victorOps.toList.map (·.apiKeySecretRef) ++
    spec.webhook.toList.map (·.urlSecretRef)

/-- The name in a reference. -/
def Json.refName? (j : Json) : Option String := (j.get? "name").bind Json.text?

namespace Generated

/-- The members below `spec`. -/
def specMembers (g : Generated) : List (String × Json) :=
  ((g.data.lookup "spec").bind Json.members?).getD []

/-- The reference to the secret that gives access to the project. -/
def secretRef? (g : Generated) : Option Json := g.specMembers.lookup Mapper.secretKey

/-- The references to groups, under whatever tag. -/
def groupRefs (g : Generated) : List Json :=
  g.specMembers.filterMap fun (_, content) => content.get? "groupRef"

end Generated

namespace Manifest

/-- How an object is linked to its project. -/
def links : Manifest → List Mention
  | project r => r.spec.connectionSecretRef.toList.map fun ref => .secret ref.name
  | accessList r => r.spec.linkage.mentions
  | deployment r => r.spec.linkage.mentions
  | databaseUser r => r.spec.linkage.mentions
  | container r => r.spec.linkage.mentions
  | peering r => r.spec.linkage.mentions
  | integration r => r.spec.linkage.mentions
  | federation r => r.spec.linkage.mentions
  | secret _ => []
  | generated g => g.secretRef?.toList.map fun ref => ⟨"Secret", ref.refName?, none⟩

/-- What an object mentions besides its link. -/
def mentions : Manifest → List Mention
  | databaseUser r => r.spec.passwordSecretRef.toList.map fun ref => .secret ref.name
  | peering r =>
    r.spec.containerRef.name.toList.map fun name =>
      ⟨CuratedKind.networkContainer.resource, some name, none⟩
  | integration r => r.spec.secretRefs.map fun ref => .secret ref.name
  | generated g => g.groupRefs.map fun ref => ⟨GeneratedKind.group.word, ref.refName?, none⟩
  | project _ | accessList _ | deployment _ | container _ | federation _ | secret _ => []

/-- The peering of a manifest. -/
def peering? : Manifest → Option (Resource PeeringSpec)
  | peering r => some r
  | _ => none

@[simp] theorem links_within (space : String) (m : Manifest) :
    (m.within space).links = m.links := by cases m <;> rfl

@[simp] theorem mentions_within (space : String) (m : Manifest) :
    (m.within space).mentions = m.mentions := by cases m <;> rfl

@[simp] theorem metadata_within (space : String) (m : Manifest) :
    (m.within space).metadata = { m.metadata with space := some space } := by
  rw [within, metadata_withMetadata]

@[simp] theorem kind_within (space : String) (m : Manifest) : (m.within space).kind = m.kind := by
  rw [within, kind_withMetadata]

end Manifest

/-- The tag for the content of generated objects is that of the secret which gives access, and no
object says which secret that is.  The content then stands where the secret is looked for. -/
def Job.TagHidesSecret (job : Job) : Prop :=
  job.config.independent = false ∧
    ∃ config, job.config.generated = some config ∧ config.apiTag = Mapper.secretKey

/-- What is exported mentions nothing that is not exported. -/
structure Job.IsClosed (job : Job) (manifests : List Manifest) : Prop where
  /-- Where the project is exported, so are the objects of all links. -/
  links : job.config.exports .project = true → ∀ m ∈ manifests, ∀ mention ∈ m.links,
    mention.Resolves m.metadata.space manifests ∨ mention.name = none ∧ job.TagHidesSecret
  mentions : ∀ m ∈ manifests, ∀ mention ∈ m.mentions, mention.Resolves m.metadata.space manifests
  /-- The container that a peering names is the one that it has. -/
  containers : ∃ peerings,
    job.Lists .networkPeering
      (job.controlPlane.peerings job.config.projectId job.pageSize) peerings ∧
    List.Forall₂ (fun (p : Peering) (r : Resource PeeringSpec) =>
        ∀ name ∈ r.spec.containerRef.name, ∃ c, Manifest.container c ∈ manifests ∧
          c.metadata.name = some name ∧ c.spec.id = some p.containerId)
      peerings (manifests.filterMap Manifest.peering?)

/-! ## What the indexes know -/

theorem ContainerIndex.exists_of_nameOf {resources : List (Resource ContainerSpec)}
    {id name : String} (h : (ofManifests resources).nameOf id = some name) :
    ∃ r ∈ resources, r.spec.id = some id ∧ r.metadata.name = some name := by
  obtain ⟨before, after, heq, _⟩ := List.lookup_eq_some_iff.mp h
  have hmem : (id, name) ∈ (ofManifests resources).entries.reverse := heq ▸ by simp
  obtain ⟨r, hr, hentry⟩ := List.mem_filterMap.mp (List.mem_reverse.mp hmem)
  obtain ⟨id', hid, hentry⟩ := Option.bind_eq_some_iff.mp hentry
  obtain ⟨name', hname, hentry⟩ := Option.bind_eq_some_iff.mp hentry
  obtain ⟨rfl, rfl⟩ := Prod.mk.inj (Option.some.inj hentry)
  exact ⟨r, hr, hid, hname⟩

namespace ReferenceIndex

theorem exists_of_mem_foldl {objects : List MappedObject} {index : ReferenceIndex}
    {e : IndexEntry}
    (h : e ∈ (objects.foldl (fun index t =>
      match t.object.metadata.name with
      | some name => index.insert t.object.kind t.id name
      | none => index) index).entries) :
    e ∈ index.entries ∨ ∃ t ∈ objects, t.object.kind = e.kind ∧ t.id = e.id ∧
      t.object.metadata.name = some e.name := by
  induction objects generalizing index with
  | nil => exact .inl h
  | cons t rest ih =>
    -- what is there before the rest was there at the start or comes from the first object
    rcases ih h with hin | ⟨t', ht', hspec⟩
    · dsimp only at hin
      split at hin
      · rcases List.mem_cons.mp hin with rfl | hin
        · exact .inr ⟨t, List.mem_cons_self, rfl, rfl, ‹_›⟩
        · exact .inl hin
      · exact .inl hin
    · exact .inr ⟨t', List.mem_cons_of_mem _ ht', hspec⟩

theorem exists_of_nameOf? {objects : List MappedObject} {kind id name : String}
    (h : (ofMapped objects).nameOf? kind id = some name) :
    ∃ t ∈ objects, t.object.kind = kind ∧ t.object.metadata.name = some name := by
  obtain ⟨e, hfind, rfl⟩ := Option.map_eq_some_iff.mp h
  have hkind := List.find?_some hfind
  rw [Bool.and_eq_true, beq_iff_eq] at hkind
  rcases exists_of_mem_foldl (List.mem_of_find?_eq_some hfind) with hin | ⟨t, ht, hk, _, hname⟩
  · cases hin
  · exact ⟨t, ht, hk.trans hkind.1, hname⟩

end ReferenceIndex

/-! ## What a mapper mentions -/

namespace Mapper

variable {t : Mapper} {ctx : Context} {refs : ReferenceIndex}

/-- Under the usual registry the id of a group is written as it is, or as a reference to the group
that the index has for it. -/
theorem paramMember?_groupId (hregistry : t.registry = .usual) {independent : Bool}
    {id key : String} {value : Json}
    (h : t.paramMember? independent refs "groupId" id = some (key, value)) :
    key = "groupId" ∧ value = .str id ∨
      key = "groupRef" ∧ ∃ name, refs.nameOf? GeneratedKind.group.word id = some name ∧
        value = referenceJson name := by
  rcases paramMember?_cases h with ⟨rule, hrule, _, _, _, name, hname, heq⟩ | ⟨_, heq⟩
  · rw [hregistry] at hrule
    obtain rfl := List.mem_singleton.mp hrule
    obtain ⟨rfl, rfl⟩ := Prod.mk.inj heq
    exact .inr ⟨rfl, name, hname, rfl⟩
  · obtain ⟨rfl, rfl⟩ := Prod.mk.inj heq
    exact .inl ⟨rfl, rfl⟩

/-- What stands below a tag refers to groups of an index only, and is no reference itself. -/
def RefersTo (refs : ReferenceIndex) (payload : List (String × Json)) : Prop :=
  ∀ key value, (key, value) ∈ payload → key ≠ "name" ∧
    (key = "groupRef" → ∃ id name, refs.nameOf? GeneratedKind.group.word id = some name ∧
      value = referenceJson name)

theorem refersTo_payload_nil {independent : Bool} (source : Json) :
    RefersTo refs (t.payload independent refs source []) := by
  intro key value h
  obtain ⟨entry, _, heq⟩ := List.mem_map.mp h
  obtain ⟨rfl, _⟩ := Prod.mk.inj heq
  exact ⟨by decide, fun hkey => absurd hkey (by decide)⟩

theorem refersTo_payload_groupId (hregistry : t.registry = .usual) {independent : Bool}
    (source : Json) (id : String) :
    RefersTo refs (t.payload independent refs source [("groupId", id)]) := by
  -- the parameter adds one member to what stands there without it
  have hstart : RefersTo refs (t.payload independent refs source []) :=
    refersTo_payload_nil source
  intro key value h
  rw [payload, List.foldl_cons, List.foldl_nil] at h
  dsimp only at h
  split at h
  · next key' value' hmember =>
    rcases Assoc.mem_insert h with heq | h
    · obtain ⟨rfl, rfl⟩ := Prod.mk.inj heq
      rcases paramMember?_groupId hregistry hmember with ⟨rfl, _⟩ | ⟨rfl, name, hname, rfl⟩
      · exact ⟨by decide, fun hkey => absurd hkey (by decide)⟩
      · exact ⟨by decide, fun _ => ⟨id, name, hname, rfl⟩⟩
    · exact hstart key value h
  · exact hstart key value h

theorem mem_specMembers {payload : List (String × Json)} {key : String} {value : Json}
    (h : (key, value) ∈ t.specMembers ctx payload) :
    value = referenceJson ctx.credentialsSecretName ∨ value = .obj payload := by
  rw [specMembers] at h
  split at h
  · rcases Assoc.mem_insert h with h | h
    · exact .inl (Prod.mk.inj h).2
    · exact .inr (Prod.mk.inj (List.mem_singleton.mp h)).2
  · exact .inr (Prod.mk.inj (List.mem_singleton.mp h)).2

theorem lookup_specMembers {payload : List (String × Json)} {value : Json}
    (h : (t.specMembers ctx payload).lookup secretKey = some value) :
    value = referenceJson ctx.credentialsSecretName ∨
      value = .obj payload ∧ t.tag = secretKey ∧
        (ctx.independent && (t.specProperty? secretKey).isSome) = false := by
  rw [specMembers] at h
  split at h
  · rw [Assoc.lookup_insert, if_pos rfl] at h
    exact .inl (Option.some.inj h).symm
  · rw [Assoc.lookup_cons] at h
    split at h
    · exact .inr ⟨(Option.some.inj h).symm, Eq.symm ‹_›, Bool.eq_false_iff.mpr ‹_›⟩
    · cases h

/-- A mapper refers to no secret but that of the project, unless its tag hides the reference. -/
theorem secretRef?_toManifest {name : String} {source : Json} {params : List (String × String)}
    (hpayload : RefersTo refs (t.payload ctx.independent refs source params)) {ref : Json}
    (h : (t.toManifest ctx name source params refs).secretRef? = some ref) :
    ref.refName? = some ctx.credentialsSecretName ∨
      ref.refName? = none ∧ t.tag = secretKey ∧
        (ctx.independent && (t.specProperty? secretKey).isSome) = false := by
  rcases lookup_specMembers h with rfl | ⟨rfl, htag⟩
  · exact .inl rfl
  · refine .inr ⟨?_, htag⟩
    rw [Json.refName?, Option.bind_eq_none_iff]
    intro value hvalue
    obtain ⟨before, after, heq, _⟩ := List.lookup_eq_some_iff.mp hvalue
    have hin : ("name", value) ∈ t.payload ctx.independent refs source params := heq ▸ by simp
    exact absurd rfl (hpayload "name" value hin).1

/-- A mapper refers to no groups but those of the index. -/
theorem groupRefs_toManifest {name : String} {source : Json} {params : List (String × String)}
    (hpayload : RefersTo refs (t.payload ctx.independent refs source params)) {ref : Json}
    (h : ref ∈ (t.toManifest ctx name source params refs).groupRefs) :
    ∃ id groupName, refs.nameOf? GeneratedKind.group.word id = some groupName ∧
      ref.refName? = some groupName := by
  obtain ⟨⟨key, content⟩, hmem, href⟩ := List.mem_filterMap.mp h
  rcases mem_specMembers hmem with rfl | rfl
  · cases href
  · obtain ⟨before, after, heq, _⟩ := List.lookup_eq_some_iff.mp href
    have hin : ("groupRef", ref) ∈ t.payload ctx.independent refs source params := heq ▸ by simp
    obtain ⟨id, groupName, hindex, rfl⟩ := (hpayload "groupRef" ref hin).2 rfl
    exact ⟨id, groupName, hindex, rfl⟩

/-- Whatever stands under a tag of that name, the schema knows the secret that gives access. -/
theorem isSome_specProperty {tagSchema : Json}
    (h : t.specSchema.pointer? ("/properties/" ++ secretKey) = some tagSchema) :
    (t.specProperty? secretKey).isSome = true := by
  change t.specSchema.walk? ["properties", secretKey] = some tagSchema at h
  obtain ⟨properties, hproperties, h⟩ := Option.bind_eq_some_iff.mp h
  obtain ⟨property, hproperty, _⟩ := Option.bind_eq_some_iff.mp h
  have hproperties' : t.specSchema.get? "properties" = some properties :=
    (Json.child?_eq_get? (by decide) _).symm.trans hproperties
  have hproperty' : properties.get? secretKey = some property :=
    (Json.child?_eq_get? (by decide) _).symm.trans hproperty
  rw [specProperty?, hproperties', Option.bind_some, hproperty']
  rfl

end Mapper

/-! ## What the converters mention -/

namespace Context

variable (ctx : Context)

/-- A mention of the project, or of the secret that gives access to it. -/
def IsLink (mention : Mention) : Prop :=
  mention = ⟨CuratedKind.project.resource, some ctx.projectResourceName, some ctx.space⟩ ∨
    mention = .secret ctx.credentialsSecretName

theorem isLink_linkage {mention : Mention} (h : mention ∈ ctx.linkage.mentions) :
    ctx.IsLink mention := by
  rw [linkage, Linkage.build] at h
  split at h
  · exact .inr (List.mem_singleton.mp h)
  · exact .inl (List.mem_singleton.mp h)

theorem container_spec (source : Container) :
    (ctx.container source).spec.linkage = ctx.linkage ∧
      (ctx.container source).spec.id = source.id := by
  unfold container
  cases providerOf source.providerName with
  | none => exact ⟨rfl, rfl⟩
  | some provider => cases provider <;> exact ⟨rfl, rfl⟩

theorem peering_spec (source : Peering) (containers : ContainerIndex) (suffix : String) :
    (ctx.peering source containers suffix).spec.linkage = ctx.linkage ∧
      (ctx.peering source containers suffix).spec.containerRef.name =
        containers.nameOf source.containerId := by
  unfold peering
  cases containers.nameOf source.containerId <;>
    cases providerOf source.providerName with
    | none => exact ⟨rfl, rfl⟩
    | some provider => cases provider <;> exact ⟨rfl, rfl⟩

theorem integrationSpec_spec (type : IntegrationType) (source : Integration) (secret : Reference) :
    (ctx.integrationSpec type source secret).linkage = ctx.linkage ∧
      (ctx.integrationSpec type source secret).secretRefs = [secret] := by
  cases type <;> exact ⟨rfl, rfl⟩

end Context

/-! ## Every mention has its object -/

namespace Findings

variable {f : Findings} {job : Job} {m : Manifest} {mention : Mention}

theorem refersTo_group {t : Mapper} :
    Mapper.RefersTo .empty
      (t.payload (f.ctx job).independent .empty f.project.toJson.canonical []) :=
  Mapper.refersTo_payload_nil _

theorem refersTo_cluster (hregistry : job.registry = .usual) {t : Mapper}
    (ht : job.MapsBy .cluster (some t)) (refs : ReferenceIndex) (source : Json) (id : String) :
    Mapper.RefersTo refs
      (t.payload (f.ctx job).independent refs source [("groupId", id)]) := by
  obtain ⟨_, _, _, _, _, hjob, _⟩ := ht.spec
  exact Mapper.refersTo_payload_groupId (hjob.trans hregistry) source id

/-- A mapper of the run refers to the secret of the project, or its tag hides the reference. -/
theorem isLink_secretRef {kind : GeneratedKind} {t : Mapper} (ht : job.MapsBy kind (some t))
    {name : String} {source : Json} {params : List (String × String)} {refs : ReferenceIndex}
    (hpayload : Mapper.RefersTo refs (t.payload (f.ctx job).independent refs source params))
    {ref : Json} (h : (t.toManifest (f.ctx job) name source params refs).secretRef? = some ref) :
    (f.ctx job).IsLink ⟨"Secret", ref.refName?, none⟩ ∨
      ref.refName? = none ∧ job.TagHidesSecret := by
  rcases Mapper.secretRef?_toManifest hpayload h with hname | ⟨hname, htag, hindependent⟩
  · rw [hname]
    exact .inl (.inr rfl)
  · -- the schema has something under the tag, so it knows the secret as well
    obtain ⟨config, _, hconfig, _, _, _, _, heq, hpointer⟩ := ht.spec
    rw [heq] at htag
    rw [htag] at hpointer
    rw [Mapper.isSome_specProperty hpointer, Bool.and_true] at hindependent
    exact .inr ⟨hname, hindependent, config, hconfig, htag⟩

/-- **All links are alike**: they name the project or the secret that gives access to it. -/
theorem Emits.isLink (hregistry : job.registry = .usual) (hf : job.Finds f) (h : f.Emits job m)
    (hmention : mention ∈ m.links) :
    (f.ctx job).IsLink mention ∨ mention.name = none ∧ job.TagHidesSecret := by
  cases h with
  | project _ => exact .inl (.inr (List.mem_singleton.mp hmention))
  | credentials _ => cases hmention
  | accessList h =>
    obtain ⟨_, rfl⟩ := (f.ctx job).accessList_cases h
    exact .inl ((f.ctx job).isLink_linkage hmention)
  | deployment _ => exact .inl ((f.ctx job).isLink_linkage hmention)
  | user h =>
    obtain ⟨user, _, name, secretName, _, _, _, rfl⟩ := Context.converts_of_mem _ hf.converted h
    exact .inl ((f.ctx job).isLink_linkage hmention)
  | password _ _ => cases hmention
  | container _ =>
    rw [Manifest.links, (Context.container_spec _ _).1] at hmention
    exact .inl ((f.ctx job).isLink_linkage hmention)
  | peering _ =>
    rw [Manifest.links, (Context.peering_spec _ _ _ _).1] at hmention
    exact .inl ((f.ctx job).isLink_linkage hmention)
  | integration _ hout =>
    obtain ⟨type, _, hresource, _⟩ := (f.ctx job).integration_cases hout
    rw [Manifest.links, hresource, Context.resource, (Context.integrationSpec_spec _ _ _ _).1]
      at hmention
    exact .inl ((f.ctx job).isLink_linkage hmention)
  | material _ _ => cases hmention
  | federation _ => exact .inl ((f.ctx job).isLink_linkage hmention)
  | group ht =>
    obtain ⟨ref, href, rfl⟩ := List.mem_map.mp hmention
    exact isLink_secretRef (hf.mapsBy_group ht) refersTo_group (Option.mem_toList.mp href)
  | cluster ht _ =>
    obtain ⟨ref, href, rfl⟩ := List.mem_map.mp hmention
    have hmapper := hf.mapsBy_cluster ht
    have hpayload := refersTo_cluster (f := f) hregistry hmapper
    exact isLink_secretRef hmapper (hpayload _ _ _) (Option.mem_toList.mp href)

/-- **What is mentioned besides is emitted.** -/
theorem Emits.exists_of_mentions (hregistry : job.registry = .usual) (hf : job.Finds f)
    (h : f.Emits job m) (hmention : mention ∈ m.mentions) :
    mention.space = none ∧ ∃ name, mention.name = some name ∧ ∃ target, f.Emits job target ∧
      target.kind = mention.kind ∧ target.metadata.name = some name := by
  cases h with
  | user h =>
    obtain ⟨user, _, name, secretName, _, _, _, rfl⟩ := Context.converts_of_mem _ hf.converted h
    obtain ⟨ref, href, rfl⟩ := List.mem_map.mp hmention
    obtain ⟨s, hs, rfl⟩ := Option.map_eq_some_iff.mp (Option.mem_toList.mp href)
    exact ⟨rfl, s, rfl, _, .password h (Option.map_eq_some_iff.mpr ⟨s, hs, rfl⟩), rfl, rfl⟩
  | peering h =>
    obtain ⟨name, hname, rfl⟩ := List.mem_map.mp hmention
    rw [Option.mem_toList, (Context.peering_spec _ _ _ _).2] at hname
    obtain ⟨r, hr, _, hrname⟩ := ContainerIndex.exists_of_nameOf hname
    obtain ⟨c, hc, rfl⟩ := List.mem_map.mp hr
    exact ⟨rfl, name, rfl, _, .container hc, rfl, hrname⟩
  | integration h hout =>
    obtain ⟨type, _, hresource, hsecret⟩ := (f.ctx job).integration_cases hout
    obtain ⟨ref, href, rfl⟩ := List.mem_map.mp hmention
    rw [hresource, Context.resource, (Context.integrationSpec_spec _ _ _ _).2,
      List.mem_singleton] at href
    refine ⟨rfl, ref.name, rfl, _, .material h hout, rfl, ?_⟩
    rw [Manifest.metadata, hsecret, href]
    rfl
  | group _ =>
    obtain ⟨ref, href, rfl⟩ := List.mem_map.mp hmention
    -- a group is mapped without an index, so it can refer to no other
    obtain ⟨id, name, hindex, _⟩ := Mapper.groupRefs_toManifest refersTo_group href
    cases hindex
  | cluster ht _ =>
    obtain ⟨ref, href, rfl⟩ := List.mem_map.mp hmention
    have hpayload := refersTo_cluster (f := f) hregistry (hf.mapsBy_cluster ht)
    obtain ⟨id, name, hindex, hname⟩ := Mapper.groupRefs_toManifest (hpayload _ _ _) href
    obtain ⟨o, ho, hkind, honame⟩ := ReferenceIndex.exists_of_nameOf? hindex
    obtain ⟨t, ht, rfl⟩ := List.mem_map.mp ho
    exact ⟨rfl, name, hname, _, .group (Option.mem_toList.mp ht), hkind, honame⟩
  | _ => cases hmention

theorem Emits.resolves (h : f.Emits job m) {space : Option String} {name : String}
    (hkind : m.kind = mention.kind) (hmention : mention.name = some name)
    (hname : m.metadata.name = some name)
    (hspace : (mention.space <|> space) = some job.config.space) :
    mention.Resolves space (f.manifests job) := by
  refine ⟨name, hmention, m.within job.config.space, mem_manifests_iff.mpr ⟨m, h, rfl⟩, ?_, ?_, ?_⟩
  · rw [Manifest.kind_within, hkind]
  · rw [Manifest.metadata_within, hname]
  · rw [Manifest.metadata_within, hspace]

theorem resolves_of_isLink (hproject : job.config.exports .project = true)
    (h : (f.ctx job).IsLink mention) :
    mention.Resolves (some job.config.space) (f.manifests job) := by
  rcases h with rfl | rfl
  · exact (Emits.project hproject).resolves rfl rfl rfl rfl
  · exact (Emits.credentials hproject).resolves rfl rfl (Context.credentialsSecret_name _ _) rfl

/-- The peerings of an export are those that were listed, in order. -/
theorem filterMap_peering? :
    (f.manifests job).filterMap Manifest.peering? =
      (f.peeringResources job).map fun r =>
        { r with metadata := { r.metadata with space := some job.config.space } } := by
  have hkind : ∀ manifests : List Manifest, manifests.filterMap Manifest.peering? =
      (Manifest.ofKind .networkPeering manifests).filterMap Manifest.peering? := by
    intro manifests
    rw [Manifest.ofKind, List.filterMap_filter]
    refine List.filterMap_congr fun m _ => ?_
    cases m <;> rfl
  rw [hkind, ofKind_manifests, primary, List.filterMap_map, List.filterMap_map]
  exact congrFun List.filterMap_eq_map _

/-- A peering names the container that it has. -/
theorem container_of_peering {p : Peering} {word name : String}
    (h : ((f.ctx job).peering p (.ofManifests (f.containerResources job))
      word).spec.containerRef.name = some name) :
    ∃ c, Manifest.container c ∈ f.manifests job ∧ c.metadata.name = some name ∧
      c.spec.id = some p.containerId := by
  rw [(Context.peering_spec _ _ _ _).2] at h
  obtain ⟨r, hr, hid, hname⟩ := ContainerIndex.exists_of_nameOf h
  obtain ⟨c, hc, rfl⟩ := List.mem_map.mp hr
  exact ⟨_, mem_manifests_iff.mpr ⟨_, .container hc, rfl⟩, hname, hid⟩

end Findings

/-- **An export is closed**: whatever the control plane answers, an object mentions only what is
exported with it. -/
theorem Job.exported_isClosed {job : Job} (hregistry : job.registry = .usual)
    {manifests : List Manifest} (h : job.exported.result = .ok manifests) :
    job.IsClosed manifests := by
  obtain ⟨f, hf, rfl⟩ := exported_eq_ok_iff.mp h
  refine ⟨?_, ?_, f.peerings, hf.peerings, ?_⟩
  · intro hproject m hm mention hmention
    obtain ⟨emitted, hemitted, rfl⟩ := Findings.mem_manifests_iff.mp hm
    rw [Manifest.links_within] at hmention
    rw [Manifest.metadata_within]
    exact (hemitted.isLink hregistry hf hmention).imp_left (Findings.resolves_of_isLink hproject)
  · intro m hm mention hmention
    obtain ⟨emitted, hemitted, rfl⟩ := Findings.mem_manifests_iff.mp hm
    rw [Manifest.mentions_within] at hmention
    obtain ⟨hspace, name, hmentioned, target, htarget, hkind, hname⟩ :=
      hemitted.exists_of_mentions hregistry hf hmention
    rw [Manifest.metadata_within]
    exact htarget.resolves hkind hmentioned hname (by rw [hspace]; rfl)
  · rw [Findings.filterMap_peering?]
    refine List.forall₂_iff_get.mpr ⟨by simp [Findings.peeringResources], ?_⟩
    intro n hp hr name hname
    simp only [Findings.peeringResources, List.get_eq_getElem, List.getElem_map,
      List.getElem_zipIdx] at hname
    exact Findings.container_of_peering hname

/-- An export of the project with something of every kind, where no tag hides the secret. -/
theorem Job.exported_isClosed_small :
    ∃ manifests, (Job.small "Shop").exported.result = .ok manifests ∧
      (Job.small "Shop").IsClosed manifests ∧ ¬ (Job.small "Shop").TagHidesSecret := by
  obtain ⟨manifests, h⟩ := Job.small_exported
  refine ⟨manifests, h, Job.exported_isClosed rfl h, ?_⟩
  rintro ⟨_, config, hconfig, htag⟩
  obtain rfl := Option.some.inj hconfig
  revert htag
  decide

/-- The export of a project and its group, whose content stands under the tag
`connectionSecretRef`. -/
def Job.smallTagged : Job :=
  { Job.small "Shop" with
    config :=
      { space := "atlas", projectId := "1", kinds := [.project],
        generated := some { apiTag := Mapper.secretKey, kinds := [.group] } } }

/-- Such a group refers to a secret without a name for it. -/
theorem Job.smallTagged_not_resolves :
    Job.smallTagged.config.exports .project = true ∧
      ∃ manifests, Job.smallTagged.exported.result = .ok manifests ∧
        ∃ m ∈ manifests, ∃ mention ∈ m.links, ¬ mention.Resolves m.metadata.space manifests := by
  refine ⟨rfl, ?_⟩
  obtain ⟨manifests, h, hany⟩ := Job.smallTagged.exists_of_any
    (fun ms => ms.any fun m => m.links.any fun mention => mention.name.isNone) (by decide +kernel)
  obtain ⟨m, hm, hany⟩ := List.any_eq_true.mp hany
  obtain ⟨mention, hmention, hnone⟩ := List.any_eq_true.mp hany
  refine ⟨manifests, h, m, hm, mention, hmention, ?_⟩
  rintro ⟨name, hname, _⟩
  rw [hname] at hnone
  cases hnone

end AtlasManifests
