import AtlasManifests.Proofs.PairedRuns
import AtlasManifests.Proofs.ReferentialIntegrity

/-! # Two modes of linking

Independent objects are linked to their project by its id and by the secret that gives access to
it; dependent ones refer to the project in the cluster, and clusters to the group of the project.
What is linked is erased from manifests here (`Manifest.unlinked`), and what is left is shown not to
depend on the mode: first for values of one converter or mapper, then for every block of a run.
Exports in the two modes therefore correspond object by object (`Job.exported_inMode`).
-/
namespace AtlasManifests

/-! ## Values without their links -/

namespace Json

/-- An object without the members of some names. -/
def without (names : List String) : Json → Json
  | .obj members => .obj (members.filter fun (name, _) => !names.contains name)
  | j => j

/-- An object with a function applied to what its members hold. -/
def mapMembers (f : Json → Json) : Json → Json
  | .obj members => .obj (members.map fun (name, value) => (name, f value))
  | j => j

/-- The members that say which group an object belongs to: a reference or an id. -/
def groupMembers : List String := ["groupRef", "groupId"]

/-- What a generated object asks for, without the group that it belongs to, which stands beneath a
tag. -/
def ungrouped (spec : Json) : Json := spec.mapMembers (·.without groupMembers)

/-- Fields that are left out do not count. -/
theorem without_ofFields_append {names : List String} {fields : List (String × Option Json)}
    (h : ∀ field ∈ fields, field.1 ∈ names) (rest : List (String × Option Json)) :
    (ofFields (fields ++ rest)).without names = (ofFields rest).without names := by
  rw [ofFields, ofFields, without, without, List.filterMap_append, List.filter_append,
    List.filter_eq_nil_iff.mpr, List.nil_append]
  rintro ⟨name, value⟩ hmem
  obtain ⟨⟨name', value'⟩, hfield, heq⟩ := List.mem_filterMap.mp hmem
  obtain ⟨_, _, heq⟩ := Option.map_eq_some_iff.mp heq
  obtain ⟨rfl, rfl⟩ := Prod.mk.inj heq
  simpa using h _ hfield

end Json

/-- A value without its link is what it holds besides. -/
theorem Linkage.without_fields_append (l : Linkage) (rest : List (String × Option Json)) :
    (Json.ofFields (l.fields ++ rest)).without members = (Json.ofFields rest).without members := by
  have hmembers : ∀ field ∈ l.fields, field.1 ∈ members := by
    cases l with
    | external projectId secret => simp [fields, members]
    | project name space => simp [fields, members]
  exact Json.without_ofFields_append hmembers rest

/-- A value is the same without its link as with another one. -/
theorem Linkage.without_members (l l' : Linkage) (rest : List (String × Option Json)) :
    (Json.ofFields (l.fields ++ rest)).without members =
      (Json.ofFields (l'.fields ++ rest)).without members := by
  rw [without_fields_append, without_fields_append]

/-- What an object of a curated kind says besides its metadata, without its link. -/
def Resource.unlinked {Spec : Type} (write : Spec → Json) (r : Resource Spec) : Json :=
  .ofFields [
    ("spec", some ((write r.spec).without Linkage.members)),
    ("status", if r.status then some .empty else none)]

namespace Generated

/-- An object that asks for something else. -/
def mapSpec (f : Json → Json) (g : Generated) : Generated :=
  { g with
    data := g.data.map fun (name, value) => (name, if name = "spec" then f value else value) }

/-- What a generated object says besides its metadata, without the secret that gives access and
without its group. -/
def unlinked (g : Generated) : Json :=
  { g.mapSpec (fun spec => (spec.without [Mapper.secretKey]).ungrouped) with
    metadata := {} }.toJson

end Generated

/-- A manifest without its links: its kind, its metadata and what it says besides. -/
structure Unlinked where
  kind : String
  metadata : Metadata
  content : Json

namespace Manifest

/-- What a manifest says besides its metadata, without its links. -/
def content : Manifest → Json
  | project r => r.unlinked ProjectSpec.toJson
  | accessList r => r.unlinked AccessListSpec.toJson
  | deployment r => r.unlinked DeploymentSpec.toJson
  | databaseUser r => r.unlinked DatabaseUserSpec.toJson
  | container r => r.unlinked ContainerSpec.toJson
  | peering r => r.unlinked PeeringSpec.toJson
  | integration r => r.unlinked IntegrationSpec.toJson
  | federation r => r.unlinked FederationSpec.toJson
  | secret s => { s with metadata := {} }.toJson
  | generated g => g.unlinked

/-- A manifest without its links. -/
def unlinked (m : Manifest) : Unlinked := ⟨m.kind, m.metadata, m.content⟩

/-- The link of a manifest of a curated kind to its project. -/
def linkage? : Manifest → Option Linkage
  | accessList r => some r.spec.linkage
  | deployment r => some r.spec.linkage
  | databaseUser r => some r.spec.linkage
  | container r => some r.spec.linkage
  | peering r => some r.spec.linkage
  | integration r => some r.spec.linkage
  | federation r => some r.spec.linkage
  | project _ | secret _ | generated _ => none

theorem linkage?_within (space : String) (m : Manifest) :
    (m.within space).linkage? = m.linkage? := by cases m <;> rfl

theorem unlinked_within (space : String) (m : Manifest) : (m.within space).unlinked =
    { m.unlinked with metadata := { m.unlinked.metadata with space := some space } } := by
  cases m <;> rfl

end Manifest

/-! ## Converters in the two modes -/

/-- A context in a mode. -/
def Context.inMode (independent : Bool) (ctx : Context) : Context := { ctx with independent }

namespace Resource

variable {Spec : Type} {write : Spec → Json} {r r' : Resource Spec}

/-- Resources that differ in their links only are alike without them. -/
theorem unlinked_eq {l l' : Linkage} {rest : List (String × Option Json)}
    (h : write r.spec = .ofFields (l.fields ++ rest))
    (h' : write r'.spec = .ofFields (l'.fields ++ rest)) (hstatus : r.status = r'.status) :
    r.unlinked write = r'.unlinked write := by
  rw [unlinked, unlinked, h, h', hstatus, Linkage.without_members l l']

end Resource

namespace Context

variable (ctx : Context) (independent : Bool)

theorem unlinked_accessList (entries : List AccessEntry) :
    ((ctx.inMode independent).accessList entries).map (fun r => (Manifest.accessList r).unlinked) =
      (ctx.accessList entries).map fun r => (Manifest.accessList r).unlinked := by
  rw [accessList, accessList]
  split
  · rfl
  · exact congrArg (fun content => some (Unlinked.mk _ _ content))
      (Resource.unlinked_eq rfl rfl rfl)

theorem unlinked_deployment (source : Cluster) :
    (Manifest.deployment ((ctx.inMode independent).deployment source)).unlinked =
      (Manifest.deployment (ctx.deployment source)).unlinked :=
  congrArg (Unlinked.mk _ _) (Resource.unlinked_eq rfl rfl rfl)

theorem unlinked_container (source : Container) :
    (Manifest.container ((ctx.inMode independent).container source)).unlinked =
      (Manifest.container (ctx.container source)).unlinked := by
  refine congrArg (Unlinked.mk _ _) ?_
  rw [Manifest.content, Manifest.content, container, container]
  cases providerOf source.providerName with
  | none => exact Resource.unlinked_eq rfl rfl rfl
  | some provider => cases provider <;> exact Resource.unlinked_eq rfl rfl rfl

/-- The names of containers are the same in both modes. -/
theorem ofManifests_inMode (sources : List Container) :
    ContainerIndex.ofManifests (sources.map (ctx.inMode independent).container) =
      .ofManifests (sources.map ctx.container) := by
  rw [ContainerIndex.ofManifests, ContainerIndex.ofManifests, List.filterMap_map,
    List.filterMap_map]
  refine congrArg (fun entry => ContainerIndex.mk (sources.filterMap entry)) (funext fun c => ?_)
  dsimp only [Function.comp_apply]
  rw [(container_spec _ c).2, (container_spec _ c).2]
  rfl

theorem unlinked_peering (source : Peering) (containers : ContainerIndex) (suffix : String) :
    (Manifest.peering ((ctx.inMode independent).peering source containers suffix)).unlinked =
      (Manifest.peering (ctx.peering source containers suffix)).unlinked := by
  refine congrArg (Unlinked.mk _ _) ?_
  rw [Manifest.content, Manifest.content, peering, peering]
  cases providerOf source.providerName with
  | none => exact Resource.unlinked_eq rfl rfl rfl
  | some provider => cases provider <;> exact Resource.unlinked_eq rfl rfl rfl

theorem unlinked_federation (source : Federation) :
    (Manifest.federation ((ctx.inMode independent).federation source)).unlinked =
      (Manifest.federation (ctx.federation source)).unlinked :=
  congrArg (Unlinked.mk _ _) (Resource.unlinked_eq rfl rfl rfl)

theorem unlinked_integration (source : Integration) :
    ((ctx.inMode independent).integration source).map
        (fun out => ((Manifest.integration out.1).unlinked, (Manifest.secret out.2).unlinked)) =
      (ctx.integration source).map
        fun out => ((Manifest.integration out.1).unlinked, (Manifest.secret out.2).unlinked) := by
  rw [integration, integration, Option.map_map, Option.map_map]
  refine congrArg (Option.map · _) (funext fun type => ?_)
  refine Prod.ext (congrArg (Unlinked.mk _ _) ?_) rfl
  cases type <;> exact Resource.unlinked_eq rfl rfl rfl

/-- A user without its link, and the secret of its password. -/
def unlinkedUser (out : Resource DatabaseUserSpec × Option Secret) : Unlinked × Option Secret :=
  ((Manifest.databaseUser out.1).unlinked, out.2)

/-- A user makes the same claims in both modes. -/
theorem unlinked_databaseUser (user : DatabaseUser) (claims : Claims) :
    ((ctx.inMode independent).databaseUser user claims).map
        (fun out => (unlinkedUser out.1, out.2)) =
      (ctx.databaseUser user claims).map fun out => (unlinkedUser out.1, out.2) := by
  have hspec (name : String) (passwordSecret : Option String) :
      (Manifest.databaseUser ((ctx.inMode independent).resource name
        ((ctx.inMode independent).databaseUserSpec user passwordSecret))).unlinked =
      (Manifest.databaseUser (ctx.resource name
        (ctx.databaseUserSpec user passwordSecret))).unlinked :=
    congrArg (Unlinked.mk _ _) (Resource.unlinked_eq rfl rfl rfl)
  rw [databaseUser, databaseUser, Option.bind_eq_bind, Option.map_bind, Option.map_bind]
  refine congrArg _ (funext fun named => ?_)
  obtain ⟨name, claims⟩ := named
  dsimp only [Function.comp_apply]
  split
  · rw [Option.map_bind, Option.map_bind]
    refine congrArg _ (funext fun secretNamed => ?_)
    obtain ⟨secretName, claims⟩ := secretNamed
    exact congrArg (fun user => some ((user, _), claims)) (hspec name (some secretName))
  · exact congrArg (fun user => some ((user, none), claims)) (hspec name none)

theorem unlinked_databaseUsers (users : List DatabaseUser) (claims : Claims) :
    ((ctx.inMode independent).databaseUsers users claims).map (List.map unlinkedUser) =
      (ctx.databaseUsers users claims).map (List.map unlinkedUser) := by
  induction users generalizing claims with
  | nil => rfl
  | cons user rest ih =>
    rw [databaseUsers, databaseUsers]
    obtain ⟨hnone', hnone⟩ | ⟨found', found, hfound', hfound, heq⟩ :=
      option_eq_cases (ctx.unlinked_databaseUser independent user claims)
    · rw [hnone', hnone]
      rfl
    · obtain ⟨hlook, hclaims⟩ := Prod.mk.inj heq
      rw [hfound', hfound]
      have hcons (out : Resource DatabaseUserSpec × Option Secret)
          (later : Option (List (Resource DatabaseUserSpec × Option Secret))) :
          (later.bind fun later => some (out :: later)).map (List.map unlinkedUser) =
            (later.map (List.map unlinkedUser)).map (unlinkedUser out :: ·) := by
        cases later with
        | none => rfl
        | some later => rfl
      refine (hcons found'.1 _).trans (Eq.trans ?_ (hcons found.1 _).symm)
      rw [ih, hlook, hclaims]

theorem unlinked_userManifests
    {converted converted' : List (Resource DatabaseUserSpec × Option Secret)}
    (h : converted'.map unlinkedUser = converted.map unlinkedUser) :
    (converted'.flatMap userManifests).map Manifest.unlinked =
      (converted.flatMap userManifests).map Manifest.unlinked := by
  have hlook (converted : List (Resource DatabaseUserSpec × Option Secret)) :
      (converted.flatMap userManifests).map Manifest.unlinked =
        (converted.map unlinkedUser).flatMap fun out =>
          out.1 :: out.2.toList.map fun s => (Manifest.secret s).unlinked := by
    rw [List.map_flatMap, List.flatMap_map]
    refine congrArg (fun f => converted.flatMap f) (funext fun out => ?_)
    rw [userManifests, List.map_cons, List.map_map]
    rfl
  rw [hlook, hlook, h]

end Context

/-! ## Mappers in the two modes -/

namespace Mapper

variable {t : Mapper}

/-- Parameters that say where an object is: nowhere in particular, or in a group. -/
def IsPlace (params : List (String × String)) : Prop :=
  params = [] ∨ ∃ id, params = [("groupId", id)]

/-- Without its group, what stands below a tag is the object itself. -/
theorem without_payload (hregistry : t.registry = .usual) (independent : Bool)
    (refs : ReferenceIndex) (source : Json) {params : List (String × String)}
    (hparams : IsPlace params) :
    (Json.obj (t.payload independent refs source params)).without Json.groupMembers =
      .obj ((t.entryOf? source).toList.map fun entry => (entryKey, entry)) := by
  have hentry :
      (Json.obj ((t.entryOf? source).toList.map fun entry => (entryKey, entry))).without
          Json.groupMembers =
        .obj ((t.entryOf? source).toList.map fun entry => (entryKey, entry)) := by
    cases t.entryOf? source with
    | none => rfl
    | some entry => rfl
  obtain rfl | ⟨id, rfl⟩ := hparams
  · exact hentry
  · rw [payload, List.foldl_cons, List.foldl_nil]
    dsimp only
    split
    · next key value hmember =>
      have hkey : (!Json.groupMembers.contains key) = false := by
        rcases paramMember?_groupId hregistry hmember with ⟨rfl, _⟩ | ⟨rfl, _⟩
        · decide
        · decide
      rw [← hentry]
      exact congrArg Json.obj (Assoc.filter_insert
        (p := fun name => !Json.groupMembers.contains name) hkey _ _)
    · exact hentry

/-- Without the secret, what stands below `spec` is what stands below the tag. -/
theorem without_specMembers (ctx : Context) (payload : List (String × Json)) :
    (Json.obj (t.specMembers ctx payload)).without [secretKey] =
      (Json.obj [(t.tag, .obj payload)]).without [secretKey] := by
  rw [specMembers]
  split
  · exact congrArg Json.obj (Assoc.filter_insert (p := fun name => !([secretKey].contains name))
      (by decide) _ _)
  · rfl

/-- What is left of a specification without its links does not depend on them. -/
theorem ungrouped_without_specMembers (hregistry : t.registry = .usual) (ctx : Context)
    (independent : Bool) (refs : ReferenceIndex) (source : Json) {params : List (String × String)}
    (hparams : IsPlace params) :
    ((Json.obj (t.specMembers ctx (t.payload independent refs source params))).without
        [secretKey]).ungrouped =
      (Json.obj [(t.tag, .obj ((t.entryOf? source).toList.map fun entry =>
        (entryKey, entry)))]).without [secretKey] := by
  have hpayload := without_payload hregistry independent refs source hparams
  rw [without_specMembers, Json.without, Json.without, List.filter_cons, List.filter_cons]
  dsimp only
  split
  · rw [← hpayload]
    rfl
  · rfl

theorem unlinked_toManifest (hregistry : t.registry = .usual) (ctx : Context) (independent : Bool)
    (name : String) (source : Json) {params : List (String × String)} (hparams : IsPlace params)
    (refs : ReferenceIndex) :
    (Manifest.generated
        (t.toManifest (ctx.inMode independent) name source params refs)).unlinked =
      (Manifest.generated (t.toManifest ctx name source params refs)).unlinked := by
  have hspec : ((Json.obj (t.specMembers (ctx.inMode independent)
      (t.payload independent refs source params))).without [secretKey]).ungrouped =
      ((Json.obj (t.specMembers ctx
        (t.payload ctx.independent refs source params))).without [secretKey]).ungrouped := by
    rw [ungrouped_without_specMembers hregistry _ _ _ _ hparams,
      ungrouped_without_specMembers hregistry _ _ _ _ hparams]
  exact congrArg (fun spec => Unlinked.mk _ _
    (Generated.toJson ⟨some t.type, {}, [("spec", spec), ("status", .empty)]⟩)) hspec

theorem unlinked_group (hregistry : t.registry = .usual) (ctx : Context) (independent : Bool)
    (id : String) (project : Project) :
    (Manifest.generated (t.group (ctx.inMode independent) id project).object).unlinked =
      (Manifest.generated (t.group ctx id project).object).unlinked :=
  unlinked_toManifest hregistry ctx independent _ _ (.inl rfl) _

theorem unlinked_cluster (hregistry : t.registry = .usual) (ctx : Context) (independent : Bool)
    (refs : ReferenceIndex) (id : String) (source : Cluster) :
    (Manifest.generated (t.cluster (ctx.inMode independent) refs id source).object).unlinked =
      (Manifest.generated (t.cluster ctx refs id source).object).unlinked :=
  unlinked_toManifest hregistry ctx independent _ _ (.inr ⟨id, rfl⟩) _

end Mapper

/-! ## Runs in the two modes -/

/-- An export in a mode. -/
def Job.inMode (independent : Bool) (job : Job) : Job :=
  { job with config := { job.config with independent } }

namespace Job

variable {job : Job}

/-- Runs of mappers look alike if those of the registry of the job do. -/
theorem mapped_view_congr {γ : Type} {k : List MappedObject → γ} (kind : GeneratedKind)
    {map map' : Mapper → Traced Call (List MappedObject)}
    (h : ∀ t : Mapper, t.registry = job.registry → (map t).view k = (map' t).view k) :
    (job.mapped kind map).view k = (job.mapped kind map').view k := by
  rw [mapped, mapped]
  split
  · rfl
  · split
    · next config _ _ =>
      rw [fetched, fetched]
      refine Traced.view_bind_congr _ fun _ _ => ?_
      refine Traced.bind_view_congr (g := k) ?_ fun objects objects' hobjects => ?_
      · refine Traced.view_bind_congr _ fun t ht => ?_
        obtain ⟨_, _, hjob, _⟩ := Catalogue.mapper_spec ht
        exact congrArg calls (h t hjob)
      · rw [Traced.view_bind, Traced.view_bind]
        exact congrArg _ (funext fun _ => congrArg Pure.pure hobjects)
    · rfl

variable (independent : Bool) (project : Project)

theorem accessListBlock_inMode :
    ((job.inMode independent).accessListBlock ((job.inMode independent).context project)).view
        (List.map Manifest.unlinked) =
      (job.accessListBlock (job.context project)).view (List.map Manifest.unlinked) := by
  refine Traced.view_bind_congr _ fun entries _ => ?_
  have hlist := congrArg Option.toList
    ((job.context project).unlinked_accessList independent entries)
  rw [Option.toList_map, Option.toList_map] at hlist
  rw [Traced.view_pure, Traced.view_pure, List.map_map, List.map_map]
  exact congrArg Pure.pure hlist

theorem databaseUserBlock_inMode :
    ((job.inMode independent).databaseUserBlock ((job.inMode independent).context project)).view
        (List.map Manifest.unlinked) =
      (job.databaseUserBlock (job.context project)).view (List.map Manifest.unlinked) := by
  refine Traced.view_bind_congr _ fun users _ => ?_
  have hctx : (job.inMode independent).context project =
      (job.context project).inMode independent := rfl
  have hclaims : initialClaims ((job.context project).inMode independent) =
      initialClaims (job.context project) := rfl
  have husers := (job.context project).unlinked_databaseUsers independent users
    (initialClaims (job.context project))
  rw [hctx, hclaims]
  obtain ⟨hnone', hnone⟩ | ⟨converted', converted, hconverted', hconverted, heq⟩ :=
    option_eq_cases husers
  · rw [hnone', hnone]
  · rw [hconverted', hconverted]
    exact congrArg Pure.pure (Context.unlinked_userManifests heq)

theorem containers_inMode :
    let look (rs : List (Resource ContainerSpec)) :=
      (rs.map fun r => (Manifest.container r).unlinked, ContainerIndex.ofManifests rs)
    ((job.inMode independent).containers ((job.inMode independent).context project)).view look =
      (job.containers (job.context project)).view look := by
  refine Traced.view_bind_congr _ fun sources _ => ?_
  have hindex := (job.context project).ofManifests_inMode independent sources
  rw [Traced.view_pure, Traced.view_pure]
  refine congrArg Pure.pure (Prod.ext ?_ hindex)
  dsimp only
  rw [List.map_map, List.map_map]
  exact List.map_congr_left fun c _ => (job.context project).unlinked_container independent c

theorem peeringBlock_inMode (index : ContainerIndex) :
    ((job.inMode independent).peeringBlock ((job.inMode independent).context project) index).view
        (List.map Manifest.unlinked) =
      (job.peeringBlock (job.context project) index).view (List.map Manifest.unlinked) := by
  refine Traced.view_bind_congr _ fun sources _ => ?_
  have hpeerings (ctx : Context) :
      ((sources.zipIdx.map fun p => ctx.peering p.1 index (job.word p.2)).map
          Manifest.peering).map Manifest.unlinked =
        sources.zipIdx.map fun p =>
          (Manifest.peering (ctx.peering p.1 index (job.word p.2))).unlinked := by
    rw [List.map_map, List.map_map]
    rfl
  refine congrArg (fun seen => Traced.mk _ (.ok seen)) ?_
  refine (hpeerings _).trans (Eq.trans (List.map_congr_left fun p _ => ?_) (hpeerings _).symm)
  exact (job.context project).unlinked_peering independent p.1 index (job.word p.2)

theorem integrationBlock_inMode :
    ((job.inMode independent).integrationBlock ((job.inMode independent).context project)).view
        (List.map Manifest.unlinked) =
      (job.integrationBlock (job.context project)).view (List.map Manifest.unlinked) := by
  refine Traced.view_bind_congr _ fun sources _ => ?_
  rw [Traced.view_pure, Traced.view_pure]
  exact congrArg Pure.pure
    (map_integrations_congr ((job.context project).unlinked_integration independent) sources)

theorem groups_inMode (hregistry : job.registry = .usual) :
    let look (objects : List MappedObject) :=
      (objects.map fun t => (Manifest.generated t.object).unlinked,
        ReferenceIndex.ofMapped objects)
    ((job.inMode independent).groups ((job.inMode independent).context project) project).view look =
      (job.groups (job.context project) project).view look := by
  refine mapped_view_congr .group fun t ht => ?_
  refine Traced.view_bind_congr _ fun p _ => ?_
  refine Traced.view_bind_congr _ fun rest _ => ?_
  have hgroup := Mapper.unlinked_group (ht.trans hregistry) (job.context project) independent
    job.config.projectId p
  rw [Traced.view_pure, Traced.view_pure]
  -- the index knows of a group its name only, which is the same in both modes
  refine congrArg Pure.pure (Prod.ext ?_ rfl)
  dsimp only
  rw [List.map_cons, List.map_cons]
  exact congrArg (· :: _) hgroup

theorem clusters_inMode (hregistry : job.registry = .usual) {groups groups' : List MappedObject}
    (h : ReferenceIndex.ofMapped groups = .ofMapped groups') :
    ((job.inMode independent).clusters ((job.inMode independent).context project) groups).view
        (List.map fun t => (Manifest.generated t.object).unlinked) =
      (job.clusters (job.context project) groups').view
        (List.map fun t => (Manifest.generated t.object).unlinked) := by
  rw [clusters, clusters, h]
  refine mapped_view_congr .cluster fun t ht => ?_
  refine Traced.view_bind_congr _ fun sources _ => ?_
  refine Traced.view_bind_congr _ fun rest _ => ?_
  rw [Traced.view_pure, Traced.view_pure, List.map_append, List.map_append, List.map_map,
    List.map_map]
  refine congrArg (fun seen => Pure.pure (seen ++ _)) (List.map_congr_left fun c _ => ?_)
  exact Mapper.unlinked_cluster (ht.trans hregistry) (job.context project) independent _ _ c

theorem blocksAlike_inMode (hregistry : job.registry = .usual) (settings : ProjectSettings) :
    BlocksAlike Manifest.unlinked (job.inMode independent) job project settings where
  project := rfl
  accessList := accessListBlock_inMode independent project
  deployments := Traced.view_map_congr _ fun c =>
    (job.context project).unlinked_deployment independent c
  users := databaseUserBlock_inMode independent project
  containers := containers_inMode independent project
  peerings index := peeringBlock_inMode independent project index
  integrations := integrationBlock_inMode independent project
  federations := Traced.view_map_congr _ fun c =>
    (job.context project).unlinked_federation independent c
  groups := groups_inMode independent project hregistry
  clusters _ _ h := clusters_inMode independent project hregistry h

/-- Without its links, an export is the one in any mode. -/
theorem exported_inMode_view (hregistry : job.registry = .usual) :
    (job.inMode independent).exported.view (List.map Manifest.unlinked) =
      job.exported.view (List.map Manifest.unlinked) := by
  refine exported_view_eq rfl rfl (fun _ => rfl) (fun _ => rfl)
    (fun project settings => blocksAlike_inMode independent project hregistry settings) ?_
  intro space m m' h
  rw [Manifest.unlinked_within, Manifest.unlinked_within, h]

end Job

/-! ## The links of an export -/

/-- All objects of curated kinds that an export consists of have the link of its context. -/
theorem Findings.Emits.linkage?_eq {f : Findings} {job : Job} {m : Manifest} (hf : job.Finds f)
    (h : f.Emits job m) {l : Linkage} (hl : m.linkage? = some l) : l = (f.ctx job).linkage := by
  cases h with
  | project _ => cases hl
  | credentials _ => cases hl
  | accessList h =>
    obtain ⟨_, rfl⟩ := (f.ctx job).accessList_cases h
    exact (Option.some.inj hl).symm
  | deployment _ => exact (Option.some.inj hl).symm
  | user h =>
    obtain ⟨user, _, name, secretName, _, _, _, rfl⟩ := Context.converts_of_mem _ hf.converted h
    exact (Option.some.inj hl).symm
  | password _ _ => cases hl
  | container _ => exact (Option.some.inj hl).symm.trans (Context.container_spec _ _).1
  | peering _ => exact (Option.some.inj hl).symm.trans (Context.peering_spec _ _ _ _).1
  | integration _ hout =>
    obtain ⟨type, _, hresource, _⟩ := (f.ctx job).integration_cases hout
    rw [Manifest.linkage?, hresource] at hl
    exact (Option.some.inj hl).symm.trans (Context.integrationSpec_spec _ _ _ _).1
  | material _ _ => cases hl
  | federation _ => exact (Option.some.inj hl).symm
  | group _ => cases hl
  | cluster _ _ => cases hl

namespace Job

variable {job : Job}

theorem linkage?_of_exported {manifests : List Manifest}
    (h : job.exported.result = .ok manifests) {project : Project}
    (hproject : job.controlPlane (.project job.config.projectId) = .ok project) :
    ∀ m ∈ manifests, ∀ l ∈ m.linkage?, l = (job.context project).linkage := by
  intro m hm l hl
  obtain ⟨f, hf, rfl⟩ := exported_eq_ok_iff.mp h
  obtain ⟨emitted, hemits, rfl⟩ := Findings.mem_manifests_iff.mp hm
  obtain rfl : project = f.project := Except.ok.inj (hproject.symm.trans hf.project)
  rw [Manifest.linkage?_within] at hl
  exact hemits.linkage?_eq hf hl

/-- **The mode decides on links only.**  In both modes the same happens.  They fail with the same
error, or the same manifests but for their links come of both, in the same order.  In the
independent mode everything is linked by the id of the project and by the secret that gives access
to it, and otherwise by the name of the project in the cluster. -/
theorem exported_inMode (hregistry : job.registry = .usual) :
    (job.inMode true).exported.events = (job.inMode false).exported.events ∧
    ((∃ e, (job.inMode true).exported.result = .error e ∧
        (job.inMode false).exported.result = .error e) ∨
      ∃ project manifests manifests',
        job.controlPlane (.project job.config.projectId) = .ok project ∧
        (job.inMode true).exported.result = .ok manifests ∧
        (job.inMode false).exported.result = .ok manifests' ∧
        manifests.map Manifest.unlinked = manifests'.map Manifest.unlinked ∧
        (∀ m ∈ manifests, ∀ l ∈ m.linkage?, l = .external job.config.projectId
          ⟨Label.normalizeParts [project.name, "credentials"]⟩) ∧
        ∀ m ∈ manifests', ∀ l ∈ m.linkage?,
          l = .project (Label.normalize project.name) (some job.config.space)) := by
  have hview : (job.inMode true).exported.view (List.map Manifest.unlinked) =
      (job.inMode false).exported.view (List.map Manifest.unlinked) :=
    (exported_inMode_view true hregistry).trans (exported_inMode_view false hregistry).symm
  obtain ⟨hevents, hfail | ⟨manifests, manifests', hok, hok', heq⟩⟩ := Traced.view_eq_cases hview
  · exact ⟨hevents, .inl hfail⟩
  · obtain ⟨f, hf, _⟩ := exported_eq_ok_iff.mp hok
    exact ⟨hevents, .inr ⟨f.project, manifests, manifests', hf.project, hok, hok', heq,
      linkage?_of_exported hok hf.project, linkage?_of_exported hok' hf.project⟩⟩

/-- The export of a small project in both modes. -/
theorem exported_inMode_small :
    (Job.small "Shop").registry = .usual ∧ ∃ manifests manifests',
      ((Job.small "Shop").inMode true).exported.result = .ok manifests ∧
      ((Job.small "Shop").inMode false).exported.result = .ok manifests' ∧
      manifests.map Manifest.unlinked = manifests'.map Manifest.unlinked ∧
      manifests.any (·.linkage? == some (.external "1" ⟨"shop-credentials"⟩)) = true ∧
      manifests'.any (·.linkage? == some (.project "shop" (some "atlas"))) = true := by
  have hregistry : (Job.small "Shop").registry = .usual := rfl
  obtain ⟨found, hfound, hexternal⟩ := ((Job.small "Shop").inMode true).exists_of_any
    (fun manifests => manifests.any (·.linkage? == some (.external "1" ⟨"shop-credentials"⟩)))
    (by decide +kernel)
  obtain ⟨found', hfound', hproject⟩ := ((Job.small "Shop").inMode false).exists_of_any
    (fun manifests => manifests.any (·.linkage? == some (.project "shop" (some "atlas"))))
    (by decide +kernel)
  obtain ⟨-, ⟨e, he, -⟩ | ⟨_, manifests, manifests', -, hok, hok', heq, -⟩⟩ :=
    Job.exported_inMode hregistry
  · rw [hfound] at he
    cases he
  · obtain rfl := Except.ok.inj (hfound.symm.trans hok)
    obtain rfl := Except.ok.inj (hfound'.symm.trans hok')
    exact ⟨hregistry, found, found', hfound, hfound', heq, hexternal, hproject⟩

end Job

end AtlasManifests
