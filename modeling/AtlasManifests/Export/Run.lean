import AtlasManifests.Definition.Catalogue
import AtlasManifests.Export.Config
import AtlasManifests.Manifest.Basic
import AtlasManifests.Mapping.Listing

/-! # Runs

An export of one project. A run works on one kind after the other: it fetches what
there is of the kind and converts it to a block of manifests. The blocks of the selected
kinds in order are the export. Later blocks know of earlier ones only which names network
containers have and which groups were mapped. The first failure ends a run.
-/
namespace AtlasManifests

/-- What a run is doing. -/
inductive Stage where
  | idle
  | fetching (kind : RunKind)
  | converting (kind : RunKind)
  | serializing
  | done
  | failed
  deriving DecidableEq, Repr

namespace Stage

/-- The text of a stage. -/
def text : Stage → String
  | idle => "Idle"
  | fetching kind => "Fetching " ++ kind.word
  | converting kind => "Converting " ++ kind.word
  | serializing => "Serializing"
  | done => "Done"
  | failed => "Failed"

end Stage

/-- What happens in a run. -/
inductive Event where
  | call (call : Call)
  | enter (stage : Stage)
  /-- A word is drawn for a name that has to be distinct. -/
  | draw
  deriving DecidableEq

namespace Event

/-- The call of an event. -/
def call? : Event → Option Call
  | call c => some c
  | _ => none

/-- The stage of an event. -/
def stage? : Event → Option Stage
  | enter stage => some stage
  | _ => none

end Event

/-- A computation within a run. -/
abbrev Run : Type → Type := Traced Event

/-- An export that can be run. -/
structure Job where
  controlPlane : ControlPlane
  config : Config
  catalogue : Catalogue
  /-- The words that are drawn, in order. -/
  word : Nat → String
  registry : Registry := .usual

namespace Job

variable (job : Job)

/-- The context of the manifests of a project. -/
def context (project : Project) : Context where
  space := job.config.space
  projectId := job.config.projectId
  projectName := project.name
  operatorVersion := job.config.operatorVersion
  independent := job.config.independent
  includeSecrets := job.config.includeSecrets

/-- The size of the pages that are asked for. -/
def pageSize : Nat := job.config.pageSize.toNat

/-- The run enters a stage. -/
def enter (stage : Stage) : Run Unit := .emit (.enter stage)

/-- Calls of the control plane within a run. -/
def calls {α : Type} (x : Traced Call α) : Run α := x.mapEvents .call

/-- Fetch what there is of a kind, and go on to convert it. -/
def fetched {α : Type} (kind : RunKind) (x : Run α) : Run α := do
  enter (.fetching kind)
  let found ← x
  enter (.converting kind)
  return found

/-- What there is of a curated kind, or nothing if the kind is not selected. -/
def listed {α : Type} (kind : CuratedKind) (listing : Traced Call (List α)) : Run (List α) :=
  if job.config.exports kind then fetched (.curated kind) (calls listing) else return []

/-! ## Curated blocks -/

variable (ctx : Context)

/-- The project with its secret. -/
def projectBlock (project : Project) (settings : ProjectSettings) : Run (List Manifest) :=
  if job.config.exports .project then do
    enter (.converting (.curated .project))
    return [.project (ctx.project project (some settings)),
      .secret (ctx.credentialsSecret job.config.credentials)]
  else return []

/-- The access list, if it has entries. -/
def accessListBlock : Run (List Manifest) := do
  let entries ← job.listed .ipAccessList
    (job.controlPlane.accessList job.config.projectId job.pageSize)
  return (ctx.accessList entries).toList.map .accessList

/-- The clusters. -/
def deploymentBlock : Run (List Manifest) := do
  let clusters ← job.listed .deployment
    (job.controlPlane.clusters job.config.projectId job.pageSize)
  return clusters.map fun c => .deployment (ctx.deployment c)

/-- The names that are taken before any user is converted: that of the secret of the
project, which every independent object refers to. -/
def initialClaims : Claims := (Claims.empty.reserve "Secret" ctx.credentialsSecretName).2

/-- The database users, each with the secret of its password. -/
def databaseUserBlock : Run (List Manifest) := do
  let users ← job.listed .databaseUser
    (job.controlPlane.databaseUsers job.config.projectId job.pageSize)
  match ctx.databaseUsers users (initialClaims ctx) with
  | none => Traced.fail (.exhausted "names")
  | some converted =>
    return converted.flatMap fun (user, secret) =>
      .databaseUser user :: secret.toList.map .secret

/-- The network containers. -/
def containers : Run (List (Resource ContainerSpec)) := do
  let sources ← job.listed .networkContainer
    (job.controlPlane.containers job.config.projectId job.pageSize)
  return sources.map ctx.container

/-- The network peerings, with a word drawn for each of them. -/
def peeringBlock (containers : ContainerIndex) : Run (List Manifest) := do
  let sources ← job.listed .networkPeering
    (job.controlPlane.peerings job.config.projectId job.pageSize)
  let converted := sources.zipIdx.map fun (p, n) => ctx.peering p containers (job.word n)
  ⟨sources.map fun _ => .draw, .ok (converted.map .peering)⟩

/-- The integrations of known types, each with its secret. -/
def integrationBlock : Run (List Manifest) := do
  let sources ← job.listed .thirdPartyIntegration
    (job.controlPlane.integrations job.config.projectId job.pageSize)
  return (sources.filterMap ctx.integration).flatMap fun (integration, secret) =>
    [.integration integration, .secret secret]

/-- The data federations. -/
def federationBlock : Run (List Manifest) := do
  let sources ← job.listed .dataFederation
    (job.controlPlane.federations job.config.projectId)
  return sources.map fun f => .federation (ctx.federation f)

/-! ## Generated blocks -/

/-- The mapper for a generated kind. -/
def mapper (kind : GeneratedKind) (config : GeneratedConfig) : Except Error Mapper :=
  job.catalogue.mapper job.registry kind config.crdVersion config.apiTag

/-- What a mapper makes of a generated kind, or nothing if the kind is not selected. -/
def mapped (kind : GeneratedKind)
    (map : Mapper → Traced Call (List MappedObject)) : Run (List MappedObject) :=
  match job.config.generated with
  | none => return []
  | some config =>
    if config.kinds.contains kind then
      fetched (.generated kind) do
        let mapper ← .ofExcept (job.mapper kind config)
        calls (map mapper)
    else return []

/-- The group of the project, which has been fetched already. -/
def groups (project : Project) : Run (List MappedObject) :=
  job.mapped .group fun t =>
    job.controlPlane.mappedGroups ctx t [project] [job.config.projectId]

/-- The clusters of the project. -/
def clusters (groups : List MappedObject) : Run (List MappedObject) :=
  job.mapped .cluster fun t =>
    job.controlPlane.mappedClusters ctx t (.ofMapped groups) job.pageSize
      [job.config.projectId]

/-! ## The run -/

/-- All blocks of a project in order. -/
def blocks (project : Project) (settings : ProjectSettings) : Run (List (List Manifest)) := do
  let ctx := job.context project
  let projects ← job.projectBlock ctx project settings
  let accessLists ← job.accessListBlock ctx
  let deployments ← job.deploymentBlock ctx
  let users ← job.databaseUserBlock ctx
  let containers ← job.containers ctx
  let peerings ← job.peeringBlock ctx (.ofManifests containers)
  let integrations ← job.integrationBlock ctx
  let federations ← job.federationBlock ctx
  let groups ← job.groups ctx project
  let clusters ← job.clusters ctx groups
  return [projects, accessLists, deployments, users, containers.map .container, peerings,
    integrations, federations, groups.map fun t => .generated t.object,
    clusters.map fun t => .generated t.object]

/-- The manifests of the project, in the namespace that is configured. -/
def manifests : Run (List Manifest) := do
  enter (.fetching (.curated .project))
  let project ← calls (job.controlPlane.project "project" job.config.projectId)
  let settings ← calls (job.controlPlane.settings job.config.projectId)
  let blocks ← job.blocks project settings
  return blocks.flatten.map (Manifest.within job.config.space)

/-- The export. A failure is its last stage. -/
def exported : Run (List Manifest) :=
  let run := job.manifests
  match run.result with
  | .ok _ => run
  | .error _ => ⟨run.events ++ [.enter .failed], run.result⟩

/-- The export as a stream. -/
def exportStream : Run String := do
  let manifests ← job.exported
  enter .serializing
  let stream := Manifest.stream manifests
  enter .done
  return stream

/-- A stream is that of the manifests that are exported. -/
theorem result_exportStream :
    job.exportStream.result = job.exported.result.map Manifest.stream := by
  rw [exportStream, Traced.result_bind]
  cases job.exported.result <;> rfl

end Job

/-- The last stage of some events, after a stage. -/
def lastStage (stage : Stage) (events : List Event) : Stage :=
  ((events.filterMap Event.stage?).getLast?).getD stage

end AtlasManifests
