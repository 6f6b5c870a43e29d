import AtlasManifests.ControlPlane.Basic
import AtlasManifests.Definition.Catalogue
import AtlasManifests.Kind
import AtlasManifests.Mapping.Mapper

/-! # Mapped projects

The projects of a list as groups, and the clusters of each of them. A cluster refers to
the group of its project if that was mapped before. The mapper for a kind comes from
a catalogue.
-/
namespace AtlasManifests

/-- A mapped object with the id of its source. -/
structure MappedObject where
  id : String
  object : Generated

namespace ReferenceIndex

/-- The index of mapped objects. -/
def ofMapped (objects : List MappedObject) : ReferenceIndex :=
  objects.foldl (fun index t =>
    match t.object.metadata.name with
    | some name => index.insert t.object.kind t.id name
    | none => index) empty

end ReferenceIndex

/-- The mapper for a kind, from the definition that a catalogue has of it. -/
def Catalogue.mapper (c : Catalogue) (registry : Registry) (kind : GeneratedKind)
    (version tag : String) : Except Error Mapper := do
  let definition ← c.find kind.word version
  (Mapper.make registry (some definition) tag).mapError .setup

namespace Mapper

variable (t : Mapper) (ctx : Context)

/-- The group of a project, under the id that it was asked for. -/
def group (id : String) (project : Project) : MappedObject :=
  ⟨id, t.toManifest ctx (Label.normalize project.name) project.toJson.canonical [] .empty⟩

/-- How the names of the clusters of a project begin: with the name of its group, or with
its id. -/
def clusterStem (refs : ReferenceIndex) (id : String) : String :=
  (refs.nameOf? GeneratedKind.group.word id).getD (Label.normalize id)

/-- The manifest of a cluster of a project. -/
def cluster (refs : ReferenceIndex) (id : String) (source : Cluster) : MappedObject :=
  ⟨source.id.getD source.name,
    t.toManifest ctx (Label.normalizeParts [clusterStem refs id, source.name])
      source.toJson.canonical [("groupId", id)] refs⟩

end Mapper

namespace ControlPlane

variable (cp : ControlPlane) (ctx : Context) (t : Mapper)

/-- A project with an id, which is not asked for if it is known. -/
def knownProject (known : List Project) (id : String) : Traced Call Project :=
  match known.find? (·.id == id) with
  | some project => return project
  | none => cp.project "group" id

/-- The groups of some projects. -/
def mappedGroups (known : List Project) : List String → Traced Call (List MappedObject)
  | [] => return []
  | id :: rest => do
    let project ← cp.knownProject known id
    return t.group ctx id project :: (← mappedGroups known rest)

/-- The clusters of some projects, given an index of groups. -/
def mappedClusters (refs : ReferenceIndex) (size : Nat) :
    List String → Traced Call (List MappedObject)
  | [] => return []
  | id :: rest => do
    let clusters ← cp.clusters id size
    return clusters.map (t.cluster ctx refs id) ++ (← mappedClusters refs size rest)

end ControlPlane

end AtlasManifests
