import AtlasManifests.Manifest.AccessList
import AtlasManifests.Manifest.DatabaseUser
import AtlasManifests.Manifest.Deployment
import AtlasManifests.Manifest.Federation
import AtlasManifests.Manifest.Generated
import AtlasManifests.Manifest.Integration
import AtlasManifests.Manifest.Network
import AtlasManifests.Yaml.Stream

/-! # Manifests

The objects that an export is made of, in one type, and the stream of several. A
namespace can be given to any of them.
-/
namespace AtlasManifests

/-- An object of an export. -/
inductive Manifest where
  | project (r : Resource ProjectSpec)
  | accessList (r : Resource AccessListSpec)
  | deployment (r : Resource DeploymentSpec)
  | databaseUser (r : Resource DatabaseUserSpec)
  | container (r : Resource ContainerSpec)
  | peering (r : Resource PeeringSpec)
  | integration (r : Resource IntegrationSpec)
  | federation (r : Resource FederationSpec)
  | secret (s : Secret)
  | generated (g : Generated)

namespace Manifest

/-- The kind of a manifest in a cluster. -/
def kind : Manifest → String
  | project _ => CuratedKind.project.resource
  | accessList _ => CuratedKind.ipAccessList.resource
  | deployment _ => CuratedKind.deployment.resource
  | databaseUser _ => CuratedKind.databaseUser.resource
  | container _ => CuratedKind.networkContainer.resource
  | peering _ => CuratedKind.networkPeering.resource
  | integration _ => CuratedKind.thirdPartyIntegration.resource
  | federation _ => CuratedKind.dataFederation.resource
  | secret _ => "Secret"
  | generated g => g.kind

/-- The metadata of a manifest. -/
def metadata : Manifest → Metadata
  | project r => r.metadata
  | accessList r => r.metadata
  | deployment r => r.metadata
  | databaseUser r => r.metadata
  | container r => r.metadata
  | peering r => r.metadata
  | integration r => r.metadata
  | federation r => r.metadata
  | secret s => s.metadata
  | generated g => g.metadata

/-- A manifest with other metadata. -/
def withMetadata (m : Metadata) : Manifest → Manifest
  | project r => project { r with metadata := m }
  | accessList r => accessList { r with metadata := m }
  | deployment r => deployment { r with metadata := m }
  | databaseUser r => databaseUser { r with metadata := m }
  | container r => container { r with metadata := m }
  | peering r => peering { r with metadata := m }
  | integration r => integration { r with metadata := m }
  | federation r => federation { r with metadata := m }
  | secret s => secret { s with metadata := m }
  | generated g => generated { g with metadata := m }

@[simp] theorem metadata_withMetadata (m : Metadata) (x : Manifest) :
    (x.withMetadata m).metadata = m := by cases x <;> rfl

@[simp] theorem kind_withMetadata (m : Metadata) (x : Manifest) :
    (x.withMetadata m).kind = x.kind := by cases x <;> rfl

/-- The name of a manifest, which is empty if it has none. -/
def name (m : Manifest) : String := m.metadata.name.getD ""

/-- A manifest in a namespace. -/
def within (space : String) (m : Manifest) : Manifest :=
  m.withMetadata { m.metadata with space := some space }

@[simp] theorem name_within (space : String) (m : Manifest) : (m.within space).name = m.name := by
  simp [within, name]

/-- Writes a manifest. -/
def toJson : Manifest → Json
  | project r => r.toJson .project ProjectSpec.toJson
  | accessList r => r.toJson .ipAccessList AccessListSpec.toJson
  | deployment r => r.toJson .deployment DeploymentSpec.toJson
  | databaseUser r => r.toJson .databaseUser DatabaseUserSpec.toJson
  | container r => r.toJson .networkContainer ContainerSpec.toJson
  | peering r => r.toJson .networkPeering PeeringSpec.toJson
  | integration r => r.toJson .thirdPartyIntegration IntegrationSpec.toJson
  | federation r => r.toJson .dataFederation FederationSpec.toJson
  | secret s => s.toJson
  | generated g => g.toJson

/-- Reads a manifest of a curated kind. -/
def ofCurated? (kind : CuratedKind) (j : Json) : Option Manifest :=
  match kind with
  | .project => (Resource.ofJson? ProjectSpec.ofJson? j).map project
  | .ipAccessList => (Resource.ofJson? AccessListSpec.ofJson? j).map accessList
  | .deployment => (Resource.ofJson? DeploymentSpec.ofJson? j).map deployment
  | .databaseUser => (Resource.ofJson? DatabaseUserSpec.ofJson? j).map databaseUser
  | .networkContainer => (Resource.ofJson? ContainerSpec.ofJson? j).map container
  | .networkPeering => (Resource.ofJson? PeeringSpec.ofJson? j).map peering
  | .thirdPartyIntegration => (Resource.ofJson? IntegrationSpec.ofJson? j).map integration
  | .dataFederation => (Resource.ofJson? FederationSpec.ofJson? j).map federation

/-- The document of a manifest. -/
def yaml (m : Manifest) : String := Yaml.document m.toJson

/-- The stream of some manifests. -/
def stream (manifests : List Manifest) : String := Yaml.joinDocuments (manifests.map yaml)

end Manifest

end AtlasManifests
