import AtlasManifests.Inventory.Network
import AtlasManifests.Manifest.Resource
import AtlasManifests.Provider

/-! # Network manifests

Network containers and peerings with one block of settings for each provider, of which
at most the one of their own provider is filled.
-/
namespace AtlasManifests

/-- A container at AWS. -/
structure AwsContainer where
  regionName : String

namespace AwsContainer

/-- The fields in order. -/
def fields : List String :=
  ["regionName"]

/-- Reads the AWS block of a container; `regionName` has to be there. -/
def ofJson? (j : Json) : Option AwsContainer := do
  let r ← j.record? .strict fields
  return {
    regionName := ← r.text "regionName"
  }

/-- Writes the AWS block of a container. -/
def toJson (block : AwsContainer) : Json :=
  .ofFields [
    ("regionName", some (.str block.regionName))]

end AwsContainer

/-- A container at Azure. -/
structure AzureContainer where
  region : String

namespace AzureContainer

/-- The fields in order. -/
def fields : List String :=
  ["region"]

/-- Reads the Azure block of a container; `region` has to be there. -/
def ofJson? (j : Json) : Option AzureContainer := do
  let r ← j.record? .strict fields
  return {
    region := ← r.text "region"
  }

/-- Writes the Azure block of a container. -/
def toJson (block : AzureContainer) : Json :=
  .ofFields [
    ("region", some (.str block.region))]

end AzureContainer

/-- A container at Google Cloud, limited to some regions or to none. -/
structure GcpContainer where
  regions : List String

namespace GcpContainer

/-- The fields in order. -/
def fields : List String :=
  ["regions"]

/-- Reads the Google Cloud block of a container; no field has to be there. -/
def ofJson? (j : Json) : Option GcpContainer := do
  let r ← j.record? .strict fields
  return {
    regions := ← r.list Json.text? "regions"
  }

/-- Writes the Google Cloud block of a container without absent values. -/
def toJson (block : GcpContainer) : Json :=
  .ofFields [
    ("regions", Writing.compact.list Json.str block.regions)]

end GcpContainer

/-- What is asked for of a container. -/
structure ContainerSpec where
  linkage : Linkage
  provider : String
  id : Option String := none
  cidrBlock : Option String := none
  aws : Option AwsContainer := none
  azure : Option AzureContainer := none
  gcp : Option GcpContainer := none

namespace ContainerSpec

/-- The fields in order, without the link to the project. -/
def fields : List String :=
  ["provider", "id", "cidrBlock", "awsConfiguration", "azureConfiguration",
    "gcpConfiguration"]

/-- Reads a container specification with its link to the project; `provider` has to be there.
-/
def ofJson? (j : Json) : Option ContainerSpec := do
  let r ← j.linkedRecord? fields
  return {
    linkage := ← Linkage.ofJson? j
    provider := ← r.text "provider"
    id := ← r.optional Json.text? "id"
    cidrBlock := ← r.optional Json.text? "cidrBlock"
    aws := ← r.optional AwsContainer.ofJson? "awsConfiguration"
    azure := ← r.optional AzureContainer.ofJson? "azureConfiguration"
    gcp := ← r.optional GcpContainer.ofJson? "gcpConfiguration"
  }

/-- Writes a container specification, its link to the project first, without absent values. -/
def toJson (spec : ContainerSpec) : Json :=
  .ofFields (spec.linkage.fields ++ [
    ("provider", some (.str spec.provider)),
    ("id", Writing.compact.optional Json.str spec.id),
    ("cidrBlock", Writing.compact.optional Json.str spec.cidrBlock),
    ("awsConfiguration", Writing.compact.optional AwsContainer.toJson spec.aws),
    ("azureConfiguration", Writing.compact.optional AzureContainer.toJson spec.azure),
    ("gcpConfiguration", Writing.compact.optional GcpContainer.toJson spec.gcp)])

end ContainerSpec

/-- A reference to a container, by the name of its manifest or by its id. -/
structure ContainerRef where
  name : Option String := none
  id : Option String := none

namespace ContainerRef

/-- The fields in order. -/
def fields : List String :=
  ["name", "id"]

/-- Reads a container reference; no field has to be there. -/
def ofJson? (j : Json) : Option ContainerRef := do
  let r ← j.record? .strict fields
  return {
    name := ← r.optional Json.text? "name"
    id := ← r.optional Json.text? "id"
  }

/-- Writes a container reference without absent values. -/
def toJson (ref : ContainerRef) : Json :=
  .ofFields [
    ("name", Writing.compact.optional Json.str ref.name),
    ("id", Writing.compact.optional Json.str ref.id)]

end ContainerRef

/-- A peering at AWS. -/
structure AwsPeering where
  accepterRegionName : String
  awsAccountId : String
  routeTableCidrBlock : String
  vpcId : String

namespace AwsPeering

/-- The fields in order. -/
def fields : List String :=
  ["accepterRegionName", "awsAccountId", "routeTableCidrBlock", "vpcId"]

/-- Reads the AWS block of a peering; `accepterRegionName`, `awsAccountId`,
`routeTableCidrBlock` and `vpcId` have to be there. -/
def ofJson? (j : Json) : Option AwsPeering := do
  let r ← j.record? .strict fields
  return {
    accepterRegionName := ← r.text "accepterRegionName"
    awsAccountId := ← r.text "awsAccountId"
    routeTableCidrBlock := ← r.text "routeTableCidrBlock"
    vpcId := ← r.text "vpcId"
  }

/-- Writes the AWS block of a peering. -/
def toJson (block : AwsPeering) : Json :=
  .ofFields [
    ("accepterRegionName", some (.str block.accepterRegionName)),
    ("awsAccountId", some (.str block.awsAccountId)),
    ("routeTableCidrBlock", some (.str block.routeTableCidrBlock)),
    ("vpcId", some (.str block.vpcId))]

end AwsPeering

/-- A peering at Azure. -/
structure AzurePeering where
  azureDirectoryId : String
  azureSubscriptionId : String
  resourceGroupName : String
  vnetName : String

namespace AzurePeering

/-- The fields in order. -/
def fields : List String :=
  ["azureDirectoryId", "azureSubscriptionId", "resourceGroupName", "vNetName"]

/-- Reads the Azure block of a peering; `azureDirectoryId`, `azureSubscriptionId`,
`resourceGroupName` and `vNetName` have to be there. -/
def ofJson? (j : Json) : Option AzurePeering := do
  let r ← j.record? .strict fields
  return {
    azureDirectoryId := ← r.text "azureDirectoryId"
    azureSubscriptionId := ← r.text "azureSubscriptionId"
    resourceGroupName := ← r.text "resourceGroupName"
    vnetName := ← r.text "vNetName"
  }

/-- Writes the Azure block of a peering. -/
def toJson (block : AzurePeering) : Json :=
  .ofFields [
    ("azureDirectoryId", some (.str block.azureDirectoryId)),
    ("azureSubscriptionId", some (.str block.azureSubscriptionId)),
    ("resourceGroupName", some (.str block.resourceGroupName)),
    ("vNetName", some (.str block.vnetName))]

end AzurePeering

/-- A peering at Google Cloud. -/
structure GcpPeering where
  gcpProjectId : String
  networkName : String

namespace GcpPeering

/-- The fields in order. -/
def fields : List String :=
  ["gcpProjectId", "networkName"]

/-- Reads the Google Cloud block of a peering; `gcpProjectId` and `networkName` have to be
there. -/
def ofJson? (j : Json) : Option GcpPeering := do
  let r ← j.record? .strict fields
  return {
    gcpProjectId := ← r.text "gcpProjectId"
    networkName := ← r.text "networkName"
  }

/-- Writes the Google Cloud block of a peering. -/
def toJson (block : GcpPeering) : Json :=
  .ofFields [
    ("gcpProjectId", some (.str block.gcpProjectId)),
    ("networkName", some (.str block.networkName))]

end GcpPeering

/-- What is asked for of a peering. -/
structure PeeringSpec where
  linkage : Linkage
  containerRef : ContainerRef
  provider : String
  id : Option String := none
  aws : Option AwsPeering := none
  azure : Option AzurePeering := none
  gcp : Option GcpPeering := none

namespace PeeringSpec

/-- The fields in order, without the link to the project. -/
def fields : List String :=
  ["containerRef", "provider", "id", "awsConfiguration", "azureConfiguration",
    "gcpConfiguration"]

/-- Reads a peering specification with its link to the project; `containerRef` and `provider`
have to be there. -/
def ofJson? (j : Json) : Option PeeringSpec := do
  let r ← j.linkedRecord? fields
  return {
    linkage := ← Linkage.ofJson? j
    containerRef := ← r.required ContainerRef.ofJson? "containerRef"
    provider := ← r.text "provider"
    id := ← r.optional Json.text? "id"
    aws := ← r.optional AwsPeering.ofJson? "awsConfiguration"
    azure := ← r.optional AzurePeering.ofJson? "azureConfiguration"
    gcp := ← r.optional GcpPeering.ofJson? "gcpConfiguration"
  }

/-- Writes a peering specification, its link to the project first, without absent values. -/
def toJson (spec : PeeringSpec) : Json :=
  .ofFields (spec.linkage.fields ++ [
    ("containerRef", some spec.containerRef.toJson),
    ("provider", some (.str spec.provider)),
    ("id", Writing.compact.optional Json.str spec.id),
    ("awsConfiguration", Writing.compact.optional AwsPeering.toJson spec.aws),
    ("azureConfiguration", Writing.compact.optional AzurePeering.toJson spec.azure),
    ("gcpConfiguration", Writing.compact.optional GcpPeering.toJson spec.gcp)])

end PeeringSpec

/-- The provider that a source names, as far as it is known. -/
def providerOf (tag : Option String) : Option Provider := Provider.ofTag? (tag.getD "")

namespace Container

/-- The token of the region that goes into the name of a container. -/
def regionToken (container : Container) : String :=
  match providerOf container.providerName with
  | some .aws => (container.regionName.map Label.regionToken).getD ""
  | some .azure => (container.region.map Label.regionToken).getD ""
  | _ => ""

end Container

namespace Peering

/-- The token of the region that goes into the name of a peering. -/
def regionToken (peering : Peering) : String :=
  match providerOf peering.providerName with
  | some .aws => (peering.accepterRegionName.map Label.regionToken).getD ""
  | _ => ""

end Peering

/-- A tag in lower case. -/
def lowerTag (tag : String) : String := String.ofList (Text.lower tag.toList)

/-- The names of exported containers by the ids of their sources. -/
structure ContainerIndex where
  entries : List (String × String)

namespace ContainerIndex

/-- The index of some manifests. -/
def ofManifests (manifests : List (Resource ContainerSpec)) : ContainerIndex :=
  ⟨manifests.filterMap fun m => do return (← m.spec.id, ← m.metadata.name)⟩

/-- The name of the container with an id, the last one if there are several. -/
def nameOf (index : ContainerIndex) (id : String) : Option String :=
  index.entries.reverse.lookup id

end ContainerIndex

namespace Context

variable (ctx : Context)

/-- The manifest of a container. -/
def container (source : Container) : Resource ContainerSpec :=
  let tag := source.providerName.getD ""
  let spec : ContainerSpec :=
    { linkage := ctx.linkage, provider := tag, id := source.id, cidrBlock := source.atlasCidrBlock }
  let spec :=
    match providerOf source.providerName with
    | some .aws => { spec with aws := some ⟨source.regionName.getD ""⟩ }
    | some .azure => { spec with azure := some ⟨source.region.getD ""⟩ }
    | some .gcp => { spec with gcp := some ⟨source.regions⟩ }
    | none => spec
  ctx.resource (ctx.scopedName ["container", lowerTag tag, source.regionToken]) spec

/-- The manifest of a peering. Several peerings may share provider and region, so the
name ends in a word of its own. The container is named by its manifest if that was
exported. -/
def peering (source : Peering) (containers : ContainerIndex) (suffix : String) :
    Resource PeeringSpec :=
  let tag := source.providerName.getD ""
  let containerRef : ContainerRef :=
    match containers.nameOf source.containerId with
    | some name => { name := some name }
    | none => { id := some source.containerId }
  let spec : PeeringSpec :=
    { linkage := ctx.linkage, containerRef, provider := tag, id := source.id }
  let spec :=
    match providerOf source.providerName with
    | some .aws =>
      { spec with
        aws := some
          { accepterRegionName := source.accepterRegionName.getD ""
            awsAccountId := source.awsAccountId.getD ""
            routeTableCidrBlock := source.routeTableCidrBlock.getD ""
            vpcId := source.vpcId.getD "" } }
    | some .azure =>
      { spec with
        azure := some
          { azureDirectoryId := source.azureDirectoryId.getD ""
            azureSubscriptionId := source.azureSubscriptionId.getD ""
            resourceGroupName := source.resourceGroupName.getD ""
            vnetName := source.vnetName.getD "" } }
    | some .gcp =>
      { spec with
        gcp := some
          { gcpProjectId := source.gcpProjectId.getD ""
            networkName := source.networkName.getD "" } }
    | none => spec
  ctx.resource
    (Label.unique [ctx.projectName, "peering", lowerTag tag, source.regionToken] suffix) spec

end Context

end AtlasManifests
