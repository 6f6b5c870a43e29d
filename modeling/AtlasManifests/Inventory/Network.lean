import AtlasManifests.Json.Record
import AtlasManifests.Provider

/-! # Network containers and peerings

Both have one flat shape for all providers; which fields count depends on the
provider.
-/
namespace AtlasManifests

namespace Provider

/-- Reads a provider by its tag, which is in capitals here. -/
def ofJson? (j : Json) : Option Provider :=
  j.choice?.bind fun name => all.find? (·.tag == name)

/-- Writes a provider as its tag. -/
def toJson (p : Provider) : Json := .str p.tag

@[simp] theorem ofJson?_toJson (p : Provider) : ofJson? p.toJson = some p := by
  cases p <;> decide

end Provider

/-- A network container. -/
structure Container where
  id : Option String := none
  providerName : Option String := none
  atlasCidrBlock : Option String := none
  provisioned : Option Bool := none
  regionName : Option String := none
  vpcId : Option String := none
  region : Option String := none
  azureSubscriptionId : Option String := none
  vnetName : Option String := none
  regions : List String := []
  gcpProjectId : Option String := none
  networkName : Option String := none

namespace Container

/-- The fields in order. -/
def fields : List String :=
  ["id", "providerName", "atlasCidrBlock", "provisioned", "regionName", "vpcId", "region",
    "azureSubscriptionId", "vnetName", "regions", "gcpProjectId", "networkName"]

/-- Reads a container, every field of which has a default. -/
def ofJson? (j : Json) : Option Container := do
  let r ← j.record? .lenient fields
  return {
    id := ← r.optional Json.text? "id"
    providerName := ← r.optional Json.text? "providerName"
    atlasCidrBlock := ← r.optional Json.text? "atlasCidrBlock"
    provisioned := ← r.optional Json.bool? "provisioned"
    regionName := ← r.optional Json.text? "regionName"
    vpcId := ← r.optional Json.text? "vpcId"
    region := ← r.optional Json.text? "region"
    azureSubscriptionId := ← r.optional Json.text? "azureSubscriptionId"
    vnetName := ← r.optional Json.text? "vnetName"
    regions := ← r.list Json.text? "regions"
    gcpProjectId := ← r.optional Json.text? "gcpProjectId"
    networkName := ← r.optional Json.text? "networkName"
  }

/-- Writes a container, with `null` for absent values. -/
def toJson (container : Container) : Json :=
  .ofFields [
    ("id", Writing.explicit.optional Json.str container.id),
    ("providerName", Writing.explicit.optional Json.str container.providerName),
    ("atlasCidrBlock", Writing.explicit.optional Json.str container.atlasCidrBlock),
    ("provisioned", Writing.explicit.optional Json.bool container.provisioned),
    ("regionName", Writing.explicit.optional Json.str container.regionName),
    ("vpcId", Writing.explicit.optional Json.str container.vpcId),
    ("region", Writing.explicit.optional Json.str container.region),
    ("azureSubscriptionId", Writing.explicit.optional Json.str container.azureSubscriptionId),
    ("vnetName", Writing.explicit.optional Json.str container.vnetName),
    ("regions", Writing.explicit.list Json.str container.regions),
    ("gcpProjectId", Writing.explicit.optional Json.str container.gcpProjectId),
    ("networkName", Writing.explicit.optional Json.str container.networkName)]

end Container

/-- A peering connection of a network container. -/
structure Peering where
  id : Option String := none
  containerId : String := ""
  providerName : Option String := none
  statusName : Option String := none
  accepterRegionName : Option String := none
  awsAccountId : Option String := none
  routeTableCidrBlock : Option String := none
  vpcId : Option String := none
  connectionId : Option String := none
  azureDirectoryId : Option String := none
  azureSubscriptionId : Option String := none
  resourceGroupName : Option String := none
  vnetName : Option String := none
  gcpProjectId : Option String := none
  networkName : Option String := none

namespace Peering

/-- The fields in order. -/
def fields : List String :=
  ["id", "containerId", "providerName", "statusName", "accepterRegionName", "awsAccountId",
    "routeTableCidrBlock", "vpcId", "connectionId", "azureDirectoryId", "azureSubscriptionId",
    "resourceGroupName", "vnetName", "gcpProjectId", "networkName"]

/-- Reads a peering, every field of which has a default. -/
def ofJson? (j : Json) : Option Peering := do
  let r ← j.record? .lenient fields
  return {
    id := ← r.optional Json.text? "id"
    containerId := ← r.text "containerId"
    providerName := ← r.optional Json.text? "providerName"
    statusName := ← r.optional Json.text? "statusName"
    accepterRegionName := ← r.optional Json.text? "accepterRegionName"
    awsAccountId := ← r.optional Json.text? "awsAccountId"
    routeTableCidrBlock := ← r.optional Json.text? "routeTableCidrBlock"
    vpcId := ← r.optional Json.text? "vpcId"
    connectionId := ← r.optional Json.text? "connectionId"
    azureDirectoryId := ← r.optional Json.text? "azureDirectoryId"
    azureSubscriptionId := ← r.optional Json.text? "azureSubscriptionId"
    resourceGroupName := ← r.optional Json.text? "resourceGroupName"
    vnetName := ← r.optional Json.text? "vnetName"
    gcpProjectId := ← r.optional Json.text? "gcpProjectId"
    networkName := ← r.optional Json.text? "networkName"
  }

/-- Writes a peering, with `null` for absent values. -/
def toJson (peering : Peering) : Json :=
  .ofFields [
    ("id", Writing.explicit.optional Json.str peering.id),
    ("containerId", some (.str peering.containerId)),
    ("providerName", Writing.explicit.optional Json.str peering.providerName),
    ("statusName", Writing.explicit.optional Json.str peering.statusName),
    ("accepterRegionName", Writing.explicit.optional Json.str peering.accepterRegionName),
    ("awsAccountId", Writing.explicit.optional Json.str peering.awsAccountId),
    ("routeTableCidrBlock", Writing.explicit.optional Json.str peering.routeTableCidrBlock),
    ("vpcId", Writing.explicit.optional Json.str peering.vpcId),
    ("connectionId", Writing.explicit.optional Json.str peering.connectionId),
    ("azureDirectoryId", Writing.explicit.optional Json.str peering.azureDirectoryId),
    ("azureSubscriptionId", Writing.explicit.optional Json.str peering.azureSubscriptionId),
    ("resourceGroupName", Writing.explicit.optional Json.str peering.resourceGroupName),
    ("vnetName", Writing.explicit.optional Json.str peering.vnetName),
    ("gcpProjectId", Writing.explicit.optional Json.str peering.gcpProjectId),
    ("networkName", Writing.explicit.optional Json.str peering.networkName)]

end Peering

end AtlasManifests
