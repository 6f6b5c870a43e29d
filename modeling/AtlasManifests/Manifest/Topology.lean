import AtlasManifests.Inventory.Topology

/-! # Topologies that are asked for

Where the nodes of a deployment are to be and what they are to run on, and how each part of the
topology of a cluster is asked for.
-/
namespace AtlasManifests

/-- What the nodes of one role are to run on. -/
structure HardwareSpec where
  instanceSize : Option String := none
  nodeCount : Option Int32 := none
  diskIops : Option Int64 := none
  ebsVolumeType : Option String := none

namespace HardwareSpec

/-- The fields in order. -/
def fields : List String :=
  ["instanceSize", "nodeCount", "diskIOPS", "ebsVolumeType"]

/-- Reads hardware that is asked for; no field has to be there. -/
def ofJson? (j : Json) : Option HardwareSpec := do
  let r ← j.record? .strict fields
  return {
    instanceSize := ← r.optional Json.text? "instanceSize"
    nodeCount := ← r.optional Json.int32? "nodeCount"
    diskIops := ← r.optional Json.int64? "diskIOPS"
    ebsVolumeType := ← r.optional Json.text? "ebsVolumeType"
  }

/-- Writes hardware that is asked for without absent values. -/
def toJson (hardware : HardwareSpec) : Json :=
  .ofFields [
    ("instanceSize", Writing.compact.optional Json.str hardware.instanceSize),
    ("nodeCount", Writing.compact.optional Json.int32 hardware.nodeCount),
    ("diskIOPS", Writing.compact.optional Json.int64 hardware.diskIops),
    ("ebsVolumeType", Writing.compact.optional Json.str hardware.ebsVolumeType)]

/-- The hardware that asks for hardware as it is. -/
def ofHardware (hardware : Hardware) : HardwareSpec where
  instanceSize := hardware.instanceSize
  nodeCount := hardware.nodeCount
  diskIops := hardware.diskIops
  ebsVolumeType := hardware.ebsVolumeType

end HardwareSpec

/-- Automatic scaling of the instance size that is asked for. -/
structure ComputeScalingSpec where
  enabled : Option Bool := none
  scaleDownEnabled : Option Bool := none
  minInstanceSize : Option String := none
  maxInstanceSize : Option String := none

namespace ComputeScalingSpec

/-- The fields in order. -/
def fields : List String :=
  ["enabled", "scaleDownEnabled", "minInstanceSize", "maxInstanceSize"]

/-- Reads compute scaling that is asked for; no field has to be there. -/
def ofJson? (j : Json) : Option ComputeScalingSpec := do
  let r ← j.record? .strict fields
  return {
    enabled := ← r.optional Json.bool? "enabled"
    scaleDownEnabled := ← r.optional Json.bool? "scaleDownEnabled"
    minInstanceSize := ← r.optional Json.text? "minInstanceSize"
    maxInstanceSize := ← r.optional Json.text? "maxInstanceSize"
  }

/-- Writes compute scaling that is asked for without absent values. -/
def toJson (scaling : ComputeScalingSpec) : Json :=
  .ofFields [
    ("enabled", Writing.compact.optional Json.bool scaling.enabled),
    ("scaleDownEnabled", Writing.compact.optional Json.bool scaling.scaleDownEnabled),
    ("minInstanceSize", Writing.compact.optional Json.str scaling.minInstanceSize),
    ("maxInstanceSize", Writing.compact.optional Json.str scaling.maxInstanceSize)]

/-- The compute scaling that asks for one as it is. -/
def ofScaling (scaling : ComputeScaling) : ComputeScalingSpec where
  enabled := scaling.enabled
  scaleDownEnabled := scaling.scaleDownEnabled
  minInstanceSize := scaling.minInstanceSize
  maxInstanceSize := scaling.maxInstanceSize

end ComputeScalingSpec

/-- Automatic scaling of the storage that is asked for. -/
structure DiskScalingSpec where
  enabled : Option Bool := none

namespace DiskScalingSpec

/-- The fields in order. -/
def fields : List String :=
  ["enabled"]

/-- Reads disk scaling that is asked for; no field has to be there. -/
def ofJson? (j : Json) : Option DiskScalingSpec := do
  let r ← j.record? .strict fields
  return {
    enabled := ← r.optional Json.bool? "enabled"
  }

/-- Writes disk scaling that is asked for without absent values. -/
def toJson (scaling : DiskScalingSpec) : Json :=
  .ofFields [
    ("enabled", Writing.compact.optional Json.bool scaling.enabled)]

/-- The disk scaling that asks for one as it is. -/
def ofScaling (scaling : DiskScaling) : DiskScalingSpec where
  enabled := scaling.enabled

end DiskScalingSpec

/-- Automatic scaling that is asked for. -/
structure AutoScalingSpec where
  compute : Option ComputeScalingSpec := none
  diskGb : Option DiskScalingSpec := none

namespace AutoScalingSpec

/-- The fields in order. -/
def fields : List String :=
  ["compute", "diskGB"]

/-- Reads automatic scaling that is asked for; no field has to be there. -/
def ofJson? (j : Json) : Option AutoScalingSpec := do
  let r ← j.record? .strict fields
  return {
    compute := ← r.optional ComputeScalingSpec.ofJson? "compute"
    diskGb := ← r.optional DiskScalingSpec.ofJson? "diskGB"
  }

/-- Writes automatic scaling that is asked for without absent values. -/
def toJson (scaling : AutoScalingSpec) : Json :=
  .ofFields [
    ("compute", Writing.compact.optional ComputeScalingSpec.toJson scaling.compute),
    ("diskGB", Writing.compact.optional DiskScalingSpec.toJson scaling.diskGb)]

/-- The automatic scaling that asks for one as it is. -/
def ofScaling (scaling : AutoScaling) : AutoScalingSpec where
  compute := scaling.compute.map .ofScaling
  diskGb := scaling.diskGb.map .ofScaling

end AutoScalingSpec

/-- The nodes that are asked for in one region of a zone. -/
structure RegionSpec where
  providerName : Option String := none
  backingProviderName : Option String := none
  regionName : Option String := none
  priority : Option Int32 := none
  electableSpecs : Option HardwareSpec := none
  readOnlySpecs : Option HardwareSpec := none
  analyticsSpecs : Option HardwareSpec := none
  autoScaling : Option AutoScalingSpec := none

/-- Whether hardware is for any node. -/
def Hardware.isUsed (hardware : Hardware) : Bool := 0 < (hardware.nodeCount.getD 0).toInt

namespace RegionSpec

/-- The fields in order. -/
def fields : List String :=
  ["providerName", "backingProviderName", "regionName", "priority", "electableSpecs",
    "readOnlySpecs", "analyticsSpecs", "autoScaling"]

/-- Reads a region that is asked for; no field has to be there. -/
def ofJson? (j : Json) : Option RegionSpec := do
  let r ← j.record? .strict fields
  return {
    providerName := ← r.optional Json.text? "providerName"
    backingProviderName := ← r.optional Json.text? "backingProviderName"
    regionName := ← r.optional Json.text? "regionName"
    priority := ← r.optional Json.int32? "priority"
    electableSpecs := ← r.optional HardwareSpec.ofJson? "electableSpecs"
    readOnlySpecs := ← r.optional HardwareSpec.ofJson? "readOnlySpecs"
    analyticsSpecs := ← r.optional HardwareSpec.ofJson? "analyticsSpecs"
    autoScaling := ← r.optional AutoScalingSpec.ofJson? "autoScaling"
  }

/-- Writes a region that is asked for without absent values. -/
def toJson (region : RegionSpec) : Json :=
  .ofFields [
    ("providerName", Writing.compact.optional Json.str region.providerName),
    ("backingProviderName", Writing.compact.optional Json.str region.backingProviderName),
    ("regionName", Writing.compact.optional Json.str region.regionName),
    ("priority", Writing.compact.optional Json.int32 region.priority),
    ("electableSpecs", Writing.compact.optional HardwareSpec.toJson region.electableSpecs),
    ("readOnlySpecs", Writing.compact.optional HardwareSpec.toJson region.readOnlySpecs),
    ("analyticsSpecs", Writing.compact.optional HardwareSpec.toJson region.analyticsSpecs),
    ("autoScaling", Writing.compact.optional AutoScalingSpec.toJson region.autoScaling)]

/-- The region that asks for one as it is, without the hardware that is for no node; that of
electable nodes stays. -/
def ofRegion (region : Region) : RegionSpec where
  providerName := region.providerName
  backingProviderName := region.backingProviderName
  regionName := region.regionName
  priority := region.priority
  electableSpecs := region.electableSpecs.map .ofHardware
  readOnlySpecs := (region.readOnlySpecs.filter Hardware.isUsed).map .ofHardware
  analyticsSpecs := (region.analyticsSpecs.filter Hardware.isUsed).map .ofHardware
  autoScaling := region.autoScaling.map .ofScaling

end RegionSpec

/-- A zone that is asked for. -/
structure ZoneSpec where
  zoneName : Option String := none
  regionConfigs : List RegionSpec

namespace ZoneSpec

/-- The fields in order. -/
def fields : List String :=
  ["zoneName", "regionConfigs"]

/-- Reads a zone that is asked for; no field has to be there. -/
def ofJson? (j : Json) : Option ZoneSpec := do
  let r ← j.record? .strict fields
  return {
    zoneName := ← r.optional Json.text? "zoneName"
    regionConfigs := ← r.list RegionSpec.ofJson? "regionConfigs"
  }

/-- Writes a zone that is asked for without absent values. -/
def toJson (zone : ZoneSpec) : Json :=
  .ofFields [
    ("zoneName", Writing.compact.optional Json.str zone.zoneName),
    ("regionConfigs", Writing.compact.list RegionSpec.toJson zone.regionConfigs)]

/-- The zone that asks for one as it is, region by region. -/
def ofZone (zone : Zone) : ZoneSpec where
  zoneName := zone.zoneName
  regionConfigs := zone.regionConfigs.map .ofRegion

end ZoneSpec

end AtlasManifests
