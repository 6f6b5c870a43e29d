import AtlasManifests.Json.Record

/-! # Cluster topology

Where the nodes of a cluster are and what they run on, as the control plane describes
it.
-/
namespace AtlasManifests

/-- What the nodes of one role run on. -/
structure Hardware where
  instanceSize : Option String := none
  nodeCount : Option Int32 := none
  diskIops : Option Int64 := none
  ebsVolumeType : Option String := none

namespace Hardware

/-- The fields in order. -/
def fields : List String :=
  ["instanceSize", "nodeCount", "diskIOPS", "ebsVolumeType"]

/-- Reads the hardware of nodes, every field of which has a default. -/
def ofJson? (j : Json) : Option Hardware := do
  let r ← j.record? .lenient fields
  return {
    instanceSize := ← r.optional Json.text? "instanceSize"
    nodeCount := ← r.optional Json.int32? "nodeCount"
    diskIops := ← r.optional Json.int64? "diskIOPS"
    ebsVolumeType := ← r.optional Json.text? "ebsVolumeType"
  }

/-- Writes the hardware of nodes without absent values. -/
def toJson (hardware : Hardware) : Json :=
  .ofFields [
    ("instanceSize", Writing.compact.optional Json.str hardware.instanceSize),
    ("nodeCount", Writing.compact.optional Json.int32 hardware.nodeCount),
    ("diskIOPS", Writing.compact.optional Json.int64 hardware.diskIops),
    ("ebsVolumeType", Writing.compact.optional Json.str hardware.ebsVolumeType)]

end Hardware

/-- Automatic scaling of the instance size. -/
structure ComputeScaling where
  enabled : Option Bool := none
  scaleDownEnabled : Option Bool := none
  minInstanceSize : Option String := none
  maxInstanceSize : Option String := none

namespace ComputeScaling

/-- The fields in order. -/
def fields : List String :=
  ["enabled", "scaleDownEnabled", "minInstanceSize", "maxInstanceSize"]

/-- Reads compute scaling, every field of which has a default. -/
def ofJson? (j : Json) : Option ComputeScaling := do
  let r ← j.record? .lenient fields
  return {
    enabled := ← r.optional Json.bool? "enabled"
    scaleDownEnabled := ← r.optional Json.bool? "scaleDownEnabled"
    minInstanceSize := ← r.optional Json.text? "minInstanceSize"
    maxInstanceSize := ← r.optional Json.text? "maxInstanceSize"
  }

/-- Writes compute scaling without absent values. -/
def toJson (scaling : ComputeScaling) : Json :=
  .ofFields [
    ("enabled", Writing.compact.optional Json.bool scaling.enabled),
    ("scaleDownEnabled", Writing.compact.optional Json.bool scaling.scaleDownEnabled),
    ("minInstanceSize", Writing.compact.optional Json.str scaling.minInstanceSize),
    ("maxInstanceSize", Writing.compact.optional Json.str scaling.maxInstanceSize)]

end ComputeScaling

/-- Automatic scaling of the storage. -/
structure DiskScaling where
  enabled : Option Bool := none

namespace DiskScaling

/-- The fields in order. -/
def fields : List String :=
  ["enabled"]

/-- Reads disk scaling, every field of which has a default. -/
def ofJson? (j : Json) : Option DiskScaling := do
  let r ← j.record? .lenient fields
  return {
    enabled := ← r.optional Json.bool? "enabled"
  }

/-- Writes disk scaling without absent values. -/
def toJson (scaling : DiskScaling) : Json :=
  .ofFields [
    ("enabled", Writing.compact.optional Json.bool scaling.enabled)]

end DiskScaling

/-- Automatic scaling. -/
structure AutoScaling where
  compute : Option ComputeScaling := none
  diskGb : Option DiskScaling := none

namespace AutoScaling

/-- The fields in order. -/
def fields : List String :=
  ["compute", "diskGB"]

/-- Reads automatic scaling, every field of which has a default. -/
def ofJson? (j : Json) : Option AutoScaling := do
  let r ← j.record? .lenient fields
  return {
    compute := ← r.optional ComputeScaling.ofJson? "compute"
    diskGb := ← r.optional DiskScaling.ofJson? "diskGB"
  }

/-- Writes automatic scaling without absent values. -/
def toJson (scaling : AutoScaling) : Json :=
  .ofFields [
    ("compute", Writing.compact.optional ComputeScaling.toJson scaling.compute),
    ("diskGB", Writing.compact.optional DiskScaling.toJson scaling.diskGb)]

end AutoScaling

/-- The nodes in one region of a zone. -/
structure Region where
  providerName : Option String := none
  backingProviderName : Option String := none
  regionName : Option String := none
  priority : Option Int32 := none
  electableSpecs : Option Hardware := none
  readOnlySpecs : Option Hardware := none
  analyticsSpecs : Option Hardware := none
  autoScaling : Option AutoScaling := none

namespace Region

/-- The fields in order. -/
def fields : List String :=
  ["providerName", "backingProviderName", "regionName", "priority", "electableSpecs",
    "readOnlySpecs", "analyticsSpecs", "autoScaling"]

/-- Reads a region, every field of which has a default. -/
def ofJson? (j : Json) : Option Region := do
  let r ← j.record? .lenient fields
  return {
    providerName := ← r.optional Json.text? "providerName"
    backingProviderName := ← r.optional Json.text? "backingProviderName"
    regionName := ← r.optional Json.text? "regionName"
    priority := ← r.optional Json.int32? "priority"
    electableSpecs := ← r.optional Hardware.ofJson? "electableSpecs"
    readOnlySpecs := ← r.optional Hardware.ofJson? "readOnlySpecs"
    analyticsSpecs := ← r.optional Hardware.ofJson? "analyticsSpecs"
    autoScaling := ← r.optional AutoScaling.ofJson? "autoScaling"
  }

/-- Writes a region without absent values. -/
def toJson (region : Region) : Json :=
  .ofFields [
    ("providerName", Writing.compact.optional Json.str region.providerName),
    ("backingProviderName", Writing.compact.optional Json.str region.backingProviderName),
    ("regionName", Writing.compact.optional Json.str region.regionName),
    ("priority", Writing.compact.optional Json.int32 region.priority),
    ("electableSpecs", Writing.compact.optional Hardware.toJson region.electableSpecs),
    ("readOnlySpecs", Writing.compact.optional Hardware.toJson region.readOnlySpecs),
    ("analyticsSpecs", Writing.compact.optional Hardware.toJson region.analyticsSpecs),
    ("autoScaling", Writing.compact.optional AutoScaling.toJson region.autoScaling)]

end Region

/-- A zone of a cluster. -/
structure Zone where
  zoneName : Option String := none
  regionConfigs : List Region := []

namespace Zone

/-- The fields in order. -/
def fields : List String :=
  ["zoneName", "regionConfigs"]

/-- Reads a zone, every field of which has a default. -/
def ofJson? (j : Json) : Option Zone := do
  let r ← j.record? .lenient fields
  return {
    zoneName := ← r.optional Json.text? "zoneName"
    regionConfigs := ← r.list Region.ofJson? "regionConfigs"
  }

/-- Writes a zone without absent values. -/
def toJson (zone : Zone) : Json :=
  .ofFields [
    ("zoneName", Writing.compact.optional Json.str zone.zoneName),
    ("regionConfigs", Writing.compact.list Region.toJson zone.regionConfigs)]

end Zone

end AtlasManifests
