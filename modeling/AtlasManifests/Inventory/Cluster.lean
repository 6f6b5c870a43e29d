import AtlasManifests.Inventory.Tag
import AtlasManifests.Inventory.Topology

/-! # Clusters

A dedicated cluster as the control plane describes it.
-/
namespace AtlasManifests

/-- A dedicated cluster. -/
structure Cluster where
  id : Option String := none
  groupId : Option String := none
  name : String := ""
  clusterType : Option String := none
  mongoDBMajorVersion : Option String := none
  backupEnabled : Option Bool := none
  paused : Option Bool := none
  pitEnabled : Option Bool := none
  terminationProtectionEnabled : Option Bool := none
  versionReleaseSystem : Option String := none
  rootCertType : Option String := none
  encryptionAtRestProvider : Option String := none
  diskSizeGb : Option Binary64 := none
  stateName : Option String := none
  replicationSpecs : List Zone := []
  tags : List Tag := []
  labels : List Tag := []

namespace Cluster

/-- The fields in order. -/
def fields : List String :=
  ["id", "groupId", "name", "clusterType", "mongoDBMajorVersion", "backupEnabled", "paused",
    "pitEnabled", "terminationProtectionEnabled", "versionReleaseSystem", "rootCertType",
    "encryptionAtRestProvider", "diskSizeGB", "stateName", "replicationSpecs", "tags", "labels"]

/-- Reads a cluster, every field of which has a default. -/
def ofJson? (j : Json) : Option Cluster := do
  let r ← j.record? .lenient fields
  return {
    id := ← r.optional Json.text? "id"
    groupId := ← r.optional Json.text? "groupId"
    name := ← r.text "name"
    clusterType := ← r.optional Json.text? "clusterType"
    mongoDBMajorVersion := ← r.optional Json.text? "mongoDBMajorVersion"
    backupEnabled := ← r.optional Json.bool? "backupEnabled"
    paused := ← r.optional Json.bool? "paused"
    pitEnabled := ← r.optional Json.bool? "pitEnabled"
    terminationProtectionEnabled := ← r.optional Json.bool? "terminationProtectionEnabled"
    versionReleaseSystem := ← r.optional Json.text? "versionReleaseSystem"
    rootCertType := ← r.optional Json.text? "rootCertType"
    encryptionAtRestProvider := ← r.optional Json.text? "encryptionAtRestProvider"
    diskSizeGb := ← r.optional Json.float? "diskSizeGB"
    stateName := ← r.optional Json.text? "stateName"
    replicationSpecs := ← r.list Zone.ofJson? "replicationSpecs"
    tags := ← r.list Tag.ofJson? "tags"
    labels := ← r.list Tag.ofJson? "labels"
  }

/-- Writes a cluster without absent values. -/
def toJson (cluster : Cluster) : Json :=
  .ofFields [
    ("id", Writing.compact.optional Json.str cluster.id),
    ("groupId", Writing.compact.optional Json.str cluster.groupId),
    ("name", some (.str cluster.name)),
    ("clusterType", Writing.compact.optional Json.str cluster.clusterType),
    ("mongoDBMajorVersion", Writing.compact.optional Json.str cluster.mongoDBMajorVersion),
    ("backupEnabled", Writing.compact.optional Json.bool cluster.backupEnabled),
    ("paused", Writing.compact.optional Json.bool cluster.paused),
    ("pitEnabled", Writing.compact.optional Json.bool cluster.pitEnabled),
    ("terminationProtectionEnabled",
      Writing.compact.optional Json.bool cluster.terminationProtectionEnabled),
    ("versionReleaseSystem", Writing.compact.optional Json.str cluster.versionReleaseSystem),
    ("rootCertType", Writing.compact.optional Json.str cluster.rootCertType),
    ("encryptionAtRestProvider",
      Writing.compact.optional Json.str cluster.encryptionAtRestProvider),
    ("diskSizeGB", Writing.compact.optional Json.float cluster.diskSizeGb),
    ("stateName", Writing.compact.optional Json.str cluster.stateName),
    ("replicationSpecs", Writing.compact.list Zone.toJson cluster.replicationSpecs),
    ("tags", Writing.compact.list Tag.toJson cluster.tags),
    ("labels", Writing.compact.list Tag.toJson cluster.labels)]

end Cluster

end AtlasManifests
