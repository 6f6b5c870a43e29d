import AtlasManifests.Inventory.Cluster
import AtlasManifests.Manifest.Resource
import AtlasManifests.Manifest.Tag
import AtlasManifests.Manifest.Topology

/-! # Deployment manifests

A dedicated cluster as it is asked for: as it is, without what only the control plane
decides.
-/
namespace AtlasManifests

/-- A dedicated cluster that is asked for. -/
structure Deployment where
  name : String
  clusterType : Option String := none
  mongoDBMajorVersion : Option String := none
  backupEnabled : Option Bool := none
  paused : Option Bool := none
  pitEnabled : Option Bool := none
  terminationProtectionEnabled : Option Bool := none
  versionReleaseSystem : Option String := none
  rootCertType : Option String := none
  encryptionAtRestProvider : Option String := none
  diskSizeGb : Option Int64 := none
  replicationSpecs : List ZoneSpec
  tags : List TagSpec
  labels : List TagSpec

namespace Deployment

/-- The fields in order. -/
def fields : List String :=
  ["name", "clusterType", "mongoDBMajorVersion", "backupEnabled", "paused", "pitEnabled",
    "terminationProtectionEnabled", "versionReleaseSystem", "rootCertType",
    "encryptionAtRestProvider", "diskSizeGB", "replicationSpecs", "tags", "labels"]

/-- Reads a deployment; `name` has to be there. -/
def ofJson? (j : Json) : Option Deployment := do
  let r ← j.record? .strict fields
  return {
    name := ← r.text "name"
    clusterType := ← r.optional Json.text? "clusterType"
    mongoDBMajorVersion := ← r.optional Json.text? "mongoDBMajorVersion"
    backupEnabled := ← r.optional Json.bool? "backupEnabled"
    paused := ← r.optional Json.bool? "paused"
    pitEnabled := ← r.optional Json.bool? "pitEnabled"
    terminationProtectionEnabled := ← r.optional Json.bool? "terminationProtectionEnabled"
    versionReleaseSystem := ← r.optional Json.text? "versionReleaseSystem"
    rootCertType := ← r.optional Json.text? "rootCertType"
    encryptionAtRestProvider := ← r.optional Json.text? "encryptionAtRestProvider"
    diskSizeGb := ← r.optional Json.int64? "diskSizeGB"
    replicationSpecs := ← r.list ZoneSpec.ofJson? "replicationSpecs"
    tags := ← r.list TagSpec.ofJson? "tags"
    labels := ← r.list TagSpec.ofJson? "labels"
  }

/-- Writes a deployment without absent values. -/
def toJson (deployment : Deployment) : Json :=
  .ofFields [
    ("name", some (.str deployment.name)),
    ("clusterType", Writing.compact.optional Json.str deployment.clusterType),
    ("mongoDBMajorVersion", Writing.compact.optional Json.str deployment.mongoDBMajorVersion),
    ("backupEnabled", Writing.compact.optional Json.bool deployment.backupEnabled),
    ("paused", Writing.compact.optional Json.bool deployment.paused),
    ("pitEnabled", Writing.compact.optional Json.bool deployment.pitEnabled),
    ("terminationProtectionEnabled",
      Writing.compact.optional Json.bool deployment.terminationProtectionEnabled),
    ("versionReleaseSystem", Writing.compact.optional Json.str deployment.versionReleaseSystem),
    ("rootCertType", Writing.compact.optional Json.str deployment.rootCertType),
    ("encryptionAtRestProvider",
      Writing.compact.optional Json.str deployment.encryptionAtRestProvider),
    ("diskSizeGB", Writing.compact.optional Json.int64 deployment.diskSizeGb),
    ("replicationSpecs", Writing.compact.list ZoneSpec.toJson deployment.replicationSpecs),
    ("tags", Writing.compact.list TagSpec.toJson deployment.tags),
    ("labels", Writing.compact.list TagSpec.toJson deployment.labels)]

end Deployment

/-- What is asked for of a deployment. -/
structure DeploymentSpec where
  linkage : Linkage
  deployment : Deployment

namespace DeploymentSpec

/-- The fields in order, without the link to the project. -/
def fields : List String :=
  ["deploymentSpec"]

/-- Reads a deployment specification with its link to the project; `deploymentSpec` has to be
there. -/
def ofJson? (j : Json) : Option DeploymentSpec := do
  let r ← j.linkedRecord? fields
  return {
    linkage := ← Linkage.ofJson? j
    deployment := ← r.required Deployment.ofJson? "deploymentSpec"
  }

/-- Writes a deployment specification, its link to the project first. -/
def toJson (spec : DeploymentSpec) : Json :=
  .ofFields (spec.linkage.fields ++ [
    ("deploymentSpec", some spec.deployment.toJson)])

end DeploymentSpec

/-- The word of 64 bits nearest to a number. -/
def clampInt64 (n : Int) : Int64 :=
  Int64.ofInt (max (-9223372036854775808) (min n 9223372036854775807))

/-- The deployment that asks for a cluster as it is. -/
def Deployment.ofCluster (cluster : Cluster) : Deployment where
  name := cluster.name
  clusterType := cluster.clusterType
  mongoDBMajorVersion := cluster.mongoDBMajorVersion
  backupEnabled := cluster.backupEnabled
  paused := cluster.paused
  pitEnabled := cluster.pitEnabled
  terminationProtectionEnabled := cluster.terminationProtectionEnabled
  versionReleaseSystem := cluster.versionReleaseSystem
  rootCertType := cluster.rootCertType
  encryptionAtRestProvider := cluster.encryptionAtRestProvider
  diskSizeGb := cluster.diskSizeGb.map fun size => clampInt64 size.round
  replicationSpecs := cluster.replicationSpecs.map .ofZone
  tags := cluster.tags.map .ofTag
  labels := cluster.labels.map .ofTag

/-- The manifest of a cluster. -/
def Context.deployment (ctx : Context) (cluster : Cluster) : Resource DeploymentSpec :=
  ctx.resource (ctx.scopedName [cluster.name])
    { linkage := ctx.linkage, deployment := .ofCluster cluster }

end AtlasManifests
