import AtlasManifests.Proofs.NearestIntegers
import AtlasManifests.Proofs.WrittenFields

/-! # What a deployment asks for

A deployment asks for a cluster as it is.  What a cluster has and what is asked for are records
apart, with writings of their own, so there is a lemma for each conversion between them: what comes
of a part is written as the part itself, edited.  Put together, the JSON of the deployment is that
of the cluster, edited (`Json.askedCluster`).  What only the control plane decides is left out, and
so is, region by region, hardware for no node; the size of the disks becomes a whole number; all
else stays, member by member and in the same order (`Context.deployment_asksAsIs`).
-/
namespace AtlasManifests

namespace Json

/-- A size as the nearest whole number. -/
def wholeSize : Json → Json
  | .num (.float x) => .int (nearest x.value)
  | j => j

/-- Whether hardware says that it is for some node. -/
def hasNodes (hardware : Json) : Bool :=
  match hardware.get? "nodeCount" with
  | some (.num (.int n)) => 0 < n
  | _ => false

/-- A region without the hardware that is for no node; that of electable nodes stays. -/
def askedRegion (region : Json) : Json :=
  (region.edit "readOnlySpecs" (Option.guard hasNodes)).edit "analyticsSpecs"
    (Option.guard hasNodes)

/-- A zone with its regions edited. -/
def askedZone (zone : Json) : Json :=
  zone.edit "regionConfigs" fun regions => some (regions.mapItems askedRegion)

/-- A cluster as it is asked for. -/
def askedCluster (cluster : Json) : Json :=
  ((cluster.without ["id", "groupId", "stateName"]).edit "diskSizeGB"
      fun size => some size.wholeSize).edit "replicationSpecs"
    fun zones => some (zones.mapItems askedZone)

end Json

/-! ## The parts of a topology -/

theorem TagSpec.toJson_ofTag (t : Tag) : (ofTag t).toJson = t.toJson := rfl

theorem HardwareSpec.toJson_ofHardware (hardware : Hardware) :
    (ofHardware hardware).toJson = hardware.toJson := rfl

theorem ComputeScalingSpec.toJson_ofScaling (scaling : ComputeScaling) :
    (ofScaling scaling).toJson = scaling.toJson := rfl

theorem DiskScalingSpec.toJson_ofScaling (scaling : DiskScaling) :
    (ofScaling scaling).toJson = scaling.toJson := rfl

theorem AutoScalingSpec.toJson_ofScaling (scaling : AutoScaling) :
    (ofScaling scaling).toJson = scaling.toJson := by
  rw [toJson, ofScaling, Writing.optional_map ComputeScalingSpec.toJson_ofScaling,
    Writing.optional_map DiskScalingSpec.toJson_ofScaling, AutoScaling.toJson]

theorem Hardware.hasNodes_toJson (hardware : Hardware) :
    hardware.toJson.hasNodes = hardware.isUsed := by
  have hnodup : fields.Nodup := by decide
  have hcount : hardware.toJson.get? "nodeCount" =
      Writing.compact.optional Json.int32 hardware.nodeCount :=
    Json.get?_ofFields_of_mem (by exact hnodup) (by simp)
  rw [Json.hasNodes, hcount, isUsed]
  cases hardware.nodeCount with
  | none => rfl
  | some n => rfl

/-- Hardware that is for some node is written as it is, and other hardware is not. -/
theorem HardwareSpec.optional_used (hardware : Option Hardware) :
    Writing.compact.optional toJson ((hardware.filter Hardware.isUsed).map ofHardware) =
      (Writing.compact.optional Hardware.toJson hardware).bind (Option.guard Json.hasNodes) := by
  rw [Writing.optional_map toJson_ofHardware,
    Writing.optional_bind_guard rfl Hardware.hasNodes_toJson]

theorem RegionSpec.toJson_ofRegion (region : Region) :
    (ofRegion region).toJson = region.toJson.askedRegion := by
  rw [toJson, ofRegion, Writing.optional_map HardwareSpec.toJson_ofHardware,
    HardwareSpec.optional_used, HardwareSpec.optional_used,
    Writing.optional_map AutoScalingSpec.toJson_ofScaling, Json.askedRegion, Region.toJson,
    Json.edit_ofFields, Json.edit_ofFields]
  rfl

theorem ZoneSpec.toJson_ofZone (zone : Zone) : (ofZone zone).toJson = zone.toJson.askedZone := by
  rw [toJson, ofZone, Writing.list_map RegionSpec.toJson_ofRegion, ← Writing.list_mapItems,
    Json.askedZone, Zone.toJson, Json.edit_ofFields]
  rfl

/-! ## Deployments -/

/-- The size of the disks is rounded as its JSON is. -/
theorem Cluster.wholeSize_written {size : Option Binary64}
    (h : ∀ x ∈ size, FitsInt64 x.value) :
    (Writing.compact.optional Json.float size).bind (fun size => some size.wholeSize) =
      Writing.compact.optional Json.int64 (size.map fun x => clampInt64 x.round) := by
  cases size with
  | none => rfl
  | some x =>
    have hround : (clampInt64 x.round).toInt = nearest x.value := toInt_clampInt64_round (h x rfl)
    exact congrArg (fun n => some (Json.int n)) hround.symm

theorem Deployment.toJson_ofCluster {cluster : Cluster}
    (h : ∀ size ∈ cluster.diskSizeGb, FitsInt64 size.value) :
    (ofCluster cluster).toJson = cluster.toJson.askedCluster := by
  rw [toJson, ofCluster, ← Cluster.wholeSize_written h,
    Writing.list_map ZoneSpec.toJson_ofZone, ← Writing.list_mapItems,
    Writing.list_map TagSpec.toJson_ofTag, Writing.list_map TagSpec.toJson_ofTag,
    Json.askedCluster, Cluster.toJson, Json.without_ofFields, Json.edit_ofFields,
    Json.edit_ofFields]
  rfl

/-- **A deployment asks for a cluster as it is.**  If the size of the disks is within 64 bits, the
deployment in the manifest of a cluster is written as the cluster itself, without its id, its group
and its state, with the size of the disks as the nearest whole number, and, in each region of each
zone, without the hardware for read-only and for analytics nodes that does not say it is for some
node. -/
theorem Context.deployment_asksAsIs (ctx : Context) (cluster : Cluster)
    (h : ∀ size ∈ cluster.diskSizeGb, FitsInt64 size.value) :
    (ctx.deployment cluster).spec.toJson.get? "deploymentSpec" =
      some cluster.toJson.askedCluster := by
  have hapart : Linkage.IsApart
      [("deploymentSpec", some (Deployment.ofCluster cluster).toJson)] :=
    ⟨List.nodup_singleton _, by simp [Linkage.members]⟩
  rw [← Deployment.toJson_ofCluster h]
  exact Linkage.get?_ofFields_append _ hapart (by decide)

/-- A cluster with disks of ten and a half, three electable nodes, no read-only ones, and some
hardware for analytics. -/
def Cluster.halfSize : Cluster where
  id := some "5f"
  groupId := some "1"
  name := "Orders"
  diskSizeGb := some ⟨false, 5910974510923776, -49, by decide⟩
  stateName := some "IDLE"
  replicationSpecs := [{ regionConfigs := [{
    electableSpecs := some { nodeCount := some 3 }
    readOnlySpecs := some { nodeCount := some 0 }
    analyticsSpecs := some { instanceSize := some "M30" } }] }]

/-- The cluster is asked for with disks of eleven, and with the electable nodes alone. -/
theorem Context.deployment_asksAsIs_halfSize :
    let ctx : Context :=
      { space := "atlas", projectId := "1", projectName := "Shop", operatorVersion := "2.10.0"
        independent := true, includeSecrets := false }
    (∀ size ∈ Cluster.halfSize.diskSizeGb, FitsInt64 size.value) ∧
    (ctx.deployment Cluster.halfSize).spec.toJson.get? "deploymentSpec" =
      some (.obj [("name", .str "Orders"), ("diskSizeGB", .int 11),
        ("replicationSpecs", .arr [.obj [("regionConfigs", .arr [
          .obj [("electableSpecs", .obj [("nodeCount", .int 3)])]])]])]) := by
  intro ctx
  have hfits : ∀ size ∈ Cluster.halfSize.diskSizeGb, FitsInt64 size.value := by
    rintro size ⟨⟩
    norm_num [FitsInt64, Binary64.value]
  refine ⟨hfits, ?_⟩
  rw [Context.deployment_asksAsIs ctx _ hfits, ← Deployment.toJson_ofCluster hfits]
  rfl

end AtlasManifests
