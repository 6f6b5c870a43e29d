import AtlasManifests.Inventory.Tag
import AtlasManifests.Json.Temporal

/-! # Projects

A project as the control plane describes it, and its feature settings.
-/
namespace AtlasManifests

/-- A project. -/
structure Project where
  id : String := ""
  name : String := ""
  orgId : String := ""
  clusterCount : Option Int64 := none
  created : Option Instant := none
  regionUsageRestrictions : Option String := none
  tags : List Tag := []
  withDefaultAlertsSettings : Option Bool := none

namespace Project

/-- The fields in order. -/
def fields : List String :=
  ["id", "name", "orgId", "clusterCount", "created", "regionUsageRestrictions", "tags",
    "withDefaultAlertsSettings"]

/-- Reads a project, every field of which has a default. -/
def ofJson? (j : Json) : Option Project := do
  let r ← j.record? .lenient fields
  return {
    id := ← r.text "id"
    name := ← r.text "name"
    orgId := ← r.text "orgId"
    clusterCount := ← r.optional Json.int64? "clusterCount"
    created := ← r.optional Instant.ofJson? "created"
    regionUsageRestrictions := ← r.optional Json.text? "regionUsageRestrictions"
    tags := ← r.list Tag.ofJson? "tags"
    withDefaultAlertsSettings := ← r.optional Json.bool? "withDefaultAlertsSettings"
  }

/-- Writes a project; some absent values are `null`, the others are left out. -/
def toJson (project : Project) : Json :=
  .ofFields [
    ("id", some (.str project.id)),
    ("name", some (.str project.name)),
    ("orgId", some (.str project.orgId)),
    ("clusterCount", Writing.explicit.optional Json.int64 project.clusterCount),
    ("created", Writing.explicit.optional Instant.toJson project.created),
    ("regionUsageRestrictions", Writing.compact.optional Json.str project.regionUsageRestrictions),
    ("tags", Writing.compact.list Tag.toJson project.tags),
    ("withDefaultAlertsSettings",
      Writing.compact.optional Json.bool project.withDefaultAlertsSettings)]

end Project

/-- The feature switches of a project. -/
structure ProjectSettings where
  isCollectDatabaseSpecificsStatisticsEnabled : Option Bool := none
  isDataExplorerEnabled : Option Bool := none
  isExtendedStorageSizesEnabled : Option Bool := none
  isPerformanceAdvisorEnabled : Option Bool := none
  isRealtimePerformancePanelEnabled : Option Bool := none
  isSchemaAdvisorEnabled : Option Bool := none

namespace ProjectSettings

/-- The fields in order. -/
def fields : List String :=
  ["isCollectDatabaseSpecificsStatisticsEnabled", "isDataExplorerEnabled",
    "isExtendedStorageSizesEnabled", "isPerformanceAdvisorEnabled",
    "isRealtimePerformancePanelEnabled", "isSchemaAdvisorEnabled"]

/-- Reads project settings; no field has to be there, in either reading. -/
def ofJson? (reading : Reading) (j : Json) : Option ProjectSettings := do
  let r ← j.record? reading fields
  return {
    isCollectDatabaseSpecificsStatisticsEnabled :=
      ← r.optional Json.bool? "isCollectDatabaseSpecificsStatisticsEnabled"
    isDataExplorerEnabled := ← r.optional Json.bool? "isDataExplorerEnabled"
    isExtendedStorageSizesEnabled := ← r.optional Json.bool? "isExtendedStorageSizesEnabled"
    isPerformanceAdvisorEnabled := ← r.optional Json.bool? "isPerformanceAdvisorEnabled"
    isRealtimePerformancePanelEnabled := ← r.optional Json.bool? "isRealtimePerformancePanelEnabled"
    isSchemaAdvisorEnabled := ← r.optional Json.bool? "isSchemaAdvisorEnabled"
  }

/-- Writes project settings; the writing decides on absent values. -/
def toJson (writing : Writing) (settings : ProjectSettings) : Json :=
  .ofFields [
    ("isCollectDatabaseSpecificsStatisticsEnabled",
      writing.optional Json.bool settings.isCollectDatabaseSpecificsStatisticsEnabled),
    ("isDataExplorerEnabled", writing.optional Json.bool settings.isDataExplorerEnabled),
    ("isExtendedStorageSizesEnabled",
      writing.optional Json.bool settings.isExtendedStorageSizesEnabled),
    ("isPerformanceAdvisorEnabled",
      writing.optional Json.bool settings.isPerformanceAdvisorEnabled),
    ("isRealtimePerformancePanelEnabled",
      writing.optional Json.bool settings.isRealtimePerformancePanelEnabled),
    ("isSchemaAdvisorEnabled", writing.optional Json.bool settings.isSchemaAdvisorEnabled)]

end ProjectSettings

end AtlasManifests
