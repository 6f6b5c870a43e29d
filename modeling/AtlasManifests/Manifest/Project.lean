import AtlasManifests.Inventory.Project
import AtlasManifests.Manifest.Resource
import AtlasManifests.Manifest.Tag

/-! # Project manifests

A project with the secret that gives access to it.
-/
namespace AtlasManifests

/-- The feature switches of a project that is asked for. -/
structure ProjectSettingsSpec where
  isCollectDatabaseSpecificsStatisticsEnabled : Option Bool := none
  isDataExplorerEnabled : Option Bool := none
  isExtendedStorageSizesEnabled : Option Bool := none
  isPerformanceAdvisorEnabled : Option Bool := none
  isRealtimePerformancePanelEnabled : Option Bool := none
  isSchemaAdvisorEnabled : Option Bool := none

namespace ProjectSettingsSpec

/-- The fields in order. -/
def fields : List String :=
  ["isCollectDatabaseSpecificsStatisticsEnabled", "isDataExplorerEnabled",
    "isExtendedStorageSizesEnabled", "isPerformanceAdvisorEnabled",
    "isRealtimePerformancePanelEnabled", "isSchemaAdvisorEnabled"]

/-- Reads project settings that are asked for; no field has to be there. -/
def ofJson? (j : Json) : Option ProjectSettingsSpec := do
  let r ← j.record? .strict fields
  return {
    isCollectDatabaseSpecificsStatisticsEnabled :=
      ← r.optional Json.bool? "isCollectDatabaseSpecificsStatisticsEnabled"
    isDataExplorerEnabled := ← r.optional Json.bool? "isDataExplorerEnabled"
    isExtendedStorageSizesEnabled := ← r.optional Json.bool? "isExtendedStorageSizesEnabled"
    isPerformanceAdvisorEnabled := ← r.optional Json.bool? "isPerformanceAdvisorEnabled"
    isRealtimePerformancePanelEnabled := ← r.optional Json.bool? "isRealtimePerformancePanelEnabled"
    isSchemaAdvisorEnabled := ← r.optional Json.bool? "isSchemaAdvisorEnabled"
  }

/-- Writes project settings that are asked for without absent values. -/
def toJson (settings : ProjectSettingsSpec) : Json :=
  .ofFields [
    ("isCollectDatabaseSpecificsStatisticsEnabled",
      Writing.compact.optional Json.bool settings.isCollectDatabaseSpecificsStatisticsEnabled),
    ("isDataExplorerEnabled", Writing.compact.optional Json.bool settings.isDataExplorerEnabled),
    ("isExtendedStorageSizesEnabled",
      Writing.compact.optional Json.bool settings.isExtendedStorageSizesEnabled),
    ("isPerformanceAdvisorEnabled",
      Writing.compact.optional Json.bool settings.isPerformanceAdvisorEnabled),
    ("isRealtimePerformancePanelEnabled",
      Writing.compact.optional Json.bool settings.isRealtimePerformancePanelEnabled),
    ("isSchemaAdvisorEnabled",
      Writing.compact.optional Json.bool settings.isSchemaAdvisorEnabled)]

/-- The settings that ask for some as they are. -/
def ofSettings (settings : ProjectSettings) : ProjectSettingsSpec where
  isCollectDatabaseSpecificsStatisticsEnabled :=
    settings.isCollectDatabaseSpecificsStatisticsEnabled
  isDataExplorerEnabled := settings.isDataExplorerEnabled
  isExtendedStorageSizesEnabled := settings.isExtendedStorageSizesEnabled
  isPerformanceAdvisorEnabled := settings.isPerformanceAdvisorEnabled
  isRealtimePerformancePanelEnabled := settings.isRealtimePerformancePanelEnabled
  isSchemaAdvisorEnabled := settings.isSchemaAdvisorEnabled

end ProjectSettingsSpec

/-- What is asked for of a project. -/
structure ProjectSpec where
  name : String
  connectionSecretRef : Option Reference := none
  regionUsageRestrictions : Option String := none
  withDefaultAlertsSettings : Bool
  settings : Option ProjectSettingsSpec := none
  tags : List TagSpec

namespace ProjectSpec

/-- The fields in order. -/
def fields : List String :=
  ["name", "connectionSecretRef", "regionUsageRestrictions", "withDefaultAlertsSettings",
    "settings", "tags"]

/-- Reads a project specification; `name` has to be there. -/
def ofJson? (j : Json) : Option ProjectSpec := do
  let r ← j.record? .strict fields
  return {
    name := ← r.text "name"
    connectionSecretRef := ← r.optional Reference.ofJson? "connectionSecretRef"
    regionUsageRestrictions := ← r.optional Json.text? "regionUsageRestrictions"
    withDefaultAlertsSettings := ← r.withDefault Json.bool? true "withDefaultAlertsSettings"
    settings := ← r.optional ProjectSettingsSpec.ofJson? "settings"
    tags := ← r.list TagSpec.ofJson? "tags"
  }

/-- Writes a project specification without absent values. -/
def toJson (spec : ProjectSpec) : Json :=
  .ofFields [
    ("name", some (.str spec.name)),
    ("connectionSecretRef", spec.connectionSecretRef.map Reference.toJson),
    ("regionUsageRestrictions", Writing.compact.optional Json.str spec.regionUsageRestrictions),
    ("withDefaultAlertsSettings", some (.bool spec.withDefaultAlertsSettings)),
    ("settings", Writing.compact.optional ProjectSettingsSpec.toJson spec.settings),
    ("tags", Writing.compact.list TagSpec.toJson spec.tags)]

end ProjectSpec

/-- A text that says something: neither empty nor the word for nothing. -/
def meaningful (text : Option String) : Option String :=
  text.filter fun s => s != "" && s != "NONE"

namespace Context

variable (ctx : Context)

/-- What is asked for of a project as it is. -/
def projectSpec (project : Project) (settings : Option ProjectSettings) : ProjectSpec where
  name := project.name
  connectionSecretRef := some ⟨ctx.credentialsSecretName⟩
  regionUsageRestrictions := meaningful project.regionUsageRestrictions
  withDefaultAlertsSettings := project.withDefaultAlertsSettings.getD true
  settings := settings.map .ofSettings
  tags := project.tags.map .ofTag

/-- The manifest of a project. -/
def project (project : Project) (settings : Option ProjectSettings) : Resource ProjectSpec :=
  ctx.resource ctx.projectResourceName (ctx.projectSpec project settings)

end Context

end AtlasManifests
