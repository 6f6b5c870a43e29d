import AtlasManifests.Definition.Basic

/-! # Embedded definitions

The definitions of the generated kinds that come with each version of the operator.
What is asked for of an object stands under the version of the programming interface
that it belongs to, beside the secret that gives access.
-/
namespace AtlasManifests.Embedded

open Schema

/-- A reference by name. -/
def reference : Schema := record [may "name" str]

/-- A key with a value. -/
def tag : Schema := record [may "key" str, may "value" str]

/-- What objects look like whose content stands under a tag. -/
def frame (apiTag : String) (content : Schema) : Schema :=
  record
    [may "apiVersion" str, may "kind" str, may "metadata" (record []),
      may "spec" (record [may "connectionSecretRef" reference, may apiTag content]),
      may "status" (unchecked (record []))]

/-- The content of a group. -/
def group : Schema :=
  record
    [may "entry" (record
        [may "name" str, may "orgId" str, may "regionUsageRestrictions" str,
          may "tags" (list tag), may "withDefaultAlertsSettings" flag]),
      may "projectOwnerId" str]

/-- A region of a zone of a cluster. -/
def region : Schema :=
  record
    [may "providerName" str, may "regionName" str, may "priority" (integer none),
      may "electableSpecs" (record
        [may "instanceSize" str, may "nodeCount" (integer none), may "diskIOPS" (integer none)]),
      may "readOnlySpecs" (record [may "instanceSize" str, may "nodeCount" (integer none)])]

/-- The content of a cluster. -/
def cluster : Schema :=
  record
    [may "groupId" str, may "groupRef" reference,
      may "entry" (record
        [may "name" str, may "clusterType" str, may "mongoDBMajorVersion" str,
          may "backupEnabled" flag, may "paused" flag, may "pitEnabled" flag,
          may "terminationProtectionEnabled" flag, may "versionReleaseSystem" str,
          may "replicationSpecs" (list (record
            [may "zoneName" str, may "regionConfigs" (list region)])),
          may "tags" (list tag)])]

/-- The group that generated kinds belong to. -/
def apiGroup : String := "atlas.generated.mongodb.com"

/-- The definition of a generated kind for a version of the operator. -/
def definition (kind plural singular operator : String) (versions : List Json) : Definition :=
  .ofParts
    [("labels", .obj [("mongodb.com/atlas-resource-version", .str operator)]),
      ("name", .str (plural ++ "." ++ apiGroup))]
    apiGroup
    [("kind", .str kind), ("listKind", .str (kind ++ "List")), ("plural", .str plural),
      ("singular", .str singular)]
    versions

/-- The first version of a kind, with content under the usual tag. -/
def firstVersion (content : Schema) : Json :=
  Definition.version none "v1" true (frame "v20250312" content)

/-- The definition of groups for a version of the operator, with a later version if it
has one. -/
def groups (operator : String) (later : List Json) : Definition :=
  definition "Group" "groups" "group" operator (firstVersion group :: later)

/-- The definition of clusters for a version of the operator. -/
def clusters (operator : String) : Definition :=
  definition "Cluster" "clusters" "cluster" operator [firstVersion cluster]

/-- The second version of groups, with content under a later tag. -/
def secondGroups : Json := Definition.version none "v2" false (frame "v20250810" group)

/-- All embedded definitions, each with its version of the operator and its kind. -/
def all : List (String × String × Definition) :=
  [("2.10.0", "Group", groups "2.10.0" []), ("2.10.0", "Cluster", clusters "2.10.0"),
    ("2.11.0", "Group", groups "2.11.0" [secondGroups]), ("2.11.0", "Cluster", clusters "2.11.0")]

end AtlasManifests.Embedded
