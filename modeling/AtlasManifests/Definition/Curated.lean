import AtlasManifests.Definition.Basic
import AtlasManifests.Kind
import AtlasManifests.Yaml.Stream

/-! # Definitions of the curated kinds

What the objects of each curated kind look like, and the definitions that make them
known to a cluster. A definition allows exactly what the converters write: the fields of
its kind, and one of the two kinds of link to a project.
-/
namespace AtlasManifests.Curated

open Schema

/-- A text that may be null. -/
def maybeStr : Schema := nullable str

/-- A truth value that may be null. -/
def maybeFlag : Schema := nullable flag

/-- A whole number of 32 bits. -/
def int32 : Schema := integer (some "int32")

/-- A whole number of 64 bits. -/
def int64 : Schema := integer (some "int64")

/-- A switch in words. -/
def switch : Schema := described "\"enabled\" or \"disabled\"" maybeStr

/-- A reference by name. -/
def reference : Schema := record [must "name" (described "Object name" str)]

/-- A reference that says where it leads. -/
def sameNamespace : Schema := described "Reference to an object in the same namespace" reference

/-- A key with a value. -/
def tag : Schema :=
  described "Key/value pair used for tags and labels" (record [must "key" str, must "value" str])

/-- The hardware of nodes. -/
def hardware : Schema :=
  described "Node hardware" (nullable (record
    [may "diskIOPS" (nullable int64), may "ebsVolumeType" maybeStr, may "instanceSize" maybeStr,
     may "nodeCount" (nullable int32)]))

/-- How hardware grows with its load. -/
def autoScaling : Schema :=
  nullable (record
    [may "compute" (nullable (record
       [may "enabled" maybeFlag, may "maxInstanceSize" maybeStr, may "minInstanceSize" maybeStr,
        may "scaleDownEnabled" maybeFlag])),
     may "diskGB" (nullable (record [may "enabled" maybeFlag]))])

/-- A region of a zone. -/
def region : Schema :=
  described "One region of a zone" (record
    [may "analyticsSpecs" hardware, may "autoScaling" autoScaling,
     may "backingProviderName" maybeStr, may "electableSpecs" hardware,
     may "priority" (nullable int32), may "providerName" maybeStr, may "readOnlySpecs" hardware,
     may "regionName" maybeStr])

/-- A source of the documents of a collection. -/
def dataSource : Schema :=
  record
    [may "allowInsecure" maybeFlag, may "collection" maybeStr, may "collectionRegex" maybeStr,
     may "database" maybeStr, may "databaseRegex" maybeStr, may "defaultFormat" maybeStr,
     may "path" maybeStr, may "provenanceFieldName" maybeStr, may "storeName" maybeStr,
     may "urls" (list str)]

/-- A collection of a database. -/
def collection : Schema :=
  record [may "dataSources" (list dataSource), must "name" str]

/-- A database with its collections and views. -/
def database : Schema :=
  record
    [may "collections" (list collection), may "maxWildcardCollections" (nullable int32),
     must "name" str,
     may "views" (list (record
       [must "name" str, may "pipeline" maybeStr, may "source" maybeStr]))]

/-- A place where data are stored. -/
def store : Schema :=
  record
    [may "additionalStorageClasses" (list str), may "bucket" maybeStr, may "delimiter" maybeStr,
     may "includeTags" maybeFlag, must "name" str, may "prefix" maybeStr, must "provider" str,
     may "public" maybeFlag, may "region" maybeStr]

/-- The fields of a project. -/
def projectFields : List (String × Bool × Schema) :=
  [may "connectionSecretRef" (described "Credentials secret used to reach the project"
     (nullable reference)),
   must "name" (described "Project name in Atlas" str),
   may "regionUsageRestrictions" (described "Region usage restrictions (e.g. GOV_REGIONS_ONLY)"
     maybeStr),
   may "settings" (described "Project feature settings" (nullable (record
     [may "isCollectDatabaseSpecificsStatisticsEnabled" maybeFlag,
      may "isDataExplorerEnabled" maybeFlag, may "isExtendedStorageSizesEnabled" maybeFlag,
      may "isPerformanceAdvisorEnabled" maybeFlag,
      may "isRealtimePerformancePanelEnabled" maybeFlag,
      may "isSchemaAdvisorEnabled" maybeFlag]))),
   may "tags" (described "Project tags" (list tag)),
   may "withDefaultAlertsSettings" (described "Create the default Atlas alert configurations"
     (defaulted (.bool true) flag))]

/-- The fields of an access list. -/
def accessListFields : List (String × Bool × Schema) :=
  [must "entries" (described "Access list entries"
     (list (described "One access list entry; exactly one of the address fields is set" (record
     [may "awsSecurityGroup" maybeStr, may "cidrBlock" maybeStr, may "comment" maybeStr,
      may "deleteAfterDate" (nullable (text (some "date-time"))), may "ipAddress" maybeStr]))))]

/-- The fields of a deployment. -/
def deploymentFields : List (String × Bool × Schema) :=
  [must "deploymentSpec" (described "Advanced (dedicated) deployment configuration" (record
     [may "backupEnabled" maybeFlag,
      may "clusterType" (described "REPLICASET, SHARDED or GEOSHARDED" maybeStr),
      may "diskSizeGB" (nullable int64), may "encryptionAtRestProvider" maybeStr,
      may "labels" (list tag), may "mongoDBMajorVersion" maybeStr,
      must "name" (described "Cluster name in Atlas" str), may "paused" maybeFlag,
      may "pitEnabled" maybeFlag,
      may "replicationSpecs" (described "Zones of the cluster" (list (described "One zone" (record
        [may "regionConfigs" (list region), may "zoneName" maybeStr])))),
      may "rootCertType" maybeStr, may "tags" (list tag),
      may "terminationProtectionEnabled" maybeFlag, may "versionReleaseSystem" maybeStr]))]

/-- The fields of a database user. -/
def databaseUserFields : List (String × Bool × Schema) :=
  [may "awsIamType" maybeStr,
   may "databaseName" (described "Authentication database" (defaulted (.str "admin") str)),
   may "deleteAfterDate" (described "RFC 3339 expiry date" maybeStr), may "description" maybeStr,
   may "labels" (list tag), may "oidcAuthType" maybeStr,
   may "passwordSecretRef" (described "Secret holding the password (SCRAM users only)"
     (nullable reference)),
   may "roles" (described "Granted roles" (list (record
     [may "collectionName" maybeStr, must "databaseName" str, must "roleName" str]))),
   may "scopes" (described "Clusters and data lakes the user can access" (list (record
     [must "name" str, must "type" str]))),
   must "username" (described "User name" str), may "x509Type" maybeStr]

/-- The fields of a network container. -/
def containerFields : List (String × Bool × Schema) :=
  [may "awsConfiguration" (nullable (record
     [must "regionName" (described "Atlas region, e.g. US_EAST_1" str)])),
   may "azureConfiguration" (nullable (record
     [must "region" (described "Atlas region, e.g. US_EAST_2" str)])),
   may "cidrBlock" (described "Atlas side CIDR block" maybeStr),
   may "gcpConfiguration" (nullable (record
     [may "regions" (described "Regions the global container is restricted to" (list str))])),
   may "id" (described "Atlas id of an existing container" maybeStr),
   must "provider" (described "AWS, AZURE or GCP" str)]

/-- The fields of a network peering. -/
def peeringFields : List (String × Bool × Schema) :=
  [may "awsConfiguration" (nullable (record
     [must "accepterRegionName" str, must "awsAccountId" str, must "routeTableCidrBlock" str,
      must "vpcId" str])),
   may "azureConfiguration" (nullable (record
     [must "azureDirectoryId" str, must "azureSubscriptionId" str, must "resourceGroupName" str,
      must "vNetName" str])),
   must "containerRef" (described "Container the peering attaches to" (record
     [may "id" maybeStr, may "name" maybeStr])),
   may "gcpConfiguration" (nullable (record [must "gcpProjectId" str, must "networkName" str])),
   may "id" (described "Atlas id of an existing peering" maybeStr),
   must "provider" (described "AWS, AZURE or GCP" str)]

/-- The fields of an integration. -/
def integrationFields : List (String × Bool × Schema) :=
  [may "datadog" (nullable (record
     [must "apiKeySecretRef" sameNamespace, must "region" str,
      may "sendCollectionLatencyMetrics" switch, may "sendDatabaseMetrics" switch])),
   may "microsoftTeams" (nullable (record [must "urlSecretRef" sameNamespace])),
   may "newRelic" (nullable (record [must "credentialsSecretRef" sameNamespace])),
   may "opsGenie" (nullable (record [must "apiKeySecretRef" sameNamespace, must "region" str])),
   may "pagerDuty" (nullable (record
     [must "region" str, must "serviceKeySecretRef" sameNamespace])),
   may "prometheus" (nullable (record
     [may "enabled" switch, must "prometheusCredentialsSecretRef" sameNamespace,
      must "serviceDiscovery" str])),
   may "slack" (nullable (record
     [must "apiTokenSecretRef" sameNamespace, must "channelName" str, must "teamName" str])),
   must "type" (described "Integration type, e.g. DATADOG" str),
   may "victorOps" (nullable (record
     [must "apiKeySecretRef" sameNamespace, must "routingKey" str])),
   may "webhook" (nullable (record [must "urlSecretRef" sameNamespace]))]

/-- The fields of a data federation. -/
def federationFields : List (String × Bool × Schema) :=
  [may "cloudProviderConfig" (nullable (record
     [may "aws" (nullable (record [may "roleId" maybeStr, may "testS3Bucket" maybeStr]))])),
   may "dataProcessRegion" (nullable (record
     [may "cloudProvider" maybeStr, may "region" maybeStr])),
   must "name" (described "Federated database instance name" str),
   may "storage" (nullable (record [may "databases" (list database), may "stores" (list store)]))]

/-- The fields of a link to a project. -/
def linkFields : List (String × Bool × Schema) :=
  [may "connectionSecret" sameNamespace,
    may "externalProjectRef"
      (described "Reference to a project that is not managed in-cluster" (record
        [must "id" (described "Atlas project id" str)])),
    may "projectRef"
      (described "Dependent mode" (record
        [must "name" (described "Object name" str),
          may "namespace"
            (described "Object namespace; defaults to the referring object's namespace"
              maybeStr)]))]

/-- What is asked for of a kind that is linked to a project. -/
def linked (fields : List (String × Bool × Schema)) : Schema :=
  oneOf [["connectionSecret", "externalProjectRef"], ["projectRef"]] (record (linkFields ++ fields))

/-- What is asked for of a kind. -/
def spec : CuratedKind → Schema
  | .project => record projectFields
  | .ipAccessList => linked accessListFields
  | .deployment => linked deploymentFields
  | .databaseUser => linked databaseUserFields
  | .networkContainer => linked containerFields
  | .networkPeering => linked peeringFields
  | .thirdPartyIntegration => linked integrationFields
  | .dataFederation => linked federationFields

/-- What else is to be said of what is asked for. -/
def remark : CuratedKind → String
  | .thirdPartyIntegration =>
    "\n\n`type` selects which of the per-integration blocks is populated."
  | _ => ""

/-- The short name of a kind. -/
def shortName : CuratedKind → String
  | .project => "ap"
  | .ipAccessList => "aip"
  | .deployment => "ad"
  | .databaseUser => "adu"
  | .networkContainer => "anc"
  | .networkPeering => "anp"
  | .thirdPartyIntegration => "atpi"
  | .dataFederation => "adf"

/-- A column of a listing of objects. -/
def column (path name type : String) : Json :=
  .obj [("jsonPath", .str path), ("name", .str name), ("type", .str type)]

/-- The columns of a listing of objects of a kind. -/
def columns : CuratedKind → List Json
  | .project =>
    [column ".spec.name" "Atlas Name" "string", column ".metadata.creationTimestamp" "Age" "date"]
  | .deployment => [column ".spec.deploymentSpec.name" "Atlas Name" "string"]
  | .databaseUser => [column ".spec.username" "Username" "string"]
  | .networkContainer => [column ".spec.provider" "Provider" "string"]
  | .networkPeering => [column ".spec.provider" "Provider" "string"]
  | .thirdPartyIntegration => [column ".spec.type" "Type" "string"]
  | .ipAccessList => []
  | .dataFederation => []

/-- What has become of an object, which is left to the operator. -/
def status : Schema :=
  described
    ("Status of an exported resource\n\nStatus is owned by the operator once the manifest is " ++
      "applied, so the exporter always writes it empty.")
    (nullable (record []))

/-- What objects of a kind look like. -/
def schema (kind : CuratedKind) : Schema :=
  let name := kind.resource
  described ("Auto-generated derived type for " ++ name ++ "Spec via `CustomResource`")
    (titled name (record
      [must "spec" (described (name ++ " resource specification" ++ remark kind) (spec kind)),
        may "status" status]))

/-- The group that the curated kinds belong to. -/
def apiGroup : String := "atlas.mongodb.com"

/-- The name of a kind in small letters. -/
def singular (kind : CuratedKind) : String := kind.resource.map Char.toLower

/-- The definition of a kind. -/
def definition (kind : CuratedKind) : Definition :=
  let plural := singular kind ++ "s"
  .ofParts [("name", .str (plural ++ "." ++ apiGroup))] apiGroup
    [("categories", .arr []), ("kind", .str kind.resource), ("plural", .str plural),
      ("shortNames", namesJson [shortName kind]), ("singular", .str (singular kind))]
    [Definition.version (some (columns kind)) "v1" true (schema kind)]

/-- All definitions in order. -/
def all : List Definition := CuratedKind.all.map definition

/-- The text of all definitions, each after a separator. -/
def stream : String := String.join (all.map fun d => Yaml.separator ++ d.yaml)

end AtlasManifests.Curated
