import AtlasManifests.Json.Record

/-! # Data federations

A federated database instance as the control plane describes it, with the stores that
it reads and the databases that it shows.
-/
namespace AtlasManifests

/-- Access to buckets through a role. -/
structure AwsAccess where
  roleId : Option String := none
  testS3Bucket : Option String := none

namespace AwsAccess

/-- The fields in order. -/
def fields : List String :=
  ["roleId", "testS3Bucket"]

/-- Reads access to AWS, every field of which has a default. -/
def ofJson? (j : Json) : Option AwsAccess := do
  let r ← j.record? .lenient fields
  return {
    roleId := ← r.optional Json.text? "roleId"
    testS3Bucket := ← r.optional Json.text? "testS3Bucket"
  }

/-- Writes access to AWS, with `null` for absent values. -/
def toJson (access : AwsAccess) : Json :=
  .ofFields [
    ("roleId", Writing.explicit.optional Json.str access.roleId),
    ("testS3Bucket", Writing.explicit.optional Json.str access.testS3Bucket)]

end AwsAccess

/-- Access to the storage of a provider. -/
structure CloudAccess where
  aws : Option AwsAccess := none

namespace CloudAccess

/-- The fields in order. -/
def fields : List String :=
  ["aws"]

/-- Reads access to clouds, every field of which has a default. -/
def ofJson? (j : Json) : Option CloudAccess := do
  let r ← j.record? .lenient fields
  return {
    aws := ← r.optional AwsAccess.ofJson? "aws"
  }

/-- Writes access to clouds, with `null` for absent values. -/
def toJson (access : CloudAccess) : Json :=
  .ofFields [
    ("aws", Writing.explicit.optional AwsAccess.toJson access.aws)]

end CloudAccess

/-- Where queries run. -/
structure ProcessingRegion where
  cloudProvider : Option String := none
  region : Option String := none

namespace ProcessingRegion

/-- The fields in order. -/
def fields : List String :=
  ["cloudProvider", "region"]

/-- Reads a processing region, every field of which has a default. -/
def ofJson? (j : Json) : Option ProcessingRegion := do
  let r ← j.record? .lenient fields
  return {
    cloudProvider := ← r.optional Json.text? "cloudProvider"
    region := ← r.optional Json.text? "region"
  }

/-- Writes a processing region, with `null` for absent values. -/
def toJson (region : ProcessingRegion) : Json :=
  .ofFields [
    ("cloudProvider", Writing.explicit.optional Json.str region.cloudProvider),
    ("region", Writing.explicit.optional Json.str region.region)]

end ProcessingRegion

/-- A part of a store that a collection shows. -/
structure DataSource where
  storeName : Option String := none
  allowInsecure : Option Bool := none
  collection : Option String := none
  collectionRegex : Option String := none
  database : Option String := none
  databaseRegex : Option String := none
  defaultFormat : Option String := none
  path : Option String := none
  provenanceFieldName : Option String := none
  urls : List String := []

namespace DataSource

/-- The fields in order. -/
def fields : List String :=
  ["storeName", "allowInsecure", "collection", "collectionRegex", "database", "databaseRegex",
    "defaultFormat", "path", "provenanceFieldName", "urls"]

/-- Reads a data source, every field of which has a default. -/
def ofJson? (j : Json) : Option DataSource := do
  let r ← j.record? .lenient fields
  return {
    storeName := ← r.optional Json.text? "storeName"
    allowInsecure := ← r.optional Json.bool? "allowInsecure"
    collection := ← r.optional Json.text? "collection"
    collectionRegex := ← r.optional Json.text? "collectionRegex"
    database := ← r.optional Json.text? "database"
    databaseRegex := ← r.optional Json.text? "databaseRegex"
    defaultFormat := ← r.optional Json.text? "defaultFormat"
    path := ← r.optional Json.text? "path"
    provenanceFieldName := ← r.optional Json.text? "provenanceFieldName"
    urls := ← r.list Json.text? "urls"
  }

/-- Writes a data source, with `null` for absent values. -/
def toJson (source : DataSource) : Json :=
  .ofFields [
    ("storeName", Writing.explicit.optional Json.str source.storeName),
    ("allowInsecure", Writing.explicit.optional Json.bool source.allowInsecure),
    ("collection", Writing.explicit.optional Json.str source.collection),
    ("collectionRegex", Writing.explicit.optional Json.str source.collectionRegex),
    ("database", Writing.explicit.optional Json.str source.database),
    ("databaseRegex", Writing.explicit.optional Json.str source.databaseRegex),
    ("defaultFormat", Writing.explicit.optional Json.str source.defaultFormat),
    ("path", Writing.explicit.optional Json.str source.path),
    ("provenanceFieldName", Writing.explicit.optional Json.str source.provenanceFieldName),
    ("urls", Writing.explicit.list Json.str source.urls)]

end DataSource

/-- A collection of a federated database. -/
structure Collection where
  name : String := ""
  dataSources : List DataSource := []

namespace Collection

/-- The fields in order. -/
def fields : List String :=
  ["name", "dataSources"]

/-- Reads a collection, every field of which has a default. -/
def ofJson? (j : Json) : Option Collection := do
  let r ← j.record? .lenient fields
  return {
    name := ← r.text "name"
    dataSources := ← r.list DataSource.ofJson? "dataSources"
  }

/-- Writes a collection, with `null` for absent values. -/
def toJson (collection : Collection) : Json :=
  .ofFields [
    ("name", some (.str collection.name)),
    ("dataSources", Writing.explicit.list DataSource.toJson collection.dataSources)]

end Collection

/-- A view of a federated database. -/
structure View where
  name : String := ""
  source : Option String := none
  pipeline : Option String := none

namespace View

/-- The fields in order. -/
def fields : List String :=
  ["name", "source", "pipeline"]

/-- Reads a view, every field of which has a default. -/
def ofJson? (j : Json) : Option View := do
  let r ← j.record? .lenient fields
  return {
    name := ← r.text "name"
    source := ← r.optional Json.text? "source"
    pipeline := ← r.optional Json.text? "pipeline"
  }

/-- Writes a view, with `null` for absent values. -/
def toJson (view : View) : Json :=
  .ofFields [
    ("name", some (.str view.name)),
    ("source", Writing.explicit.optional Json.str view.source),
    ("pipeline", Writing.explicit.optional Json.str view.pipeline)]

end View

/-- A federated database. -/
structure Database where
  name : String := ""
  maxWildcardCollections : Option Int32 := none
  collections : List Collection := []
  views : List View := []

namespace Database

/-- The fields in order. -/
def fields : List String :=
  ["name", "maxWildcardCollections", "collections", "views"]

/-- Reads a database, every field of which has a default. -/
def ofJson? (j : Json) : Option Database := do
  let r ← j.record? .lenient fields
  return {
    name := ← r.text "name"
    maxWildcardCollections := ← r.optional Json.int32? "maxWildcardCollections"
    collections := ← r.list Collection.ofJson? "collections"
    views := ← r.list View.ofJson? "views"
  }

/-- Writes a database, with `null` for absent values. -/
def toJson (database : Database) : Json :=
  .ofFields [
    ("name", some (.str database.name)),
    ("maxWildcardCollections",
      Writing.explicit.optional Json.int32 database.maxWildcardCollections),
    ("collections", Writing.explicit.list Collection.toJson database.collections),
    ("views", Writing.explicit.list View.toJson database.views)]

end Database

/-- A store that a federation reads. -/
structure Store where
  name : String := ""
  provider : String := ""
  additionalStorageClasses : List String := []
  bucket : Option String := none
  delimiter : Option String := none
  includeTags : Option Bool := none
  keyPrefix : Option String := none
  isPublic : Option Bool := none
  region : Option String := none

namespace Store

/-- The fields in order. -/
def fields : List String :=
  ["name", "provider", "additionalStorageClasses", "bucket", "delimiter", "includeTags",
    "prefix", "public", "region"]

/-- Reads a store, every field of which has a default. -/
def ofJson? (j : Json) : Option Store := do
  let r ← j.record? .lenient fields
  return {
    name := ← r.text "name"
    provider := ← r.text "provider"
    additionalStorageClasses := ← r.list Json.text? "additionalStorageClasses"
    bucket := ← r.optional Json.text? "bucket"
    delimiter := ← r.optional Json.text? "delimiter"
    includeTags := ← r.optional Json.bool? "includeTags"
    keyPrefix := ← r.optional Json.text? "prefix"
    isPublic := ← r.optional Json.bool? "public"
    region := ← r.optional Json.text? "region"
  }

/-- Writes a store, with `null` for absent values. -/
def toJson (store : Store) : Json :=
  .ofFields [
    ("name", some (.str store.name)),
    ("provider", some (.str store.provider)),
    ("additionalStorageClasses", Writing.explicit.list Json.str store.additionalStorageClasses),
    ("bucket", Writing.explicit.optional Json.str store.bucket),
    ("delimiter", Writing.explicit.optional Json.str store.delimiter),
    ("includeTags", Writing.explicit.optional Json.bool store.includeTags),
    ("prefix", Writing.explicit.optional Json.str store.keyPrefix),
    ("public", Writing.explicit.optional Json.bool store.isPublic),
    ("region", Writing.explicit.optional Json.str store.region)]

end Store

/-- The databases and stores of a federation. -/
structure Storage where
  databases : List Database := []
  stores : List Store := []

namespace Storage

/-- The fields in order. -/
def fields : List String :=
  ["databases", "stores"]

/-- Reads a storage, every field of which has a default. -/
def ofJson? (j : Json) : Option Storage := do
  let r ← j.record? .lenient fields
  return {
    databases := ← r.list Database.ofJson? "databases"
    stores := ← r.list Store.ofJson? "stores"
  }

/-- Writes a storage, with `null` for absent values. -/
def toJson (storage : Storage) : Json :=
  .ofFields [
    ("databases", Writing.explicit.list Database.toJson storage.databases),
    ("stores", Writing.explicit.list Store.toJson storage.stores)]

end Storage

/-- A federated database instance. -/
structure Federation where
  name : String := ""
  groupId : Option String := none
  state : Option String := none
  cloudProviderConfig : Option CloudAccess := none
  dataProcessRegion : Option ProcessingRegion := none
  storage : Option Storage := none

namespace Federation

/-- The fields in order. -/
def fields : List String :=
  ["name", "groupId", "state", "cloudProviderConfig", "dataProcessRegion", "storage"]

/-- Reads a data federation, every field of which has a default. -/
def ofJson? (j : Json) : Option Federation := do
  let r ← j.record? .lenient fields
  return {
    name := ← r.text "name"
    groupId := ← r.optional Json.text? "groupId"
    state := ← r.optional Json.text? "state"
    cloudProviderConfig := ← r.optional CloudAccess.ofJson? "cloudProviderConfig"
    dataProcessRegion := ← r.optional ProcessingRegion.ofJson? "dataProcessRegion"
    storage := ← r.optional Storage.ofJson? "storage"
  }

/-- Writes a data federation, with `null` for absent values. -/
def toJson (federation : Federation) : Json :=
  .ofFields [
    ("name", some (.str federation.name)),
    ("groupId", Writing.explicit.optional Json.str federation.groupId),
    ("state", Writing.explicit.optional Json.str federation.state),
    ("cloudProviderConfig",
      Writing.explicit.optional CloudAccess.toJson federation.cloudProviderConfig),
    ("dataProcessRegion",
      Writing.explicit.optional ProcessingRegion.toJson federation.dataProcessRegion),
    ("storage", Writing.explicit.optional Storage.toJson federation.storage)]

end Federation

end AtlasManifests
