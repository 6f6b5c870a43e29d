import AtlasManifests.Inventory.Federation
import AtlasManifests.Manifest.Resource

/-! # Data federation manifests

A federated database instance as it is asked for, and how each part of an instance is
asked for.
-/
namespace AtlasManifests

/-- Access to buckets through a role, as it is asked for. -/
structure AwsAccessSpec where
  roleId : Option String := none
  testS3Bucket : Option String := none

namespace AwsAccessSpec

/-- The fields in order. -/
def fields : List String :=
  ["roleId", "testS3Bucket"]

/-- Reads access to AWS that is asked for; no field has to be there. -/
def ofJson? (j : Json) : Option AwsAccessSpec := do
  let r ← j.record? .strict fields
  return {
    roleId := ← r.optional Json.text? "roleId"
    testS3Bucket := ← r.optional Json.text? "testS3Bucket"
  }

/-- Writes access to AWS that is asked for without absent values. -/
def toJson (access : AwsAccessSpec) : Json :=
  .ofFields [
    ("roleId", Writing.compact.optional Json.str access.roleId),
    ("testS3Bucket", Writing.compact.optional Json.str access.testS3Bucket)]

/-- The access that asks for access to AWS as it is. -/
def ofAccess (access : AwsAccess) : AwsAccessSpec where
  roleId := access.roleId
  testS3Bucket := access.testS3Bucket

end AwsAccessSpec

/-- Access to the storage of a provider, as it is asked for. -/
structure CloudAccessSpec where
  aws : Option AwsAccessSpec := none

namespace CloudAccessSpec

/-- The fields in order. -/
def fields : List String :=
  ["aws"]

/-- Reads access to clouds that is asked for; no field has to be there. -/
def ofJson? (j : Json) : Option CloudAccessSpec := do
  let r ← j.record? .strict fields
  return {
    aws := ← r.optional AwsAccessSpec.ofJson? "aws"
  }

/-- Writes access to clouds that is asked for without absent values. -/
def toJson (access : CloudAccessSpec) : Json :=
  .ofFields [
    ("aws", Writing.compact.optional AwsAccessSpec.toJson access.aws)]

/-- The access that asks for access to clouds as it is, if it names any. -/
def ofAccess? (access : CloudAccess) : Option CloudAccessSpec :=
  access.aws.map fun aws => { aws := some (.ofAccess aws) }

end CloudAccessSpec

/-- Where queries are to run. -/
structure ProcessingRegionSpec where
  cloudProvider : Option String := none
  region : Option String := none

namespace ProcessingRegionSpec

/-- The fields in order. -/
def fields : List String :=
  ["cloudProvider", "region"]

/-- Reads a processing region that is asked for; no field has to be there. -/
def ofJson? (j : Json) : Option ProcessingRegionSpec := do
  let r ← j.record? .strict fields
  return {
    cloudProvider := ← r.optional Json.text? "cloudProvider"
    region := ← r.optional Json.text? "region"
  }

/-- Writes a processing region that is asked for without absent values. -/
def toJson (region : ProcessingRegionSpec) : Json :=
  .ofFields [
    ("cloudProvider", Writing.compact.optional Json.str region.cloudProvider),
    ("region", Writing.compact.optional Json.str region.region)]

/-- The processing region that asks for one as it is. -/
def ofRegion (region : ProcessingRegion) : ProcessingRegionSpec where
  cloudProvider := region.cloudProvider
  region := region.region

end ProcessingRegionSpec

/-- A part of a store that a collection is to show. -/
structure DataSourceSpec where
  storeName : Option String := none
  allowInsecure : Option Bool := none
  collection : Option String := none
  collectionRegex : Option String := none
  database : Option String := none
  databaseRegex : Option String := none
  defaultFormat : Option String := none
  path : Option String := none
  provenanceFieldName : Option String := none
  urls : List String

namespace DataSourceSpec

/-- The fields in order. -/
def fields : List String :=
  ["storeName", "allowInsecure", "collection", "collectionRegex", "database", "databaseRegex",
    "defaultFormat", "path", "provenanceFieldName", "urls"]

/-- Reads a data source that is asked for; no field has to be there. -/
def ofJson? (j : Json) : Option DataSourceSpec := do
  let r ← j.record? .strict fields
  return {
    storeName := ← r.optional Json.text? "storeName"
    allowInsecure := ← r.optional Json.bool? "allowInsecure"
    collection := ← r.optional Json.text? "collection"
    collectionRegex := ← r.optional Json.text? "collectionRegex"
    database := ← r.optional Json.text? "database"
    databaseRegex := ← r.optional Json.text? "databaseRegex"
    defaultFormat := ← r.optional Json.text? "defaultFormat"
    path := ← r.optional Json.text? "path"
    provenanceFieldName := ← r.optional Json.text? "provenanceFieldName"
    urls := ← r.list Json.text? "urls"
  }

/-- Writes a data source that is asked for without absent values. -/
def toJson (source : DataSourceSpec) : Json :=
  .ofFields [
    ("storeName", Writing.compact.optional Json.str source.storeName),
    ("allowInsecure", Writing.compact.optional Json.bool source.allowInsecure),
    ("collection", Writing.compact.optional Json.str source.collection),
    ("collectionRegex", Writing.compact.optional Json.str source.collectionRegex),
    ("database", Writing.compact.optional Json.str source.database),
    ("databaseRegex", Writing.compact.optional Json.str source.databaseRegex),
    ("defaultFormat", Writing.compact.optional Json.str source.defaultFormat),
    ("path", Writing.compact.optional Json.str source.path),
    ("provenanceFieldName", Writing.compact.optional Json.str source.provenanceFieldName),
    ("urls", Writing.compact.list Json.str source.urls)]

/-- The data source that asks for one as it is. -/
def ofSource (source : DataSource) : DataSourceSpec where
  storeName := source.storeName
  allowInsecure := source.allowInsecure
  collection := source.collection
  collectionRegex := source.collectionRegex
  database := source.database
  databaseRegex := source.databaseRegex
  defaultFormat := source.defaultFormat
  path := source.path
  provenanceFieldName := source.provenanceFieldName
  urls := source.urls

end DataSourceSpec

/-- A collection of a federated database that is asked for. -/
structure CollectionSpec where
  name : String
  dataSources : List DataSourceSpec

namespace CollectionSpec

/-- The fields in order. -/
def fields : List String :=
  ["name", "dataSources"]

/-- Reads a collection that is asked for; `name` has to be there. -/
def ofJson? (j : Json) : Option CollectionSpec := do
  let r ← j.record? .strict fields
  return {
    name := ← r.text "name"
    dataSources := ← r.list DataSourceSpec.ofJson? "dataSources"
  }

/-- Writes a collection that is asked for without absent values. -/
def toJson (collection : CollectionSpec) : Json :=
  .ofFields [
    ("name", some (.str collection.name)),
    ("dataSources", Writing.compact.list DataSourceSpec.toJson collection.dataSources)]

/-- The collection that asks for one as it is. -/
def ofCollection (collection : Collection) : CollectionSpec where
  name := collection.name
  dataSources := collection.dataSources.map .ofSource

end CollectionSpec

/-- A view of a federated database that is asked for. -/
structure ViewSpec where
  name : String
  source : Option String := none
  pipeline : Option String := none

namespace ViewSpec

/-- The fields in order. -/
def fields : List String :=
  ["name", "source", "pipeline"]

/-- Reads a view that is asked for; `name` has to be there. -/
def ofJson? (j : Json) : Option ViewSpec := do
  let r ← j.record? .strict fields
  return {
    name := ← r.text "name"
    source := ← r.optional Json.text? "source"
    pipeline := ← r.optional Json.text? "pipeline"
  }

/-- Writes a view that is asked for without absent values. -/
def toJson (view : ViewSpec) : Json :=
  .ofFields [
    ("name", some (.str view.name)),
    ("source", Writing.compact.optional Json.str view.source),
    ("pipeline", Writing.compact.optional Json.str view.pipeline)]

/-- The view that asks for one as it is. -/
def ofView (view : View) : ViewSpec where
  name := view.name
  source := view.source
  pipeline := view.pipeline

end ViewSpec

/-- A federated database that is asked for. -/
structure DatabaseSpec where
  name : String
  maxWildcardCollections : Option Int32 := none
  collections : List CollectionSpec
  views : List ViewSpec

namespace DatabaseSpec

/-- The fields in order. -/
def fields : List String :=
  ["name", "maxWildcardCollections", "collections", "views"]

/-- Reads a database that is asked for; `name` has to be there. -/
def ofJson? (j : Json) : Option DatabaseSpec := do
  let r ← j.record? .strict fields
  return {
    name := ← r.text "name"
    maxWildcardCollections := ← r.optional Json.int32? "maxWildcardCollections"
    collections := ← r.list CollectionSpec.ofJson? "collections"
    views := ← r.list ViewSpec.ofJson? "views"
  }

/-- Writes a database that is asked for without absent values. -/
def toJson (database : DatabaseSpec) : Json :=
  .ofFields [
    ("name", some (.str database.name)),
    ("maxWildcardCollections",
      Writing.compact.optional Json.int32 database.maxWildcardCollections),
    ("collections", Writing.compact.list CollectionSpec.toJson database.collections),
    ("views", Writing.compact.list ViewSpec.toJson database.views)]

/-- The database that asks for one as it is. -/
def ofDatabase (database : Database) : DatabaseSpec where
  name := database.name
  maxWildcardCollections := database.maxWildcardCollections
  collections := database.collections.map .ofCollection
  views := database.views.map .ofView

end DatabaseSpec

/-- A store that a federation is to read. -/
structure StoreSpec where
  name : String
  provider : String
  additionalStorageClasses : List String
  bucket : Option String := none
  delimiter : Option String := none
  includeTags : Option Bool := none
  keyPrefix : Option String := none
  isPublic : Option Bool := none
  region : Option String := none

namespace StoreSpec

/-- The fields in order. -/
def fields : List String :=
  ["name", "provider", "additionalStorageClasses", "bucket", "delimiter", "includeTags",
    "prefix", "public", "region"]

/-- Reads a store that is asked for; `name` and `provider` have to be there. -/
def ofJson? (j : Json) : Option StoreSpec := do
  let r ← j.record? .strict fields
  return {
    name := ← r.text "name"
    provider := ← r.text "provider"
    additionalStorageClasses := ← r.list Json.text? "additionalStorageClasses"
    bucket := ← r.optional Json.text? "bucket"
    delimiter := ← r.optional Json.text? "delimiter"
    includeTags := ← r.optional Json.bool? "includeTags"
    keyPrefix := ← r.optional Json.text? "prefix"
    isPublic := ← r.optional Json.bool? "public"
    region := ← r.optional Json.text? "region"
  }

/-- Writes a store that is asked for without absent values. -/
def toJson (store : StoreSpec) : Json :=
  .ofFields [
    ("name", some (.str store.name)),
    ("provider", some (.str store.provider)),
    ("additionalStorageClasses", Writing.compact.list Json.str store.additionalStorageClasses),
    ("bucket", Writing.compact.optional Json.str store.bucket),
    ("delimiter", Writing.compact.optional Json.str store.delimiter),
    ("includeTags", Writing.compact.optional Json.bool store.includeTags),
    ("prefix", Writing.compact.optional Json.str store.keyPrefix),
    ("public", Writing.compact.optional Json.bool store.isPublic),
    ("region", Writing.compact.optional Json.str store.region)]

/-- The store that asks for one as it is. -/
def ofStore (store : Store) : StoreSpec where
  name := store.name
  provider := store.provider
  additionalStorageClasses := store.additionalStorageClasses
  bucket := store.bucket
  delimiter := store.delimiter
  includeTags := store.includeTags
  keyPrefix := store.keyPrefix
  isPublic := store.isPublic
  region := store.region

end StoreSpec

/-- The databases and stores of a federation that is asked for. -/
structure StorageSpec where
  databases : List DatabaseSpec
  stores : List StoreSpec

namespace StorageSpec

/-- The fields in order. -/
def fields : List String :=
  ["databases", "stores"]

/-- Reads a storage that is asked for; no field has to be there. -/
def ofJson? (j : Json) : Option StorageSpec := do
  let r ← j.record? .strict fields
  return {
    databases := ← r.list DatabaseSpec.ofJson? "databases"
    stores := ← r.list StoreSpec.ofJson? "stores"
  }

/-- Writes a storage that is asked for without absent values. -/
def toJson (storage : StorageSpec) : Json :=
  .ofFields [
    ("databases", Writing.compact.list DatabaseSpec.toJson storage.databases),
    ("stores", Writing.compact.list StoreSpec.toJson storage.stores)]

/-- The storage that asks for one as it is. -/
def ofStorage (storage : Storage) : StorageSpec where
  databases := storage.databases.map .ofDatabase
  stores := storage.stores.map .ofStore

end StorageSpec

/-- What is asked for of a federation. -/
structure FederationSpec where
  linkage : Linkage
  name : String
  cloudProviderConfig : Option CloudAccessSpec := none
  dataProcessRegion : Option ProcessingRegionSpec := none
  storage : Option StorageSpec := none

namespace FederationSpec

/-- The fields in order, without the link to the project. -/
def fields : List String :=
  ["name", "cloudProviderConfig", "dataProcessRegion", "storage"]

/-- Reads a federation specification with its link to the project; `name` has to be there. -/
def ofJson? (j : Json) : Option FederationSpec := do
  let r ← j.linkedRecord? fields
  return {
    linkage := ← Linkage.ofJson? j
    name := ← r.text "name"
    cloudProviderConfig := ← r.optional CloudAccessSpec.ofJson? "cloudProviderConfig"
    dataProcessRegion := ← r.optional ProcessingRegionSpec.ofJson? "dataProcessRegion"
    storage := ← r.optional StorageSpec.ofJson? "storage"
  }

/-- Writes a federation specification, its link to the project first, without absent values. -/
def toJson (spec : FederationSpec) : Json :=
  .ofFields (spec.linkage.fields ++ [
    ("name", some (.str spec.name)),
    ("cloudProviderConfig",
      Writing.compact.optional CloudAccessSpec.toJson spec.cloudProviderConfig),
    ("dataProcessRegion",
      Writing.compact.optional ProcessingRegionSpec.toJson spec.dataProcessRegion),
    ("storage", Writing.compact.optional StorageSpec.toJson spec.storage)])

end FederationSpec

/-- The manifest of a federation. Access to the storage of a provider is asked for only
if there is any. -/
def Context.federation (ctx : Context) (source : Federation) : Resource FederationSpec :=
  ctx.resource (ctx.scopedName [source.name])
    { linkage := ctx.linkage
      name := source.name
      cloudProviderConfig := source.cloudProviderConfig.bind CloudAccessSpec.ofAccess?
      dataProcessRegion := source.dataProcessRegion.map .ofRegion
      storage := source.storage.map .ofStorage }

end AtlasManifests
