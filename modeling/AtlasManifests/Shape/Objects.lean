import AtlasManifests.Shape.Basic

/-! # Shapes of cluster objects

The metadata that every object has, secrets, and the definitions of custom
resources.
-/
namespace AtlasManifests.Shape

/-- A table of texts. -/
def texts : Shape := .table .text

/-- A record in which the last of several members with one name counts. -/
def fields (fs : List (String × Presence × Shape)) : Shape := .record false fs

/-- A text that is empty by default. -/
def emptyText : Presence := .plain (.str "")

/-- An entry on who manages which fields. -/
def managedFields : Shape :=
  fields
    [("apiVersion", .optional, .text), ("fieldsType", .optional, .text),
      ("fieldsV1", .optional, .free), ("manager", .optional, .text),
      ("operation", .optional, .text), ("subresource", .optional, .text),
      ("time", .optional, .instant)]

/-- A reference to an owner. -/
def ownerReference : Shape :=
  fields
    [("apiVersion", emptyText, .text), ("blockOwnerDeletion", .optional, .flag),
      ("controller", .optional, .flag), ("kind", emptyText, .text), ("name", emptyText, .text),
      ("uid", emptyText, .text)]

/-- Metadata. -/
def metadata : Shape :=
  fields
    [("annotations", .optional, texts), ("creationTimestamp", .optional, .instant),
      ("deletionGracePeriodSeconds", .optional, .int64), ("deletionTimestamp", .optional, .instant),
      ("finalizers", .optional, .list .text), ("generateName", .optional, .text),
      ("generation", .optional, .int64), ("labels", .optional, texts),
      ("managedFields", .optional, .list managedFields), ("name", .optional, .text),
      ("namespace", .optional, .text), ("ownerReferences", .optional, .list ownerReference),
      ("resourceVersion", .optional, .text), ("selfLink", .optional, .text),
      ("uid", .optional, .text)]

/-- A secret. -/
def secret : Shape :=
  fields
    [("apiVersion", .constant "v1", .text), ("kind", .constant "Secret", .text),
      ("data", .optional, .table .bytes), ("immutable", .optional, .flag),
      ("metadata", .plain .empty, metadata), ("stringData", .optional, texts),
      ("type", .optional, .text)]

/-- The names of a custom resource. -/
def resourceNames : Shape :=
  fields
    [("categories", .optional, .list .text), ("kind", emptyText, .text),
      ("listKind", .optional, .text), ("plural", emptyText, .text),
      ("shortNames", .optional, .list .text), ("singular", .optional, .text)]

/-- The names of a custom resource without any of them given. -/
def noNames : Json := .obj [("kind", .str ""), ("plural", .str "")]

/-- A service that converts between versions. -/
def conversion : Shape :=
  fields
    [("strategy", emptyText, .text),
      ("webhook", .optional, fields
        [("clientConfig", .optional, fields
          [("caBundle", .optional, .bytes),
            ("service", .optional, fields
              [("name", emptyText, .text), ("namespace", emptyText, .text),
                ("path", .optional, .text), ("port", .optional, .int32)]),
            ("url", .optional, .text)]),
          ("conversionReviewVersions", .plain (.arr []), .list .text)])]

/-- A version of a custom resource. -/
def version : Shape :=
  fields
    [("additionalPrinterColumns", .optional, .list (fields
        [("description", .optional, .text), ("format", .optional, .text),
          ("jsonPath", emptyText, .text), ("name", emptyText, .text),
          ("priority", .optional, .int32), ("type", emptyText, .text)])),
      ("deprecated", .optional, .flag), ("deprecationWarning", .optional, .text),
      ("name", emptyText, .text),
      ("schema", .optional, fields [("openAPIV3Schema", .optional, .schema)]),
      ("selectableFields", .optional, .list (fields [("jsonPath", emptyText, .text)])),
      ("served", .plain (.bool false), .flag), ("storage", .plain (.bool false), .flag),
      ("subresources", .optional, fields
        [("scale", .optional, fields
          [("labelSelectorPath", .optional, .text), ("specReplicasPath", emptyText, .text),
            ("statusReplicasPath", emptyText, .text)]),
          ("status", .optional, .free)])]

/-- What a definition asks for. -/
def definitionSpec : Shape :=
  fields
    [("conversion", .optional, conversion), ("group", emptyText, .text),
      ("names", .plain noNames, resourceNames), ("preserveUnknownFields", .optional, .flag),
      ("scope", emptyText, .text), ("versions", .plain (.arr []), .list version)]

/-- What a definition asks for without anything given. -/
def noSpec : Json :=
  .obj [("group", .str ""), ("names", noNames), ("scope", .str ""), ("versions", .arr [])]

/-- What has become of a definition. -/
def definitionStatus : Shape :=
  fields
    [("acceptedNames", .optional, resourceNames),
      ("conditions", .optional, .list (fields
        [("lastTransitionTime", .optional, .instant), ("message", .optional, .text),
          ("reason", .optional, .text), ("status", emptyText, .text), ("type", emptyText, .text)])),
      ("storedVersions", .optional, .list .text)]

/-- A definition of a custom resource. -/
def definition : Shape :=
  fields
    [("apiVersion", .constant "apiextensions.k8s.io/v1", .text),
      ("kind", .constant "CustomResourceDefinition", .text), ("metadata", .plain .empty, metadata),
      ("spec", .plain noSpec, definitionSpec), ("status", .optional, definitionStatus)]

end AtlasManifests.Shape
