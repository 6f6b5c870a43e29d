import AtlasManifests.Definition.Schema
import AtlasManifests.Json.Pointer
import AtlasManifests.Json.Record
import AtlasManifests.Shape.Objects
import AtlasManifests.Yaml.Writer

/-! # Definitions of custom resources

A definition says how a custom resource is called and, by version, what its objects
look like. It is kept in its typed form, from which whatever such a definition has no
place for is gone.
-/
namespace AtlasManifests

/-- A definition in its typed form. -/
structure Definition where
  typed : Json

namespace Definition

variable (d : Definition)

/-- Reads a definition from what it may be read as. -/
def ofDatum? (value : Datum) : Option Definition := (Shape.definition.read value).map .mk

/-- Reads a definition from a JSON value. -/
def ofJson? (j : Json) : Option Definition := ofDatum? (.ofJson j)

/-- The document of a definition. -/
def yaml : String := Yaml.document d.typed

/-- The text below some members, one in the other, which is empty if there is none. -/
def textBelow (j : Json) (path : List String) : String := ((j.walk? path).bind Json.text?).getD ""

/-- The name of a definition. -/
def name : String := textBelow d.typed ["metadata", "name"]

/-- The group that the resource belongs to. -/
def group : String := textBelow d.typed ["spec", "group"]

/-- The kind of the objects. -/
def kind : String := textBelow d.typed ["spec", "names", "kind"]

/-- The versions in order. -/
def versions : List Json := ((d.typed.walk? ["spec", "versions"]).bind Json.items?).getD []

/-- The name of a version. -/
def versionName (version : Json) : String := textBelow version ["name"]

/-- What objects look like in a version. -/
def schemaOf? (version : Json) : Option Json := version.walk? ["schema", "openAPIV3Schema"]

/-- A definition made of its parts, each of them in its typed form. -/
def ofParts (metadata : List (String × Json)) (group : String) (names : List (String × Json))
    (versions : List Json) : Definition :=
  ⟨.obj [
    ("apiVersion", .str "apiextensions.k8s.io/v1"),
    ("kind", .str "CustomResourceDefinition"),
    ("metadata", .obj metadata),
    ("spec", .obj [
      ("group", .str group),
      ("names", .obj names),
      ("scope", .str "Namespaced"),
      ("versions", .arr versions)])]⟩

/-- A version that is served and has a status. -/
def version (columns : Option (List Json)) (name : String) (storage : Bool) (schema : Schema) :
    Json :=
  .ofFields [
    ("additionalPrinterColumns", columns.map .arr),
    ("name", some (.str name)),
    ("schema", some (.obj [("openAPIV3Schema", schema.toJson)])),
    ("served", some (.bool true)),
    ("storage", some (.bool storage)),
    ("subresources", some (.obj [("status", .empty)]))]

end Definition

end AtlasManifests
