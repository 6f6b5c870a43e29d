import AtlasManifests.Error
import AtlasManifests.Kind
import AtlasManifests.Manifest.Context
import AtlasManifests.Text.Blank
import AtlasManifests.Yaml.Resolve

/-! # Configuration of an export

What an export needs besides a token: where the manifests go, which project and which
kinds are exported, and how. Every field but the project has a default that is of use.
A configuration is read from a JSON value or from the text of a file.
-/
namespace AtlasManifests

/-- The version of the operator that manifests are for by default. -/
def defaultOperatorVersion : String := "2.10.0"

/-- How the generated kinds are exported. -/
structure GeneratedConfig where
  /-- The version of the operator whose definitions count. -/
  crdVersion : String := defaultOperatorVersion
  /-- The tag that the content of an object stands under. -/
  apiTag : String := "v20250312"
  kinds : List GeneratedKind := GeneratedKind.all
  deriving DecidableEq

/-- What is exported, and how. -/
structure Config where
  /-- The namespace that the manifests go into. -/
  space : String := "default"
  operatorVersion : String := defaultOperatorVersion
  /-- Whether objects are linked to the project by its id. -/
  independent : Bool := false
  /-- Whether secrets hold their material. -/
  includeSecrets : Bool := false
  projectId : String := ""
  /-- The curated kinds to export, in any order. -/
  kinds : List CuratedKind := CuratedKind.all
  generated : Option GeneratedConfig := none
  pageSize : UInt32 := maxPageSize
  baseUrl : String := "https://cloud.mongodb.com/api/atlas/v2"
  /-- The key for the secret that gives access. -/
  credentials : Option Credentials := none

/-- A choice among the items of a list by their words. -/
def choiceOf? {α : Type} (all : List α) (word : α → String) (j : Json) : Option α :=
  j.choice?.bind fun name => all.find? fun x => word x == name

/-- A list of choices. -/
def choicesOf? {α : Type} (all : List α) (word : α → String) (j : Json) : Option (List α) :=
  j.items?.bind (·.mapM (choiceOf? all word))

namespace GeneratedConfig

/-- The fields in order. -/
def fields : List String := ["crdVersion", "apiVersionTag", "kinds"]

/-- Reads the part of a configuration on generated kinds. -/
def ofJson? (j : Json) : Option GeneratedConfig := do
  let r ← j.record? .strict fields
  let default : GeneratedConfig := {}
  return {
    crdVersion := ← r.withDefault Json.text? default.crdVersion "crdVersion"
    apiTag := ← r.withDefault Json.text? default.apiTag "apiVersionTag"
    kinds := ← r.withDefault (choicesOf? GeneratedKind.all GeneratedKind.word) default.kinds "kinds"
  }

/-- Writes the part of a configuration on generated kinds. -/
def toJson (c : GeneratedConfig) : Json :=
  .obj [("crdVersion", .str c.crdVersion), ("apiVersionTag", .str c.apiTag),
    ("kinds", .arr (c.kinds.map fun k => .str k.word))]

end GeneratedConfig

namespace Config

/-- The fields in order. -/
def fields : List String :=
  ["namespace", "operatorVersion", "independentResources", "includeSecrets", "projectId", "kinds",
    "schemaDriven", "pageSize", "baseUrl", "credentials"]

/-- Reads a configuration. -/
def ofJson? (j : Json) : Option Config := do
  let r ← j.record? .strict fields
  let default : Config := {}
  let text (standard : String) := r.withDefault Json.text? standard
  let optional {α : Type} (read : Json → Option α) :=
    r.withDefault (fun value => if value.isNull then some none else (read value).map some) none
  return {
    space := ← text default.space "namespace"
    operatorVersion := ← text default.operatorVersion "operatorVersion"
    independent := ← r.withDefault Json.bool? default.independent "independentResources"
    includeSecrets := ← r.withDefault Json.bool? default.includeSecrets "includeSecrets"
    projectId := ← text default.projectId "projectId"
    kinds := ← r.withDefault (choicesOf? CuratedKind.all CuratedKind.word) default.kinds "kinds"
    generated := ← optional GeneratedConfig.ofJson? "schemaDriven"
    pageSize := ← r.withDefault Json.uint32? default.pageSize "pageSize"
    baseUrl := ← text default.baseUrl "baseUrl"
    credentials := ← optional Credentials.ofJson? "credentials"
  }

/-- Writes a configuration. -/
def toJson (c : Config) : Json :=
  .ofFields [
    ("namespace", some (.str c.space)),
    ("operatorVersion", some (.str c.operatorVersion)),
    ("independentResources", some (.bool c.independent)),
    ("includeSecrets", some (.bool c.includeSecrets)),
    ("projectId", some (.str c.projectId)),
    ("kinds", some (.arr (c.kinds.map fun k => .str k.word))),
    ("schemaDriven", c.generated.map GeneratedConfig.toJson),
    ("pageSize", some (.int c.pageSize.toNat)),
    ("baseUrl", some (.str c.baseUrl)),
    ("credentials", c.credentials.map Credentials.toJson)]

/-- A record whose fields have to be distinct, none of which is filled in. -/
def distinctFields (fs : List (String × Shape)) : Shape :=
  .record true (fs.map fun (name, shape) => (name, .kept, shape))

/-- The shape of the part of a configuration on generated kinds. -/
def generatedShape : Shape :=
  distinctFields
    [("crdVersion", .text), ("apiVersionTag", .text),
      ("kinds", .list (.choice (GeneratedKind.all.map GeneratedKind.word)))]

/-- The shape of a configuration. -/
def shape : Shape :=
  .record true [
    ("namespace", .kept, .text),
    ("operatorVersion", .kept, .text),
    ("independentResources", .kept, .flag),
    ("includeSecrets", .kept, .flag),
    ("projectId", .kept, .text),
    ("kinds", .kept, .list (.choice (CuratedKind.all.map CuratedKind.word))),
    ("schemaDriven", .optional, generatedShape),
    ("pageSize", .kept, .uint32),
    ("baseUrl", .kept, .text),
    ("credentials", .optional, distinctFields (Credentials.fields.map (·, .text)))]

/-- Reads a configuration from the text of a file. -/
def ofYaml? (text : String) : Option Config :=
  (Yaml.datum? text).bind fun d => (shape.read d).bind ofJson?

/-- Reads a configuration from the content of a file, if there is one. -/
def ofFile (content : Option String) : Except Error Config :=
  match content with
  | none => .error (.io "no such file")
  | some text =>
    match ofYaml? text with
    | some config => .ok config
    | none => .error (.serialization "configuration")

/-- Whether a text is blank. -/
def isBlank (s : String) : Bool := (Text.trim s.toList).isEmpty

/-- The first fault of a configuration. -/
def fault? (c : Config) : Option ConfigFault :=
  if isBlank c.projectId then some .noProject
  else if isBlank c.space then some .noNamespace
  else if c.pageSize < 1 ∨ maxPageSize < c.pageSize then some (.pageSize c.pageSize)
  else if c.generated.any fun g => isBlank g.apiTag then some .noTag
  else none

/-- Whether a curated kind is exported. -/
def exports (c : Config) (kind : CuratedKind) : Bool := c.kinds.contains kind

/-- Whether a generated kind is exported. -/
def exportsGenerated (c : Config) (kind : GeneratedKind) : Bool :=
  c.generated.any fun g => g.kinds.contains kind

end Config

end AtlasManifests
