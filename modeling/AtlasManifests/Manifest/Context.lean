import AtlasManifests.Label.Basic
import AtlasManifests.Manifest.Linkage
import AtlasManifests.Manifest.Secret

/-! # Context of a conversion

What all objects of one project have in common: where they go, how they are linked
and labelled, and how their names begin.
-/
namespace AtlasManifests

/-- What does not change while the objects of one project are converted. -/
structure Context where
  /-- The namespace that the objects go into. -/
  space : String
  projectId : String
  /-- The name of the project as it is known to its users. -/
  projectName : String
  operatorVersion : String
  /-- Whether objects are linked to the project by its id. -/
  independent : Bool
  /-- Whether secrets hold their material. -/
  includeSecrets : Bool

/-- The label with the operator version. -/
def versionLabel : String := "mongodb.com/atlas-resource-version"

/-- The label that marks credentials. -/
def typeLabel : String := "atlas.mongodb.com/type"

/-- The label with the id of the project. -/
def projectIdLabel : String := "atlas.mongodb.com/project-id"

/-- The label with the name of the project. -/
def projectNameLabel : String := "atlas.mongodb.com/project-name"

/-- A key to the programming interface of the control plane. -/
structure Credentials where
  orgId : String
  publicApiKey : String
  privateApiKey : String

namespace Credentials

/-- The fields in order. -/
def fields : List String := ["orgId", "publicApiKey", "privateApiKey"]

/-- Reads a key. -/
def ofJson? (j : Json) : Option Credentials := do
  let r ← j.record? .strict fields
  return ⟨← r.text "orgId", ← r.text "publicApiKey", ← r.text "privateApiKey"⟩

/-- Writes a key. -/
def toJson (c : Credentials) : Json :=
  .obj [("orgId", .str c.orgId), ("publicApiKey", .str c.publicApiKey),
    ("privateApiKey", .str c.privateApiKey)]

end Credentials

namespace Context

variable (ctx : Context)

/-- The name of the project as an object. -/
def projectResourceName : String := Label.normalize ctx.projectName

/-- The name of the secret that gives access to the project. -/
def credentialsSecretName : String := Label.normalizeParts [ctx.projectName, "credentials"]

/-- A name that begins with the one of the project. -/
def scopedName (parts : List String) : String := Label.normalizeParts (ctx.projectName :: parts)

/-- The link of an object to the project. -/
def linkage : Linkage :=
  .build ctx.independent ctx.projectId ctx.projectResourceName ctx.space ctx.credentialsSecretName

/-- The label of every object. -/
def versionLabels : List (String × String) := [(versionLabel, ctx.operatorVersion)]

/-- The metadata of an object with a name. -/
def metadata (name : String) : Metadata where
  name := some name
  space := some ctx.space
  labels := some ctx.versionLabels

/-- The labels of secrets, sorted. -/
def credentialsLabels : List (String × String) :=
  [(projectIdLabel, ctx.projectId), (projectNameLabel, ctx.projectResourceName),
    (typeLabel, "credentials"), (versionLabel, ctx.operatorVersion)]

/-- The secret with the material of one resource. Without material its keys are kept
with no bytes. -/
def resourceSecret (name : String) (fields : List (String × Option String)) : Secret :=
  .build name ctx.space
    (fields.map fun (key, value) =>
      (key, if ctx.includeSecrets then Secret.bytes (value.getD "") else []))
    ctx.credentialsLabels

/-- The secret that gives access to the project. It holds a key only if there is one
and secrets hold their material. -/
def credentialsSecret (credentials : Option Credentials) : Secret :=
  match credentials, ctx.includeSecrets with
  | some c, true =>
    .build ctx.credentialsSecretName ctx.space
      [("orgId", Secret.bytes c.orgId), ("publicApiKey", Secret.bytes c.publicApiKey),
        ("privateApiKey", Secret.bytes c.privateApiKey)]
      ctx.credentialsLabels
  | _, _ =>
    .placeholder ctx.credentialsSecretName ctx.space Credentials.fields ctx.credentialsLabels

end Context

end AtlasManifests
