import AtlasManifests.Json.Record

/-! # References

How an object names another one. The link to its project is either a reference to
the project in the cluster, or the id of the project together with the secret that
gives access to it, and never both.
-/
namespace AtlasManifests

/-- A reference to an object in the same namespace, written as its name. -/
structure Reference where
  name : String
  deriving DecidableEq

namespace Reference

/-- Reads a reference. -/
def ofJson? (j : Json) : Option Reference := do
  let r ← j.record? .strict ["name"]
  return ⟨← r.text "name"⟩

/-- Writes a reference. -/
def toJson (r : Reference) : Json := .obj [("name", .str r.name)]

@[simp] theorem ofJson?_toJson (r : Reference) : ofJson? r.toJson = some r := rfl

end Reference

/-- How an object is linked to its project. -/
inductive Linkage where
  | external (projectId : String) (secret : Reference)
  | project (name : String) (space : Option String)
  deriving DecidableEq

namespace Linkage

/-- The names of the members of a link. -/
def members : List String := ["externalProjectRef", "connectionSecret", "projectRef"]

/-- The members of a link. -/
def fields : Linkage → List (String × Option Json)
  | external projectId secret =>
    [("externalProjectRef", some (.obj [("id", .str projectId)])),
      ("connectionSecret", some secret.toJson)]
  | project name space =>
    [("projectRef", some (.ofFields [("name", some (.str name)), ("namespace", space.map .str)]))]

/-- Writes a link on its own. -/
def toJson (l : Linkage) : Json := .ofFields l.fields

/-- Reads the id of a project outside of the cluster. -/
def externalId? (j : Json) : Option String := do
  let r ← j.record? .strict ["id"]
  r.text "id"

/-- Reads a reference to a project in the cluster. -/
def projectRef? (j : Json) : Option Linkage := do
  let r ← j.record? .strict ["name", "namespace"]
  return .project (← r.text "name") (← r.optional Json.text? "namespace")

/-- The first of the two kinds of link for which all members can be read, the one
from outside first. -/
def ofJson? (j : Json) : Option Linkage :=
  let outside := do
    let projectId ← externalId? (← j.get? "externalProjectRef")
    let secret ← Reference.ofJson? (← j.get? "connectionSecret")
    return external projectId secret
  outside <|> (j.get? "projectRef").bind projectRef?

/-- The id of the project, of a link from outside. -/
def externalProjectId : Linkage → Option String
  | external projectId _ => some projectId
  | project _ _ => none

/-- The secret of a link from outside. -/
def connectionSecret : Linkage → Option Reference
  | external _ secret => some secret
  | project _ _ => none

/-- The name and the namespace of a project in the cluster. -/
def projectRef : Linkage → Option (String × Option String)
  | external _ _ => none
  | project name space => some (name, space)

/-- The link that a mode asks for. -/
def build (independent : Bool) (projectId projectName space secretName : String) : Linkage :=
  if independent then external projectId ⟨secretName⟩ else project projectName (some space)

end Linkage

end AtlasManifests
