import AtlasManifests.Manifest.Metadata

/-! # Secrets

Objects that hold named bytes. `build` makes the secrets of an export: opaque ones
with a name, a namespace, labels and data.
-/
namespace AtlasManifests

/-- A secret. The data are sorted by their keys. -/
structure Secret where
  metadata : Metadata
  data : Option (List (String × List UInt8)) := none
  immutable : Option Bool := none
  texts : Option (List (String × String)) := none
  type : Option String := none

namespace Secret

/-- The bytes of a text. -/
def bytes (s : String) : List UInt8 := s.toUTF8.toList

/-- Bytes as they are written. -/
def bytesJson (value : List UInt8) : Json := .str (String.ofList (Base64.encode value))

/-- Bytes as they are read. -/
def bytes? (j : Json) : Option (List UInt8) := j.text?.bind fun s => Base64.decode s.toList

/-- Writes a secret. -/
def toJson (s : Secret) : Json :=
  .ofFields [
    ("apiVersion", some (.str "v1")),
    ("kind", some (.str "Secret")),
    ("data", s.data.map fun data => .obj (data.map fun (k, v) => (k, bytesJson v))),
    ("immutable", s.immutable.map .bool),
    ("metadata", some s.metadata.toJson),
    ("stringData", s.texts.map ofTextMembers),
    ("type", s.type.map .str)]

/-- The secret of a typed form. -/
def ofTyped (j : Json) : Secret where
  metadata := .ofTyped ((j.get? "metadata").getD .empty)
  data :=
    ((j.get? "data").bind Json.members?).bind fun ms => ms.mapM fun (k, v) => (bytes? v).map (k, ·)
  immutable := (j.get? "immutable").bind Json.bool?
  texts := (j.get? "stringData").bind textMembers?
  type := (j.get? "type").bind Json.text?

/-- Reads a secret. -/
def ofJson? (j : Json) : Option Secret := (Shape.secret.read (.ofJson j)).map ofTyped

/-- An opaque secret. Of data with one key the last count. -/
def build (name space : String) (data : List (String × List UInt8))
    (labels : List (String × String)) : Secret where
  metadata := { name := some name, space := some space, labels := some labels }
  data := some (Assoc.ofList data)
  type := some "Opaque"

/-- A secret with keys and no bytes under them. -/
def placeholder (name space : String) (keys : List String) (labels : List (String × String)) :
    Secret :=
  build name space (keys.map fun k => (k, [])) labels

end Secret

end AtlasManifests
