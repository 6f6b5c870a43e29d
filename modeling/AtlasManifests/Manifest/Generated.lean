import AtlasManifests.Manifest.Metadata

/-! # Generated manifests

Objects of kinds without a converter of their own. What they hold besides their
metadata is kept as it is.
-/
namespace AtlasManifests

/-- The version of an interface and a kind in it. -/
structure ObjectType where
  apiVersion : String
  kind : String
  deriving DecidableEq

/-- An object of any kind. The data are sorted by name. -/
structure Generated where
  type : Option ObjectType
  metadata : Metadata
  data : List (String × Json)

namespace Generated

/-- The kind of an object, which is empty if it does not say. -/
def kind (g : Generated) : String := (g.type.map (·.kind)).getD ""

/-- Writes an object. -/
def toJson (g : Generated) : Json :=
  .ofFields ([
    ("apiVersion", g.type.map fun t => .str t.apiVersion),
    ("kind", g.type.map fun t => .str t.kind),
    ("metadata", some g.metadata.toJson)] ++ g.data.map fun (name, value) => (name, some value))

/-- Reads an object. It has a type only if both the version and the kind are texts. -/
def ofJson? (j : Json) : Option Generated := do
  let members ← j.canonical.members?
  let metadata ← match members.lookup "metadata" with
    | none => some {}
    | some m => Metadata.ofJson? m
  let type := do
    return ⟨← (← members.lookup "apiVersion").text?, ← (← members.lookup "kind").text?⟩
  let names := ["apiVersion", "kind", "metadata"]
  return { type, metadata, data := members.filter fun (name, _) => !names.contains name }

end Generated

end AtlasManifests
