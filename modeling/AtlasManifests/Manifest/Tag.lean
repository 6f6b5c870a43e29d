import AtlasManifests.Inventory.Tag

/-! # Tags that are asked for

Tags and labels in the manifests of projects, clusters and users.
-/
namespace AtlasManifests

/-- A key with a value that is asked for. -/
structure TagSpec where
  key : String
  value : String

namespace TagSpec

/-- The fields in order. -/
def fields : List String :=
  ["key", "value"]

/-- Reads a tag that is asked for; `key` and `value` have to be there. -/
def ofJson? (j : Json) : Option TagSpec := do
  let r ← j.record? .strict fields
  return {
    key := ← r.text "key"
    value := ← r.text "value"
  }

/-- Writes a tag that is asked for. -/
def toJson (t : TagSpec) : Json :=
  .ofFields [
    ("key", some (.str t.key)),
    ("value", some (.str t.value))]

/-- The tag that asks for a tag as it is. -/
def ofTag (t : Tag) : TagSpec where
  key := t.key
  value := t.value

end TagSpec

end AtlasManifests
