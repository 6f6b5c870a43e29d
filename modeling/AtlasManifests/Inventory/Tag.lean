import AtlasManifests.Json.Record

/-! # Tags

Pairs of a key and a value that are attached to projects, clusters and users.
-/
namespace AtlasManifests

/-- A key with a value. -/
structure Tag where
  key : String := ""
  value : String := ""

namespace Tag

/-- The fields in order. -/
def fields : List String :=
  ["key", "value"]

/-- Reads a tag, every field of which has a default. -/
def ofJson? (j : Json) : Option Tag := do
  let r ← j.record? .lenient fields
  return {
    key := ← r.text "key"
    value := ← r.text "value"
  }

/-- Writes a tag. -/
def toJson (t : Tag) : Json :=
  .ofFields [
    ("key", some (.str t.key)),
    ("value", some (.str t.value))]

end Tag

end AtlasManifests
