import AtlasManifests.Json.Record
import AtlasManifests.Time.Instant

/-! # Times in JSON

An instant is a text of a JSON value.
-/
namespace AtlasManifests

/-- Reads an instant. -/
def Instant.ofJson? (j : Json) : Option Instant := j.text?.bind Instant.ofText?

/-- Writes an instant with `Z` for the zone. -/
def Instant.toJson (t : Instant) : Json := .str t.text

end AtlasManifests
