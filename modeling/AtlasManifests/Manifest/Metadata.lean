import AtlasManifests.Json.Record
import AtlasManifests.Shape.Objects

/-! # Metadata

The name, the namespace and the labels of an object, and whatever else an object
that was read says about itself.
-/
namespace AtlasManifests

/-- The members of an object whose values are all texts. -/
def textMembers? (j : Json) : Option (List (String × String)) :=
  j.members?.bind fun ms => ms.mapM fun (k, v) => v.text?.map (k, ·)

/-- An object of texts. -/
def ofTextMembers (ms : List (String × String)) : Json := .obj (ms.map fun (k, v) => (k, .str v))

/-- Metadata. The other members are sorted by name and hold none of the three. -/
structure Metadata where
  name : Option String := none
  space : Option String := none
  labels : Option (List (String × String)) := none
  others : List (String × Json) := []

namespace Metadata

/-- The member for a value that may be missing, put into sorted members. -/
def put (name : String) (value : Option Json) (ms : List (String × Json)) : List (String × Json) :=
  match value with
  | none => ms
  | some value => Assoc.insert name value ms

/-- Writes metadata with its members sorted by name. -/
def toJson (m : Metadata) : Json :=
  .obj (put "labels" (m.labels.map ofTextMembers)
    (put "name" (m.name.map .str) (put "namespace" (m.space.map .str) m.others)))

/-- The metadata of a typed form. -/
def ofTyped (j : Json) : Metadata where
  name := (j.get? "name").bind Json.text?
  space := (j.get? "namespace").bind Json.text?
  labels := (j.get? "labels").bind textMembers?
  others :=
    ((j.members?).getD []).filter fun (k, _) => k != "name" && k != "namespace" && k != "labels"

/-- Reads metadata. -/
def ofJson? (j : Json) : Option Metadata := (Shape.metadata.read (.ofJson j)).map ofTyped

end Metadata

end AtlasManifests
