import AtlasManifests.Json.Basic

/-! # Schemas

What the values of a custom resource may be, and how a schema is written in the
definition of the resource: as an object with its members sorted by name, the fields of
a record among them.
-/
namespace AtlasManifests

/-- What a value may be. The later alternatives say more about a value that may be
something already. -/
inductive Schema where
  | text (format : Option String)
  | integer (format : Option String)
  | flag
  | list (item : Schema)
  /-- Fields with whether each of them has to be there. -/
  | record (fields : List (String × Bool × Schema))
  | nullable (value : Schema)
  | described (note : String) (value : Schema)
  | titled (title : String) (value : Schema)
  | defaulted (default : Json) (value : Schema)
  /-- Fields that the schema does not know are kept. -/
  | unchecked (value : Schema)
  /-- The fields of at least one of several lists have to be there. -/
  | oneOf (required : List (List String)) (value : Schema)

namespace Schema

/-- A text of any form. -/
def str : Schema := text none

/-- A field that has to be there. -/
def must (name : String) (value : Schema) : String × Bool × Schema := (name, true, value)

/-- A field that may be left out. -/
def may (name : String) (value : Schema) : String × Bool × Schema := (name, false, value)

/-- A list of texts as a value. -/
def namesJson (names : List String) : Json := .arr (names.map .str)

/-- A member that is left out without content. -/
def unlessEmpty {α : Type} (name : String) (content : List α) (value : Json) :
    List (String × Json) :=
  if content.isEmpty then [] else [(name, value)]

mutual

/-- The members of a schema, sorted by name. -/
def members : Schema → List (String × Json)
  | text format => (format.map fun f => ("format", Json.str f)).toList ++ [("type", .str "string")]
  | integer format =>
    (format.map fun f => ("format", Json.str f)).toList ++ [("type", .str "integer")]
  | flag => [("type", .str "boolean")]
  | list item => [("items", .obj item.members), ("type", .str "array")]
  | record fields =>
    let required := ((Assoc.ofList fields).filter (·.2.1)).map (·.1)
    unlessEmpty "properties" fields (.obj (properties fields)) ++
      unlessEmpty "required" required (namesJson required) ++ [("type", .str "object")]
  | nullable value => Assoc.insert "nullable" (.bool true) value.members
  | described note value => Assoc.insert "description" (.str note) value.members
  | titled title value => Assoc.insert "title" (.str title) value.members
  | defaulted default value => Assoc.insert "default" default value.members
  | unchecked value =>
    Assoc.insert "x-kubernetes-preserve-unknown-fields" (.bool true) value.members
  | oneOf required value =>
    let alternatives := required.map fun names => Json.obj [("required", namesJson names)]
    Assoc.insert "anyOf" (.arr alternatives) value.members

/-- The fields of a record, sorted by name. -/
def properties : List (String × Bool × Schema) → List (String × Json)
  | [] => []
  | (name, _, value) :: rest => Assoc.insert name (.obj value.members) (properties rest)

end

/-- Writes a schema. -/
def toJson (s : Schema) : Json := .obj s.members

end Schema

end AtlasManifests
