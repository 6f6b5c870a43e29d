import AtlasManifests.Json.Basic

/-! # Pruning by a schema

What a schema lets through of a value: the members that it declares, at any depth, and
no null. A schema may also leave the members of an object open, or keep whatever there
is.
-/
namespace AtlasManifests.Schema

/-- Whether a schema keeps everything below it. -/
def keepsUnknown (schema : Json) : Bool :=
  ((schema.get? "x-kubernetes-preserve-unknown-fields").bind Json.bool?) == some true

/-- The type that a schema asks for. -/
def typeOf? (schema : Json) : Option String := (schema.get? "type").bind Json.text?

/-- The members that a schema declares. -/
def propertiesOf? (schema : Json) : Option (List (String × Json)) :=
  (schema.get? "properties").bind Json.members?

/-- Whether a schema may hold for objects. -/
def allowsObject (schema : Json) : Bool :=
  match typeOf? schema with
  | none => true
  | some type => type == "object"

/-- Whether a schema without declared members leaves them open. -/
def isOpen (schema : Json) : Bool := (schema.get? "additionalProperties").isSome

mutual

/-- What a schema lets through of a value. -/
def prune (schema : Json) : Json → Option Json
  | .null => none
  | .obj members =>
    if keepsUnknown schema then some (.obj members)
    else if !allowsObject schema then none
    else
      match propertiesOf? schema with
      | some properties => some (.obj (pruneMembers properties members))
      | none => if isOpen schema then some (.obj members) else none
  | .arr items =>
    if keepsUnknown schema then some (.arr items)
    else if typeOf? schema != some "array" then none
    else (schema.get? "items").map fun item => .arr (pruneItems item items)
  | .bool b => some (.bool b)
  | .num n => some (.num n)
  | .str s => some (.str s)

/-- What declared members let through of the members of an object. -/
def pruneMembers (properties : List (String × Json)) :
    List (String × Json) → List (String × Json)
  | [] => []
  | (name, value) :: rest =>
    let later := pruneMembers properties rest
    match properties.lookup name with
    | none => later
    | some schema =>
      match prune schema value with
      | none => later
      | some kept => (name, kept) :: later

/-- What a schema lets through of the items of an array. -/
def pruneItems (schema : Json) : List Json → List Json
  | [] => []
  | item :: rest =>
    match prune schema item with
    | none => pruneItems schema rest
    | some kept => kept :: pruneItems schema rest

end

end AtlasManifests.Schema
