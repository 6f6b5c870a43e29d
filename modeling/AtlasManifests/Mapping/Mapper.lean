import AtlasManifests.Definition.Basic
import AtlasManifests.Error
import AtlasManifests.Json.Pointer
import AtlasManifests.Manifest.Context
import AtlasManifests.Manifest.Generated
import AtlasManifests.Mapping.Prune
import AtlasManifests.Mapping.References

/-! # Mappers

A mapper writes the objects of the control plane as manifests of a generated kind,
and reads them back. Below the tag of the programming interface, `entry` holds what the
schema lets through of the object; beside it stand parameters such as the id of the
group, or references in their place.
-/
namespace AtlasManifests

/-- What it takes to map the objects of one kind to manifests and back. -/
structure Mapper where
  registry : Registry
  type : ObjectType
  /-- The tag of the programming interface. -/
  tag : String
  /-- What is allowed below `spec`. -/
  specSchema : Json
  /-- What is allowed below the tag. -/
  tagSchema : Json

/-- An object of the control plane as a manifest holds it. -/
structure SourceObject where
  entry : Json
  /-- The parameters that lead to it, sorted by name. -/
  pathParams : List (String × String)

namespace Mapper

/-- The member that holds the object itself. -/
def entryKey : String := "entry"

/-- The member that names the secret which gives access. -/
def secretKey : String := "connectionSecretRef"

/-- A mapper by the first version of a definition. -/
def make (registry : Registry) (definition : Option Definition) (tag : String) :
    Except SetupFault Mapper := do
  let some d := definition | .error .noDefinition
  let some version := d.versions.head? | .error (.noVersions d.name)
  let name := Definition.versionName version
  let some schema := Definition.schemaOf? version | .error (.noSchema d.name name)
  let some specSchema := schema.walk? ["properties", "spec"] | .error (.noSpec d.name name)
  let some tagSchema := specSchema.pointer? ("/properties/" ++ tag)
    | .error (.noTag d.name name tag)
  return { registry, type := ⟨d.group ++ "/" ++ name, d.kind⟩, tag, specSchema, tagSchema }

variable (t : Mapper)

/-- What the schema declares for a member beside the entry. -/
def tagProperty? (name : String) : Option Json :=
  (t.tagSchema.get? "properties").bind (·.get? name)

/-- What the schema declares for a member beside the tag. -/
def specProperty? (name : String) : Option Json :=
  (t.specSchema.get? "properties").bind (·.get? name)

/-- A reference by name. -/
def referenceJson (name : String) : Json := .obj [("name", .str name)]

/-- The entry of an object, as far as the schema declares one. -/
def entryOf? (source : Json) : Option Json :=
  (t.tagProperty? entryKey).bind fun schema => Schema.prune schema source

/-- The reference that is written in place of a parameter: its member and its value.
Objects that are independent refer to nothing. -/
def referenceFor? (independent : Bool) (refs : ReferenceIndex) (param value : String) :
    Option (String × Json) :=
  if independent then none
  else do
    let rule ← t.registry.byId? param
    let _ ← t.tagProperty? rule.refField
    let target ← refs.nameOf? rule.targetKind value
    return (rule.refField, referenceJson target)

/-- The member that a parameter is written as. -/
def paramMember? (independent : Bool) (refs : ReferenceIndex) (param value : String) :
    Option (String × Json) :=
  match t.referenceFor? independent refs param value with
  | some member => some member
  | none => (t.tagProperty? param).map fun _ => (param, .str value)

/-- What stands below the tag: the entry and then the parameters, of which later ones
replace earlier ones. -/
def payload (independent : Bool) (refs : ReferenceIndex) (source : Json)
    (params : List (String × String)) : List (String × Json) :=
  let start := (t.entryOf? source).toList.map fun entry => (entryKey, entry)
  params.foldl (fun members (param, value) =>
    match t.paramMember? independent refs param value with
    | some (key, json) => Assoc.insert key json members
    | none => members) start

/-- What stands below `spec`. -/
def specMembers (ctx : Context) (payload : List (String × Json)) : List (String × Json) :=
  let members := [(t.tag, Json.obj payload)]
  if ctx.independent && (t.specProperty? secretKey).isSome then
    Assoc.insert secretKey (referenceJson ctx.credentialsSecretName) members
  else members

/-- The manifest of an object with a name and parameters. -/
def toManifest (ctx : Context) (name : String) (source : Json) (params : List (String × String))
    (refs : ReferenceIndex) : Generated where
  type := some t.type
  metadata := ctx.metadata name
  data :=
    [("spec", .obj (t.specMembers ctx (t.payload ctx.independent refs source params))),
      ("status", .empty)]

/-- What is read from one member below the tag. -/
def readMember (refs : ReferenceIndex) (name : String) (object : SourceObject)
    (member : String × Json) : Except MappingFault SourceObject :=
  let (key, value) := member
  if key = entryKey then .ok { object with entry := value }
  else
    match t.registry.byRef? key with
    | some rule =>
      let target := ((value.get? "name").bind Json.text?).getD ""
      match refs.idOf? rule.targetKind target with
      | some id =>
        .ok { object with pathParams := Assoc.insert rule.idField id object.pathParams }
      | none => .error (.unknownReference name rule.targetKind target)
    | none =>
      match value.text? with
      | some text => .ok { object with pathParams := Assoc.insert key text object.pathParams }
      | none => .ok object

/-- What stands below the tag of a manifest. -/
def payloadOf? (manifest : Generated) : Option (List (String × Json)) :=
  (manifest.data.lookup "spec").bind fun spec => (spec.get? t.tag).bind Json.members?

/-- The object of a manifest, with the ids in place of references. -/
def fromManifest (manifest : Generated) (refs : ReferenceIndex) :
    Except MappingFault SourceObject :=
  let name := manifest.metadata.name.getD ""
  match t.payloadOf? manifest with
  | none => .error (.noPayload name t.tag)
  | some payload => payload.foldlM (t.readMember refs name) ⟨.empty, []⟩

end Mapper

end AtlasManifests
