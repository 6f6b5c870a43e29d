import AtlasManifests.Definition.Embedded
import AtlasManifests.Error
import AtlasManifests.Yaml.Resolve
import AtlasManifests.Yaml.Stream

/-! # Catalogues of definitions

Definitions by kind and version of the operator, in either of two layouts: a text for
each kind, or a text for each version with all of its kinds. Looking up answers alike
in both: an unknown version or kind is not found. The embedded definitions need no
reading, so one catalogue of them serves for both layouts.
-/
namespace AtlasManifests

/-- A definition, or a text to read it from. -/
inductive DefinitionSource where
  | ready (definition : Definition)
  | written (text : String)

/-- The definition of one kind for a version of the operator. -/
structure SplitFile where
  version : String
  kind : String
  source : DefinitionSource

/-- The definitions of all kinds for a version of the operator, in one stream. -/
structure Bundle where
  version : String
  stream : String

/-- Where definitions are looked up. -/
inductive Catalogue where
  | split (files : List SplitFile)
  | bundled (bundles : List Bundle)

namespace DefinitionSource

/-- The definition of a source. -/
def read : DefinitionSource → Except Error Definition
  | ready definition => .ok definition
  | written text =>
    match (Yaml.datum? text).bind Definition.ofDatum? with
    | some definition => .ok definition
    | none => .error (.serialization "definition")

end DefinitionSource

namespace Catalogue

/-- The catalogue of the embedded definitions. -/
def embedded : Catalogue :=
  .split (Embedded.all.map fun (version, kind, definition) => ⟨version, kind, .ready definition⟩)

/-- The kind of a document. -/
def kindOf? : Datum → Option String
  | .map members => (members.lookup (some "kind")).bind Datum.text?
  | .tagged _ value => kindOf? value
  | _ => none

/-- The definition of a kind among the documents of a bundle. Documents that are no
definitions do not count, but they have to be readable. -/
def findDocument (kind : String) : List String → Except Error (Option Definition)
  | [] => .ok none
  | document :: rest =>
    match Yaml.value? document with
    | none => .error (.serialization "bundle")
    | some value =>
      if kindOf? value != some "CustomResourceDefinition" then findDocument kind rest
      else
        match Definition.ofDatum? value with
        | none => .error (.serialization "definition")
        | some definition =>
          if definition.kind = kind then .ok (some definition) else findDocument kind rest

/-- The definition of a kind for a version of the operator. -/
def find (c : Catalogue) (kind version : String) : Except Error Definition :=
  let unknownVersion : Error := .notFound (.version version)
  let unknownKind : Error := .notFound (.definition kind version)
  match c with
  | split files =>
    match files.filter (·.version == version) with
    | [] => .error unknownVersion
    | known =>
      match known.find? (·.kind == kind) with
      | none => .error unknownKind
      | some file => file.source.read
  | bundled bundles =>
    match bundles.find? (·.version == version) with
    | none => .error unknownVersion
    | some bundle =>
      match findDocument kind (Yaml.splitDocuments bundle.stream) with
      | .error e => .error e
      | .ok none => .error unknownKind
      | .ok (some definition) => .ok definition

/-- A list without the repetitions of an item that directly follow it. -/
def withoutRuns : List String → List String
  | [] => []
  | x :: rest =>
    match withoutRuns rest with
    | [] => [x]
    | y :: rest => if x = y then y :: rest else x :: y :: rest

/-- The versions that there are definitions for. -/
def versions : Catalogue → List String
  | split files => withoutRuns (files.map (·.version))
  | bundled bundles => bundles.map (·.version)

end Catalogue

end AtlasManifests
