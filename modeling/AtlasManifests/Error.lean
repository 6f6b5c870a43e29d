import AtlasManifests.Provider

/-! # Errors

Why a run fails, as causes, and the wording of each. Errors that come up from a
lower layer (a transport, a reader of texts, a file system) keep its own words.
-/
namespace AtlasManifests

/-- What was looked for and is not there. -/
inductive Absence where
  | version (number : String)
  | definition (kind number : String)
  | other (text : String)
  deriving DecidableEq

/-- What is wrong with a configuration. -/
inductive ConfigFault where
  | noProject
  | noNamespace
  | pageSize (size : UInt32)
  | noTag
  | other (text : String)
  deriving DecidableEq

/-- Why no mapper can be made from a definition. -/
inductive SetupFault where
  | noDefinition
  | noVersions (definition : String)
  | noSchema (definition version : String)
  | noSpec (definition version : String)
  | noTag (definition version tag : String)
  | other (text : String)
  deriving DecidableEq

/-- Why an object cannot be mapped back. -/
inductive MappingFault where
  | noPayload (name tag : String)
  | unknownReference (name kind target : String)
  | other (text : String)
  deriving DecidableEq

/-- Why an operation failed. -/
inductive Error where
  | notFound (what : Absence)
  | fetch (subject : String) (provider : Option Provider) (cause : Error)
  | api (status : UInt16) (body : String)
  | http (detail : String)
  | setup (fault : SetupFault)
  | mapping (fault : MappingFault)
  | serialization (detail : String)
  | json (detail : String)
  | config (fault : ConfigFault)
  | io (detail : String)
  | exhausted (what : String)
  deriving DecidableEq

/-- The largest page that the control plane serves. -/
def maxPageSize : UInt32 := 500

namespace Absence

/-- The wording of what is not there. -/
def message : Absence → String
  | .version number => s!"no CRDs for operator version {number}"
  | .definition kind number => s!"CRD {kind} in operator version {number}"
  | .other text => text

end Absence

namespace ConfigFault

/-- The wording of a fault of a configuration. -/
def message : ConfigFault → String
  | noProject => "projectId is required"
  | noNamespace => "namespace must not be empty"
  | pageSize size => s!"pageSize must be between 1 and {maxPageSize}, got {size}"
  | noTag => "schemaDriven.apiVersionTag must not be empty"
  | .other text => text

end ConfigFault

namespace SetupFault

/-- The wording of why there is no mapper. -/
def message : SetupFault → String
  | noDefinition => "CRD is nil"
  | noVersions definition => s!"failed to extract CRD version: {definition} declares no versions"
  | noSchema definition version => s!"{definition} version {version} has no openAPIV3Schema"
  | noSpec definition version => s!"{definition} version {version} has no spec"
  | noTag definition version tag => s!"{definition} version {version} has no spec property {tag}"
  | .other text => text

end SetupFault

namespace MappingFault

/-- The wording of why an object cannot be mapped back. -/
def message : MappingFault → String
  | noPayload name tag => s!"{name} has no spec.{tag}"
  | unknownReference name kind target => s!"{name} references unknown {kind} {target}"
  | .other text => text

end MappingFault

namespace Error

/-- The wording of an error. -/
def message : Error → String
  | notFound what => s!"not found: " ++ what.message
  | fetch subject provider cause =>
    let place := match provider with
      | none => ""
      | some p => " for provider " ++ p.tag
    s!"failed to fetch {subject}{place}: " ++ cause.message
  | api status body => s!"Atlas API returned {status}: {body}"
  | http detail => s!"HTTP error: {detail}"
  | setup fault => "translation setup error: " ++ fault.message
  | mapping fault => "translation error: " ++ fault.message
  | serialization detail => s!"Serialization error: {detail}"
  | json detail => s!"JSON error: {detail}"
  | config fault => "Configuration error: " ++ fault.message
  | io detail => s!"IO error: {detail}"
  | exhausted what => s!"no more {what}"

/-- The innermost error under what it was met in. -/
def rootCause : Error → Error
  | fetch _ _ cause => cause.rootCause
  | e => e

/-- Whether an error is itself that something does not exist. -/
def isNotFound : Error → Bool
  | notFound _ => true
  | api status _ => status == 404
  | _ => false

end Error

end AtlasManifests
