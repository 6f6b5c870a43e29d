import AtlasManifests.ControlPlane.Page
import AtlasManifests.Inventory.AccessEntry
import AtlasManifests.Inventory.Cluster
import AtlasManifests.Inventory.DatabaseUser
import AtlasManifests.Inventory.Federation
import AtlasManifests.Inventory.Integration
import AtlasManifests.Inventory.Network
import AtlasManifests.Inventory.Project

/-! # The control plane

What can be asked of the control plane, and what it answers; each call is an event of
the run. A control plane is a function from calls to replies, so a call that is made
again is answered as before. Statements that set two runs side by side rest on that:
those on the size of pages, the selection of kinds, the form of links, the material of
secrets and failing calls. Within one run, clusters are listed twice if they are
exported as deployments and as generated objects, and a project that is answered with
another id is fetched once more as a group. That generated objects show the same
sources and have the same names as the others rests on both answers being the same.
-/
namespace AtlasManifests

/-- A call of the control plane, for the project with an id. -/
inductive Call where
  | project (id : String)
  | settings (id : String)
  | accessList (id : String) (page : PageRequest)
  | clusters (id : String) (page : PageRequest)
  | databaseUsers (id : String) (page : PageRequest)
  | containers (id : String) (provider : Provider) (page : PageRequest)
  | peerings (id : String) (provider : Provider) (page : PageRequest)
  | integrations (id : String) (page : PageRequest)
  | federations (id : String)
  deriving DecidableEq

namespace Call

/-- The project that a call is about. -/
def projectId : Call → String
  | project id | settings id | accessList id _ | clusters id _ | databaseUsers id _
  | containers id _ _ | peerings id _ _ | integrations id _ | federations id => id

/-- The page that a call asks for. -/
def page? : Call → Option PageRequest
  | accessList _ page | clusters _ page | databaseUsers _ page | containers _ _ page
  | peerings _ _ page | integrations _ page => some page
  | project _ | settings _ | federations _ => none

/-- The provider that a call is about. -/
def provider? : Call → Option Provider
  | containers _ provider _ | peerings _ provider _ => some provider
  | _ => none

end Call

/-- What a call is answered with. Federations do not come in pages. -/
abbrev Call.Reply : Call → Type
  | project _ => Project
  | settings _ => ProjectSettings
  | accessList _ _ => Page AccessEntry
  | clusters _ _ => Page Cluster
  | databaseUsers _ _ => Page DatabaseUser
  | containers _ _ _ => Page Container
  | peerings _ _ _ => Page Peering
  | integrations _ _ => Page Integration
  | federations _ => List Federation

/-- A control plane. -/
abbrev ControlPlane : Type := (call : Call) → Except Error call.Reply

namespace ControlPlane

variable (cp : ControlPlane)

/-- A call, which is an event. -/
def ask (call : Call) : Traced Call call.Reply := ⟨[call], cp call⟩

/-- A project, fetched as a subject. -/
def project (subject id : String) : Traced Call Project :=
  (cp.ask (.project id)).mapError (.fetch subject none)

/-- The settings of a project. -/
def settings (id : String) : Traced Call ProjectSettings :=
  (cp.ask (.settings id)).mapError (.fetch "project settings" none)

/-- The access list of a project. -/
def accessList (id : String) (size : Nat) : Traced Call (List AccessEntry) :=
  paginate "ip access list" none size fun page => cp.ask (.accessList id page)

/-- The clusters of a project. -/
def clusters (id : String) (size : Nat) : Traced Call (List Cluster) :=
  paginate "deployment" none size fun page => cp.ask (.clusters id page)

/-- The database users of a project. -/
def databaseUsers (id : String) (size : Nat) : Traced Call (List DatabaseUser) :=
  paginate "database user" none size fun page => cp.ask (.databaseUsers id page)

/-- The network containers of a project at all providers. -/
def containers (id : String) (size : Nat) : Traced Call (List Container) :=
  paginatePerProvider "network container" size fun p page => cp.ask (.containers id p page)

/-- The network peerings of a project at all providers. -/
def peerings (id : String) (size : Nat) : Traced Call (List Peering) :=
  paginatePerProvider "network peering" size fun p page => cp.ask (.peerings id p page)

/-- The integrations of a project. -/
def integrations (id : String) (size : Nat) : Traced Call (List Integration) :=
  paginate "third party integration" none size fun page => cp.ask (.integrations id page)

/-- The data federations of a project. -/
def federations (id : String) : Traced Call (List Federation) :=
  (cp.ask (.federations id)).mapError (.fetch "data federation" none)

end ControlPlane

end AtlasManifests
