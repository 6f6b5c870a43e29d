/-! # Kinds of objects

The kinds that are exported: those with a converter of their own, and those that are
mapped by the schema of their definition, both in the order in which a run works
on them.
-/
namespace AtlasManifests

/-- The kinds with a converter of their own. -/
inductive CuratedKind where
  | project
  | ipAccessList
  | deployment
  | databaseUser
  | networkContainer
  | networkPeering
  | thirdPartyIntegration
  | dataFederation
  deriving DecidableEq, Repr

namespace CuratedKind

/-- Every kind, in the order of a run. -/
def all : List CuratedKind :=
  [project, ipAccessList, deployment, databaseUser, networkContainer, networkPeering,
    thirdPartyIntegration, dataFederation]

theorem mem_all (k : CuratedKind) : k ∈ all := by cases k <;> decide

/-- The word for a kind in configurations. -/
def word : CuratedKind → String
  | project => "project"
  | ipAccessList => "ipAccessList"
  | deployment => "deployment"
  | databaseUser => "databaseUser"
  | networkContainer => "networkContainer"
  | networkPeering => "networkPeering"
  | thirdPartyIntegration => "thirdPartyIntegration"
  | dataFederation => "dataFederation"

/-- The kind of its objects in a cluster. -/
def resource : CuratedKind → String
  | project => "AtlasProject"
  | ipAccessList => "AtlasIPAccessList"
  | deployment => "AtlasDeployment"
  | databaseUser => "AtlasDatabaseUser"
  | networkContainer => "AtlasNetworkContainer"
  | networkPeering => "AtlasNetworkPeering"
  | thirdPartyIntegration => "AtlasThirdPartyIntegration"
  | dataFederation => "AtlasDataFederation"

/-- The kind of a word. -/
def ofWord? (word : String) : Option CuratedKind := all.find? (·.word == word)

@[simp] theorem ofWord?_word (k : CuratedKind) : ofWord? k.word = some k := by
  cases k <;> decide

/-- The kind whose objects have a kind in a cluster. -/
def ofResource? (resource : String) : Option CuratedKind := all.find? (·.resource == resource)

@[simp] theorem ofResource?_resource (k : CuratedKind) : ofResource? k.resource = some k := by
  cases k <;> decide

end CuratedKind

/-- The kinds that are mapped by the schema of their definition. -/
inductive GeneratedKind where
  | group
  | cluster
  deriving DecidableEq, Repr

namespace GeneratedKind

/-- Every kind, in the order of a run. -/
def all : List GeneratedKind := [group, cluster]

theorem mem_all (k : GeneratedKind) : k ∈ all := by cases k <;> decide

/-- The name of a kind, in configurations and in a cluster. -/
def word : GeneratedKind → String
  | group => "Group"
  | cluster => "Cluster"

/-- The kind of a word. -/
def ofWord? (word : String) : Option GeneratedKind := all.find? (·.word == word)

@[simp] theorem ofWord?_word (k : GeneratedKind) : ofWord? k.word = some k := by
  cases k <;> decide

end GeneratedKind

/-- The kinds that a run works on. -/
inductive RunKind where
  | curated (kind : CuratedKind)
  | generated (kind : GeneratedKind)
  deriving DecidableEq, Repr

namespace RunKind

/-- Every kind, in the order of a run. -/
def all : List RunKind := CuratedKind.all.map curated ++ GeneratedKind.all.map generated

/-- The word for a kind. -/
def word : RunKind → String
  | curated kind => kind.word
  | generated kind => kind.word

end RunKind

end AtlasManifests
