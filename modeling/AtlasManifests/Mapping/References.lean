/-! # References between mapped objects

A parameter that holds the id of an object can be written as a reference to the
manifest of that object. The registry says which parameters these are, and the index
which manifests there are.
-/
namespace AtlasManifests

/-- A parameter that can be written as a reference. -/
structure ReferenceRule where
  /-- The parameter that holds an id. -/
  idField : String
  /-- The member that holds the reference instead. -/
  refField : String
  /-- The kind that is referred to. -/
  targetKind : String
  deriving DecidableEq

/-- The parameters that can be written as references. -/
structure Registry where
  rules : List ReferenceRule

namespace Registry

/-- The usual registry: a group is referred to instead of named by its id. -/
def usual : Registry := ⟨[⟨"groupId", "groupRef", "Group"⟩]⟩

/-- The rule for a parameter that holds an id. -/
def byId? (r : Registry) (field : String) : Option ReferenceRule :=
  r.rules.find? (·.idField == field)

/-- The rule for a member that holds a reference. -/
def byRef? (r : Registry) (field : String) : Option ReferenceRule :=
  r.rules.find? (·.refField == field)

end Registry

/-- A manifest with the id of its source. -/
structure IndexEntry where
  kind : String
  id : String
  name : String
  deriving DecidableEq

/-- The manifests that there are, the last one first. -/
structure ReferenceIndex where
  entries : List IndexEntry

namespace ReferenceIndex

/-- The index without manifests. -/
def empty : ReferenceIndex := ⟨[]⟩

variable (index : ReferenceIndex)

/-- The index with one manifest more. -/
def insert (kind id name : String) : ReferenceIndex := ⟨⟨kind, id, name⟩ :: index.entries⟩

/-- The name of the last manifest with an id. -/
def nameOf? (kind id : String) : Option String :=
  (index.entries.find? fun e => e.kind == kind && e.id == id).map (·.name)

/-- The id of the last manifest with a name. -/
def idOf? (kind name : String) : Option String :=
  (index.entries.find? fun e => e.kind == kind && e.name == name).map (·.id)

/-- What is inserted is found by its id. -/
theorem nameOf?_insert_self (kind id name : String) :
    (index.insert kind id name).nameOf? kind id = some name := by
  simp [insert, nameOf?]

/-- What is inserted is found by its name. -/
theorem idOf?_insert_self (kind id name : String) :
    (index.insert kind id name).idOf? kind name = some id := by
  simp [insert, idOf?]

end ReferenceIndex

end AtlasManifests
