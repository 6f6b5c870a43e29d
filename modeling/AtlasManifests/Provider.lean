import AtlasManifests.Text.Casing

/-! # Cloud providers

The providers that network containers and peerings are split by.
-/
namespace AtlasManifests

/-- A cloud provider. -/
inductive Provider where
  | aws
  | azure
  | gcp
  deriving DecidableEq, Repr

namespace Provider

/-- Every provider, in the order in which they are listed. -/
def all : List Provider := [aws, azure, gcp]

theorem mem_all (p : Provider) : p ∈ all := by cases p <;> decide

/-- The tag that the control plane uses for a provider. -/
def tag : Provider → String
  | aws => "AWS"
  | azure => "AZURE"
  | gcp => "GCP"

/-- The provider of a tag in letters of either case. -/
def ofTag? (tag : String) : Option Provider :=
  all.find? fun p => tag.toList.map Text.capital == p.tag.toList

@[simp] theorem ofTag?_tag (p : Provider) : ofTag? p.tag = some p := by cases p <;> decide

end Provider

end AtlasManifests
