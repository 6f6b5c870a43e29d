import AtlasManifests.Kind
import AtlasManifests.Manifest.Context

/-! # Resources

The frame that the objects of all curated kinds share: their kind, metadata, what is
asked for, and a status that is empty.
-/
namespace AtlasManifests

/-- An object of a curated kind. -/
structure Resource (Spec : Type) where
  metadata : Metadata
  spec : Spec
  /-- Whether it has a status, which is empty then. -/
  status : Bool

/-- The version of the interface that the curated kinds belong to. -/
def curatedApiVersion : String := "atlas.mongodb.com/v1"

namespace Resource

variable {Spec : Type}

/-- Writes an object. -/
def toJson (kind : CuratedKind) (writeSpec : Spec → Json) (r : Resource Spec) : Json :=
  .ofFields [
    ("apiVersion", some (.str curatedApiVersion)),
    ("kind", some (.str kind.resource)),
    ("metadata", some r.metadata.toJson),
    ("spec", some (writeSpec r.spec)),
    ("status", if r.status then some .empty else none)]

/-- Reads a status, whose members do not count. -/
def status? (j : Json) : Option Unit := (j.record? .strict []).map fun _ => ()

/-- Reads an object. Its kind is taken for granted. -/
def ofJson? (readSpec : Json → Option Spec) (j : Json) : Option (Resource Spec) := do
  let r ← j.record? .strict ["metadata", "spec", "status"]
  return {
    metadata := ← r.required Metadata.ofJson? "metadata"
    spec := ← r.required readSpec "spec"
    status := (← r.optional status? "status").isSome
  }

end Resource

/-- The object with a name in a context. -/
def Context.resource (ctx : Context) {Spec : Type} (name : String) (spec : Spec) : Resource Spec :=
  ⟨ctx.metadata name, spec, true⟩

namespace Json

/-- A record that holds a link beside its own fields, which is never given as an
array. -/
def linkedRecord? (names : List String) (j : Json) : Option Record :=
  match j with
  | .obj _ => j.record? .strict names
  | _ => none

end Json

end AtlasManifests
