import AtlasManifests.Inventory.AccessEntry
import AtlasManifests.Manifest.Resource

/-! # Access list manifests

All entries of the access list of a project together.
-/
namespace AtlasManifests

/-- An entry of an access list. -/
structure AccessRule where
  cidrBlock : Option String := none
  ipAddress : Option String := none
  awsSecurityGroup : Option String := none
  deleteAfterDate : Option Instant := none
  comment : Option String := none

namespace AccessRule

/-- The fields in order. -/
def fields : List String :=
  ["cidrBlock", "ipAddress", "awsSecurityGroup", "deleteAfterDate", "comment"]

/-- Reads a rule of an access list; no field has to be there. -/
def ofJson? (j : Json) : Option AccessRule := do
  let r ← j.record? .strict fields
  return {
    cidrBlock := ← r.optional Json.text? "cidrBlock"
    ipAddress := ← r.optional Json.text? "ipAddress"
    awsSecurityGroup := ← r.optional Json.text? "awsSecurityGroup"
    deleteAfterDate := ← r.optional Instant.ofJson? "deleteAfterDate"
    comment := ← r.optional Json.text? "comment"
  }

/-- Writes a rule of an access list without absent values. -/
def toJson (rule : AccessRule) : Json :=
  .ofFields [
    ("cidrBlock", Writing.compact.optional Json.str rule.cidrBlock),
    ("ipAddress", Writing.compact.optional Json.str rule.ipAddress),
    ("awsSecurityGroup", Writing.compact.optional Json.str rule.awsSecurityGroup),
    ("deleteAfterDate", Writing.compact.optional Instant.toJson rule.deleteAfterDate),
    ("comment", Writing.compact.optional Json.str rule.comment)]

end AccessRule

/-- What is asked for of an access list. -/
structure AccessListSpec where
  linkage : Linkage
  entries : List AccessRule

namespace AccessListSpec

/-- The fields in order, without the link to the project. -/
def fields : List String :=
  ["entries"]

/-- Reads an access list specification with its link to the project; `entries` has to be there.
-/
def ofJson? (j : Json) : Option AccessListSpec := do
  let r ← j.linkedRecord? fields
  return {
    linkage := ← Linkage.ofJson? j
    entries := ← r.required (fun value => value.items?.bind (·.mapM AccessRule.ofJson?)) "entries"
  }

/-- Writes an access list specification, its link to the project first. -/
def toJson (spec : AccessListSpec) : Json :=
  .ofFields (spec.linkage.fields ++ [
    ("entries", some (.arr (spec.entries.map AccessRule.toJson)))])

end AccessListSpec

/-- The entry of a manifest for an entry as it is. A single address is listed as a
block too, which is left out. -/
def AccessRule.ofEntry (entry : AccessEntry) : AccessRule where
  cidrBlock := if entry.ipAddress.isSome then none else entry.cidrBlock
  ipAddress := entry.ipAddress
  awsSecurityGroup := entry.awsSecurityGroup
  deleteAfterDate := entry.deleteAfterDate
  comment := entry.comment

/-- The manifest of an access list, if it has entries. -/
def Context.accessList (ctx : Context) (entries : List AccessEntry) :
    Option (Resource AccessListSpec) :=
  if entries.isEmpty then none
  else
    some (ctx.resource (ctx.scopedName ["ip-access-list"])
      { linkage := ctx.linkage, entries := entries.map .ofEntry })

end AtlasManifests
