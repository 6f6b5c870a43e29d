import AtlasManifests.Json.Temporal

/-! # Access list entries

Addresses that may reach a project.
-/
namespace AtlasManifests

/-- An entry of the access list of a project. -/
structure AccessEntry where
  groupId : Option String := none
  cidrBlock : Option String := none
  ipAddress : Option String := none
  awsSecurityGroup : Option String := none
  comment : Option String := none
  deleteAfterDate : Option Instant := none

namespace AccessEntry

/-- The fields in order. -/
def fields : List String :=
  ["groupId", "cidrBlock", "ipAddress", "awsSecurityGroup", "comment", "deleteAfterDate"]

/-- Reads an entry of an access list, every field of which has a default. -/
def ofJson? (j : Json) : Option AccessEntry := do
  let r ← j.record? .lenient fields
  return {
    groupId := ← r.optional Json.text? "groupId"
    cidrBlock := ← r.optional Json.text? "cidrBlock"
    ipAddress := ← r.optional Json.text? "ipAddress"
    awsSecurityGroup := ← r.optional Json.text? "awsSecurityGroup"
    comment := ← r.optional Json.text? "comment"
    deleteAfterDate := ← r.optional Instant.ofJson? "deleteAfterDate"
  }

/-- Writes an entry of an access list, with `null` for absent values. -/
def toJson (entry : AccessEntry) : Json :=
  .ofFields [
    ("groupId", Writing.explicit.optional Json.str entry.groupId),
    ("cidrBlock", Writing.explicit.optional Json.str entry.cidrBlock),
    ("ipAddress", Writing.explicit.optional Json.str entry.ipAddress),
    ("awsSecurityGroup", Writing.explicit.optional Json.str entry.awsSecurityGroup),
    ("comment", Writing.explicit.optional Json.str entry.comment),
    ("deleteAfterDate", Writing.explicit.optional Instant.toJson entry.deleteAfterDate)]

end AccessEntry

end AtlasManifests
