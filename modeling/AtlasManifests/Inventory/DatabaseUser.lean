import AtlasManifests.Inventory.Tag
import AtlasManifests.Json.Temporal

/-! # Database users

A database user as the control plane describes it, with what it may do. A user
without any other way to authenticate has a password.
-/
namespace AtlasManifests

/-- A role that a user has on a database. -/
structure Role where
  roleName : String := ""
  databaseName : String := ""
  collectionName : Option String := none

namespace Role

/-- The fields in order. -/
def fields : List String :=
  ["roleName", "databaseName", "collectionName"]

/-- Reads a role, every field of which has a default. -/
def ofJson? (j : Json) : Option Role := do
  let r ← j.record? .lenient fields
  return {
    roleName := ← r.text "roleName"
    databaseName := ← r.text "databaseName"
    collectionName := ← r.optional Json.text? "collectionName"
  }

/-- Writes a role, with `null` for absent values. -/
def toJson (role : Role) : Json :=
  .ofFields [
    ("roleName", some (.str role.roleName)),
    ("databaseName", some (.str role.databaseName)),
    ("collectionName", Writing.explicit.optional Json.str role.collectionName)]

end Role

/-- A cluster or federation that a user is limited to. -/
structure Scope where
  name : String := ""
  kind : String := ""

namespace Scope

/-- The fields in order. -/
def fields : List String :=
  ["name", "type"]

/-- Reads a scope, every field of which has a default. -/
def ofJson? (j : Json) : Option Scope := do
  let r ← j.record? .lenient fields
  return {
    name := ← r.text "name"
    kind := ← r.text "type"
  }

/-- Writes a scope. -/
def toJson (scope : Scope) : Json :=
  .ofFields [
    ("name", some (.str scope.name)),
    ("type", some (.str scope.kind))]

end Scope

/-- A database user. -/
structure DatabaseUser where
  username : String := ""
  databaseName : String := ""
  groupId : Option String := none
  roles : List Role := []
  scopes : List Scope := []
  labels : List Tag := []
  awsIamType : Option String := none
  ldapAuthType : Option String := none
  oidcAuthType : Option String := none
  x509Type : Option String := none
  description : Option String := none
  deleteAfterDate : Option Instant := none

namespace DatabaseUser

/-- The fields in order. -/
def fields : List String :=
  ["username", "databaseName", "groupId", "roles", "scopes", "labels", "awsIAMType",
    "ldapAuthType", "oidcAuthType", "x509Type", "description", "deleteAfterDate"]

/-- Reads a database user, every field of which has a default. -/
def ofJson? (j : Json) : Option DatabaseUser := do
  let r ← j.record? .lenient fields
  return {
    username := ← r.text "username"
    databaseName := ← r.text "databaseName"
    groupId := ← r.optional Json.text? "groupId"
    roles := ← r.list Role.ofJson? "roles"
    scopes := ← r.list Scope.ofJson? "scopes"
    labels := ← r.list Tag.ofJson? "labels"
    awsIamType := ← r.optional Json.text? "awsIAMType"
    ldapAuthType := ← r.optional Json.text? "ldapAuthType"
    oidcAuthType := ← r.optional Json.text? "oidcAuthType"
    x509Type := ← r.optional Json.text? "x509Type"
    description := ← r.optional Json.text? "description"
    deleteAfterDate := ← r.optional Instant.ofJson? "deleteAfterDate"
  }

/-- Writes a database user, with `null` for absent values. -/
def toJson (user : DatabaseUser) : Json :=
  .ofFields [
    ("username", some (.str user.username)),
    ("databaseName", some (.str user.databaseName)),
    ("groupId", Writing.explicit.optional Json.str user.groupId),
    ("roles", Writing.explicit.list Role.toJson user.roles),
    ("scopes", Writing.explicit.list Scope.toJson user.scopes),
    ("labels", Writing.explicit.list Tag.toJson user.labels),
    ("awsIAMType", Writing.explicit.optional Json.str user.awsIamType),
    ("ldapAuthType", Writing.explicit.optional Json.str user.ldapAuthType),
    ("oidcAuthType", Writing.explicit.optional Json.str user.oidcAuthType),
    ("x509Type", Writing.explicit.optional Json.str user.x509Type),
    ("description", Writing.explicit.optional Json.str user.description),
    ("deleteAfterDate", Writing.explicit.optional Instant.toJson user.deleteAfterDate)]

/-- Whether the type of a way to authenticate says that it is not used. -/
def isUnused : Option String → Bool
  | none => true
  | some kind => kind == "" || kind == "NONE"

/-- Whether a user authenticates with a password: none of the other ways is used. -/
def usesPassword (user : DatabaseUser) : Bool :=
  isUnused user.awsIamType && isUnused user.ldapAuthType && isUnused user.oidcAuthType &&
    isUnused user.x509Type

end DatabaseUser

end AtlasManifests
