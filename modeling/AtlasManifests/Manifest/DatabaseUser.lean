import AtlasManifests.Inventory.DatabaseUser
import AtlasManifests.Label.Claims
import AtlasManifests.Manifest.Project

/-! # Database user manifests

A database user, with a secret for the password if it has one. The control plane
never tells a password, so the secret has none either.
-/
namespace AtlasManifests

/-- A role that is asked for. -/
structure RoleSpec where
  roleName : String
  databaseName : String
  collectionName : Option String := none

namespace RoleSpec

/-- The fields in order. -/
def fields : List String :=
  ["roleName", "databaseName", "collectionName"]

/-- Reads a role that is asked for; `roleName` and `databaseName` have to be there. -/
def ofJson? (j : Json) : Option RoleSpec := do
  let r ← j.record? .strict fields
  return {
    roleName := ← r.text "roleName"
    databaseName := ← r.text "databaseName"
    collectionName := ← r.optional Json.text? "collectionName"
  }

/-- Writes a role that is asked for without absent values. -/
def toJson (role : RoleSpec) : Json :=
  .ofFields [
    ("roleName", some (.str role.roleName)),
    ("databaseName", some (.str role.databaseName)),
    ("collectionName", Writing.compact.optional Json.str role.collectionName)]

/-- The role that asks for one as it is. An empty name of a collection is no name. -/
def ofRole (role : Role) : RoleSpec where
  roleName := role.roleName
  databaseName := role.databaseName
  collectionName := role.collectionName.filter (· != "")

end RoleSpec

/-- A cluster or federation that a user is to be limited to. -/
structure ScopeSpec where
  name : String
  kind : String

namespace ScopeSpec

/-- The fields in order. -/
def fields : List String :=
  ["name", "type"]

/-- Reads a scope that is asked for; `name` and `type` have to be there. -/
def ofJson? (j : Json) : Option ScopeSpec := do
  let r ← j.record? .strict fields
  return {
    name := ← r.text "name"
    kind := ← r.text "type"
  }

/-- Writes a scope that is asked for. -/
def toJson (scope : ScopeSpec) : Json :=
  .ofFields [
    ("name", some (.str scope.name)),
    ("type", some (.str scope.kind))]

/-- The scope that asks for one as it is. -/
def ofScope (scope : Scope) : ScopeSpec where
  name := scope.name
  kind := scope.kind

end ScopeSpec

/-- What is asked for of a database user. -/
structure DatabaseUserSpec where
  linkage : Linkage
  username : String
  databaseName : String
  roles : List RoleSpec
  scopes : List ScopeSpec
  labels : List TagSpec
  passwordSecretRef : Option Reference := none
  x509Type : Option String := none
  awsIamType : Option String := none
  oidcAuthType : Option String := none
  description : Option String := none
  deleteAfterDate : Option String := none

namespace DatabaseUserSpec

/-- The fields in order, without the link to the project. -/
def fields : List String :=
  ["username", "databaseName", "roles", "scopes", "labels", "passwordSecretRef", "x509Type",
    "awsIamType", "oidcAuthType", "description", "deleteAfterDate"]

/-- Reads a database user specification with its link to the project; `username` has to be
there. -/
def ofJson? (j : Json) : Option DatabaseUserSpec := do
  let r ← j.linkedRecord? fields
  return {
    linkage := ← Linkage.ofJson? j
    username := ← r.text "username"
    databaseName := ← r.withDefault Json.text? "admin" "databaseName"
    roles := ← r.list RoleSpec.ofJson? "roles"
    scopes := ← r.list ScopeSpec.ofJson? "scopes"
    labels := ← r.list TagSpec.ofJson? "labels"
    passwordSecretRef := ← r.optional Reference.ofJson? "passwordSecretRef"
    x509Type := ← r.optional Json.text? "x509Type"
    awsIamType := ← r.optional Json.text? "awsIamType"
    oidcAuthType := ← r.optional Json.text? "oidcAuthType"
    description := ← r.optional Json.text? "description"
    deleteAfterDate := ← r.optional Json.text? "deleteAfterDate"
  }

/-- Writes a database user specification, its link to the project first, without absent values.
-/
def toJson (spec : DatabaseUserSpec) : Json :=
  .ofFields (spec.linkage.fields ++ [
    ("username", some (.str spec.username)),
    ("databaseName", some (.str spec.databaseName)),
    ("roles", Writing.compact.list RoleSpec.toJson spec.roles),
    ("scopes", Writing.compact.list ScopeSpec.toJson spec.scopes),
    ("labels", Writing.compact.list TagSpec.toJson spec.labels),
    ("passwordSecretRef", spec.passwordSecretRef.map Reference.toJson),
    ("x509Type", Writing.compact.optional Json.str spec.x509Type),
    ("awsIamType", Writing.compact.optional Json.str spec.awsIamType),
    ("oidcAuthType", Writing.compact.optional Json.str spec.oidcAuthType),
    ("description", Writing.compact.optional Json.str spec.description),
    ("deleteAfterDate", Writing.compact.optional Json.str spec.deleteAfterDate)])

end DatabaseUserSpec

namespace Context

variable (ctx : Context)

/-- What is asked for of a user as it is, with the secret of its password. -/
def databaseUserSpec (user : DatabaseUser) (passwordSecret : Option String) : DatabaseUserSpec where
  linkage := ctx.linkage
  username := user.username
  databaseName := user.databaseName
  roles := user.roles.map .ofRole
  scopes := user.scopes.map .ofScope
  labels := user.labels.map .ofTag
  passwordSecretRef := passwordSecret.map .mk
  x509Type := meaningful user.x509Type
  awsIamType := meaningful user.awsIamType
  oidcAuthType := meaningful user.oidcAuthType
  description := user.description.filter (· != "")
  deleteAfterDate := user.deleteAfterDate.map Instant.offsetText

/-- A user apart from others with the same name. -/
def identity (user : DatabaseUser) : String := user.databaseName ++ "/" ++ user.username

/-- The manifest of a user, and the secret of its password. Their names are claimed,
so that users with names that are spelled alike stay apart. -/
def databaseUser (user : DatabaseUser) (claims : Claims) :
    Option ((Resource DatabaseUserSpec × Option Secret) × Claims) := do
  let (name, claims) ←
    claims.claim CuratedKind.databaseUser.resource (ctx.scopedName [user.username]) (identity user)
  if user.usesPassword then
    let (secretName, claims) ←
      claims.claim "Secret" (Label.normalizeParts [name, "password"]) (identity user)
    let secret := ctx.resourceSecret secretName [("password", none)]
    return ((ctx.resource name (ctx.databaseUserSpec user (some secretName)), some secret), claims)
  else
    return ((ctx.resource name (ctx.databaseUserSpec user none), none), claims)

/-- The manifests of some users in turn. -/
def databaseUsers : List DatabaseUser → Claims →
    Option (List (Resource DatabaseUserSpec × Option Secret))
  | [], _ => some []
  | user :: rest, claims => do
    let (found, claims) ← ctx.databaseUser user claims
    return found :: (← databaseUsers rest claims)

end Context

end AtlasManifests
