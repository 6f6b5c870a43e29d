import AtlasManifests.Proofs.Findings

/-! # How users authenticate

A user authenticates with a password, or in one of four other ways: by a certificate, with AWS IAM,
with OIDC, or through a directory.  Whether there is a password is decided from all four at once
(`DatabaseUser.usesPassword`), and which ways a manifest names is decided for each by itself
(`meaningful`); both take the same spellings for a way that is not used (`meaningful_eq_none_iff`).

A manifest has no place for a directory.  So it refers to a password exactly if it names no other
way and the user is in no directory, and it says nothing of how to authenticate exactly for the
users who are in a directory and use none of the other ways (`Job.users_authenticate`).
-/
namespace AtlasManifests

/-- Whether a user is one of a directory. -/
def DatabaseUser.isInDirectory (user : DatabaseUser) : Bool := !isUnused user.ldapAuthType

/-- The ways to authenticate that a manifest can name, besides a password. -/
def DatabaseUser.mechanisms (user : DatabaseUser) : List (Option String) :=
  [user.x509Type, user.awsIamType, user.oidcAuthType]

/-- The ways to authenticate that a manifest names, besides a password. -/
def DatabaseUserSpec.mechanisms (spec : DatabaseUserSpec) : List (Option String) :=
  [spec.x509Type, spec.awsIamType, spec.oidcAuthType]

/-- Whether a manifest refers to a password. -/
def DatabaseUserSpec.hasPassword (spec : DatabaseUserSpec) : Bool := spec.passwordSecretRef.isSome

/-- What a manifest says of how a user authenticates. -/
structure DatabaseUserSpec.Authenticates (spec : DatabaseUserSpec) (user : DatabaseUser) :
    Prop where
  /-- It names each way as the user has it, but for those that are not used. -/
  mechanisms_eq :
    spec.mechanisms = user.mechanisms.map fun way => if DatabaseUser.isUnused way then none else way
  /-- It refers to a password exactly if it names no way and the user is in no directory. -/
  password_iff : spec.hasPassword = true ↔
    (∀ way ∈ spec.mechanisms, way = none) ∧ user.isInDirectory = false
  /-- It never refers to a password and names a way besides. -/
  not_both : ¬ (spec.hasPassword = true ∧ ∃ way ∈ spec.mechanisms, way ≠ none)
  /-- It does neither exactly for a user who is in a directory and uses none of the ways. -/
  neither_iff : spec.hasPassword = false ∧ (∀ way ∈ spec.mechanisms, way = none) ↔
    user.isInDirectory = true ∧ ∀ way ∈ user.mechanisms, DatabaseUser.isUnused way = true

/-- What is not used has no meaning in a manifest, and everything else is kept. -/
theorem meaningful_eq_ite (way : Option String) :
    meaningful way = if DatabaseUser.isUnused way then none else way := by
  cases way with
  | none => rfl
  | some kind =>
    have hboth : (kind != "" && kind != "NONE") = !DatabaseUser.isUnused (some kind) := by
      rw [DatabaseUser.isUnused, Bool.not_or]
      rfl
    rw [meaningful, Option.filter_some, hboth]
    cases DatabaseUser.isUnused (some kind) <;> rfl

/-- A way is left out exactly if it is not used. -/
theorem meaningful_eq_none_iff {way : Option String} :
    meaningful way = none ↔ DatabaseUser.isUnused way = true := by
  rw [meaningful_eq_ite]
  split
  · simpa
  · next hused =>
    refine iff_of_false ?_ hused
    rintro rfl
    exact hused rfl

/-- A user has a password exactly if it uses none of the other ways. -/
theorem DatabaseUser.usesPassword_iff (user : DatabaseUser) : user.usesPassword = true ↔
    (∀ way ∈ user.mechanisms, isUnused way = true) ∧ user.isInDirectory = false := by
  simp only [usesPassword, isInDirectory, mechanisms, Bool.and_eq_true, Bool.not_eq_false',
    List.forall_mem_cons, List.not_mem_nil, false_imp_iff, implies_true, and_true]
  tauto

namespace Context

variable {ctx : Context} {user : DatabaseUser} {out : Resource DatabaseUserSpec × Option Secret}

/-- What a user is converted to says how the user authenticates. -/
theorem Converts.authenticates (h : ctx.Converts user out) : out.1.spec.Authenticates user := by
  obtain ⟨name, secretName, _, _, hsecret, rfl⟩ := h
  change (ctx.databaseUserSpec user secretName).Authenticates user
  set spec := ctx.databaseUserSpec user secretName
  have hmechanisms : spec.mechanisms = user.mechanisms.map meaningful := rfl
  have hpassword : spec.hasPassword = user.usesPassword := Option.isSome_map.trans hsecret
  have hnone : (∀ way ∈ spec.mechanisms, way = none) ↔
      ∀ way ∈ user.mechanisms, DatabaseUser.isUnused way = true := by
    rw [hmechanisms, List.forall_mem_map]
    exact forall₂_congr fun _ _ => meaningful_eq_none_iff
  have hiff : spec.hasPassword = true ↔
      (∀ way ∈ spec.mechanisms, way = none) ∧ user.isInDirectory = false := by
    rw [hpassword, hnone, user.usesPassword_iff]
  refine ⟨?_, hiff, ?_, ?_⟩
  · rw [hmechanisms, funext meaningful_eq_ite]
  · rintro ⟨hhas, way, hway, hset⟩
    exact hset ((hiff.mp hhas).1 way hway)
  · rw [← Bool.not_eq_true, hiff, ← hnone, not_and, Bool.not_eq_false]
    exact ⟨fun h => ⟨h.1 h.2, h.2⟩, fun h => ⟨fun _ => h.1, h.2⟩⟩

/-- A user is converted as long as no names are in use. -/
theorem exists_databaseUser_of_empty (ctx : Context) (user : DatabaseUser) :
    ∃ out claims, ctx.databaseUser user Claims.empty = some (out, claims) := by
  have hname : ∀ name, Claims.empty.claim CuratedKind.databaseUser.resource name
      (identity user) = some (name, Claims.empty.add CuratedKind.databaseUser.resource name) :=
    fun _ => rfl
  -- the name of the user is one of another kind than that of a secret
  have hsecret : ∀ name secret, (Claims.empty.add CuratedKind.databaseUser.resource name).claim
      "Secret" secret (identity user) = some (secret,
        (Claims.empty.add CuratedKind.databaseUser.resource name).add "Secret" secret) := by
    intro name secret
    refine if_neg ?_
    rw [Claims.isTaken_add]
    simp [Claims.isTaken, Claims.empty, CuratedKind.resource]
  rw [databaseUser, hname]
  cases hpassword : user.usesPassword with
  | true => exact ⟨_, _, by simp only [Option.bind_eq_bind, Option.bind_some, hsecret]; rfl⟩
  | false => exact ⟨_, _, rfl⟩

end Context

namespace Job

variable (job : Job)

/-- **How exported users authenticate.**  Every user is converted when no names are in use.
Whatever names are in use, a user that is converted keeps its ways to authenticate: the manifest
refers to a password exactly if it names no other way and the user is in no directory, it never does
both, and it does neither exactly for a user of a directory who uses none of the other ways.  So it
is for every user manifest of a run, by a user that the control plane has listed. -/
theorem users_authenticate :
    (∀ (ctx : Context) (user : DatabaseUser),
      (∃ out claims, ctx.databaseUser user Claims.empty = some (out, claims)) ∧
      ∀ claims out claims', ctx.databaseUser user claims = some (out, claims') →
        out.1.spec.Authenticates user) ∧
    ∀ manifests, job.exported.result = .ok manifests →
      ∀ r, Manifest.databaseUser r ∈ manifests → ∃ users, ∃ user ∈ users,
        (job.controlPlane.databaseUsers job.config.projectId job.pageSize).result = .ok users ∧
        r.spec.Authenticates user := by
  refine ⟨fun ctx user => ⟨ctx.exists_databaseUser_of_empty user, fun claims out claims' h =>
    (ctx.databaseUser_spec h).1.authenticates⟩, fun manifests h r hr => ?_⟩
  obtain ⟨f, hf, rfl⟩ := exported_eq_ok_iff.mp h
  obtain ⟨m, hm, hwithin⟩ := Findings.mem_manifests_iff.mp hr
  cases hm with
  | user hout =>
    cases hwithin
    obtain ⟨user, huser, hconverts⟩ := Context.converts_of_mem _ hf.converted hout
    have hselected : job.config.exports .databaseUser = true := by
      by_contra hnot
      rw [hf.users.eq_nil (Bool.eq_false_iff.mpr hnot)] at huser
      cases huser
    have hlisted := hf.users
    rw [Lists, if_pos hselected] at hlisted
    exact ⟨f.users, user, huser, hlisted, hconverts.authenticates⟩
  | _ => cases hwithin

/-- A user with a certificate, for whom a directory is said not to be used, and the users of a small
project. -/
theorem users_authenticate_certificate :
    (∃ (ctx : Context) (out : _) (claims : _),
      ctx.databaseUser { x509Type := some "MANAGED", ldapAuthType := some "NONE" } Claims.empty =
        some (out, claims) ∧
      out.1.spec.mechanisms = [some "MANAGED", none, none] ∧ out.1.spec.hasPassword = false) ∧
    ∃ manifests, (Job.small "Shop").exported.result = .ok manifests ∧
      ∃ r user, Manifest.databaseUser r ∈ manifests ∧ r.spec.Authenticates user := by
  obtain ⟨hconverted, hrun⟩ := (Job.small "Shop").users_authenticate
  constructor
  · let ctx : Context := ⟨"atlas", "1", "Shop", "2.10.0", false, true⟩
    obtain ⟨⟨out, claims, h⟩, hall⟩ := hconverted ctx
      { x509Type := some "MANAGED", ldapAuthType := some "NONE" }
    have hways := hall _ _ _ h
    have hset : out.1.spec.mechanisms = [some "MANAGED", none, none] :=
      hways.mechanisms_eq.trans (by decide)
    refine ⟨ctx, out, claims, h, hset, Bool.eq_false_iff.mpr fun hhas => hways.not_both ⟨hhas, ?_⟩⟩
    rw [hset]
    exact ⟨some "MANAGED", List.mem_cons_self, by simp⟩
  · obtain ⟨manifests, h, hany⟩ := (Job.small "Shop").exists_of_any
      (fun manifests => manifests.any fun | .databaseUser _ => true | _ => false)
      (by decide +kernel)
    obtain ⟨m, hm, hkind⟩ := List.any_eq_true.mp hany
    cases m with
    | databaseUser r =>
      obtain ⟨_, user, _, _, hways⟩ := hrun manifests h r hm
      exact ⟨manifests, h, r, user, hm, hways⟩
    | _ => cases hkind

/-- The manifest of a user of a directory names no way to authenticate, and refers to no
password. -/
theorem users_authenticate_directory :
    ∃ (ctx : Context) (out : _) (claims : _),
      ctx.databaseUser { ldapAuthType := some "USER" } Claims.empty = some (out, claims) ∧
      (∀ way ∈ out.1.spec.mechanisms, way = none) ∧ out.1.spec.hasPassword = false ∧
      ¬ (out.1.spec.hasPassword = true ↔ ∀ way ∈ out.1.spec.mechanisms, way = none) := by
  let ctx : Context := ⟨"atlas", "1", "Shop", "2.10.0", false, true⟩
  obtain ⟨out, claims, h⟩ := ctx.exists_databaseUser_of_empty { ldapAuthType := some "USER" }
  have hways := (ctx.databaseUser_spec h).1.authenticates
  have hneither := hways.neither_iff.mpr ⟨by decide, by decide⟩
  refine ⟨ctx, out, claims, h, hneither.2, hneither.1, fun hiff => ?_⟩
  have hhas := hiff.mpr hneither.2
  rw [hneither.1] at hhas
  cases hhas

end Job

end AtlasManifests
