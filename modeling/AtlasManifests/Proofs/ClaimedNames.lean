import AtlasManifests.Proofs.DisambiguatedNames

/-! # Database users keep to their own names

Usernames that differ can be spelled alike, and a name that was made distinct can be the plain
name of another user.  Neither matters: users that are converted in turn are a history of claims,
which gives away the names of their manifests (`Context.databaseUsers_spec`), and no history gives a
name away twice, or one that was in use before it (`Context.databaseUsers_fresh`).
-/
namespace AtlasManifests

/-- What tells the objects of a namespace apart: their kind and their name. -/
def Manifest.key (m : Manifest) : String × String := (m.kind, m.name)

namespace Context

variable (ctx : Context) {user : DatabaseUser} {claims claims' : Claims}
  {out : Resource DatabaseUserSpec × Option Secret}

/-- The secret of a password that is not known. -/
def passwordSecret (name : String) : Secret := ctx.resourceSecret name [("password", none)]

/-- The manifests of a user. -/
def userManifests (out : Resource DatabaseUserSpec × Option Secret) : List Manifest :=
  .databaseUser out.1 :: out.2.toList.map .secret

theorem passwordSecret_data (name : String) :
    (ctx.passwordSecret name).data = some [("password", [])] := by
  cases hsecrets : ctx.includeSecrets <;>
    simp [passwordSecret, resourceSecret, Secret.build, hsecrets, Assoc.ofList, Assoc.insert,
      Secret.bytes]

/-! ## What users are converted to -/

/-- A user is converted under a name, and a secret under another one if it has a password. -/
def Converts (user : DatabaseUser) (out : Resource DatabaseUserSpec × Option Secret) : Prop :=
  ∃ (name : String) (secretName : Option String),
    Label.IsLabel name.toList ∧ (∀ s ∈ secretName, Label.IsLabel s.toList) ∧
      secretName.isSome = user.usesPassword ∧
      out = (ctx.resource name (ctx.databaseUserSpec user secretName),
        secretName.map ctx.passwordSecret)

/-- **What a user is converted to**, and the claims by which its manifests get their names. -/
theorem databaseUser_spec (h : ctx.databaseUser user claims = some (out, claims')) :
    ctx.Converts user out ∧ ∃ events, Claims.History claims events claims' ∧
      Claims.given events = (userManifests out).map Manifest.key := by
  rw [databaseUser] at h
  obtain ⟨⟨name, between⟩, hname, h⟩ := Option.bind_eq_some_iff.mp h
  have hlabel := Claims.isLabel_claim hname (Label.isLabel_normalizeParts _)
  dsimp only at h
  split at h
  · obtain ⟨⟨secretName, after⟩, hsecret, h⟩ := Option.bind_eq_some_iff.mp h
    have hsecretLabel := Claims.isLabel_claim hsecret (Label.isLabel_normalizeParts _)
    obtain ⟨rfl, rfl⟩ := Prod.mk.inj (Option.some.inj h)
    refine ⟨⟨name, some secretName, hlabel, ?_, Eq.symm ‹_›, rfl⟩, _,
      .cons (.of_claim hname) (.cons (.of_claim hsecret) (.nil _)), rfl⟩
    intro s hs
    obtain rfl := Option.some.inj hs
    exact hsecretLabel
  · obtain ⟨rfl, rfl⟩ := Prod.mk.inj (Option.some.inj h)
    have hplain : user.usesPassword = false := Bool.eq_false_iff.mpr ‹_›
    exact ⟨⟨name, none, hlabel, by simp, hplain.symm, rfl⟩, _,
      .cons (.of_claim hname) (.nil _), rfl⟩

/-- **What users are converted to in turn**, and the claims by which all their manifests get their
names. -/
theorem databaseUsers_spec {users : List DatabaseUser}
    {converted : List (Resource DatabaseUserSpec × Option Secret)}
    (h : ctx.databaseUsers users claims = some converted) :
    List.Forall₂ ctx.Converts users converted ∧
      ∃ events after, Claims.History claims events after ∧
        Claims.given events = (converted.flatMap userManifests).map Manifest.key := by
  induction users generalizing claims converted with
  | nil =>
    obtain rfl := Option.some.inj h
    exact ⟨.nil, [], claims, .nil claims, rfl⟩
  | cons user rest ih =>
    rw [databaseUsers] at h
    obtain ⟨⟨out, between⟩, hout, h⟩ := Option.bind_eq_some_iff.mp h
    obtain ⟨later, hlater, h⟩ := Option.bind_eq_some_iff.mp h
    obtain rfl := Option.some.inj h
    obtain ⟨hconverts, events, hfirst, hgiven⟩ := ctx.databaseUser_spec hout
    obtain ⟨hall, events', after, hrest, hgiven'⟩ := ih hlater
    refine ⟨.cons hconverts hall, events ++ events', after,
      Claims.history_append_iff.mpr ⟨between, hfirst, hrest⟩, ?_⟩
    rw [Claims.given_append, hgiven, hgiven', List.flatMap_cons, List.map_append]

/-- **Users in turn never share a name**, nor do they have one that was taken before. -/
theorem databaseUsers_fresh {users : List DatabaseUser}
    {converted : List (Resource DatabaseUserSpec × Option Secret)}
    (h : ctx.databaseUsers users claims = some converted) :
    ((converted.flatMap userManifests).map Manifest.key).Nodup ∧
      ∀ key ∈ (converted.flatMap userManifests).map Manifest.key, key ∉ claims.taken := by
  obtain ⟨_, events, after, hhistory, hgiven⟩ := ctx.databaseUsers_spec h
  rw [← hgiven]
  exact hhistory.given_nodup

/-- Each user is converted, in order. -/
theorem databaseUsers_forall₂ {users : List DatabaseUser}
    {converted : List (Resource DatabaseUserSpec × Option Secret)}
    (h : ctx.databaseUsers users claims = some converted) :
    List.Forall₂ ctx.Converts users converted := (ctx.databaseUsers_spec h).1

theorem converts_of_mem {users : List DatabaseUser}
    {converted : List (Resource DatabaseUserSpec × Option Secret)}
    (h : ctx.databaseUsers users claims = some converted) (hout : out ∈ converted) :
    ∃ user ∈ users, ctx.Converts user out := by
  have hall := ctx.databaseUsers_forall₂ h
  clear h
  induction hall with
  | nil => cases hout
  | cons hhead _ ih =>
    rcases List.mem_cons.mp hout with rfl | hout
    · exact ⟨_, List.mem_cons_self, hhead⟩
    · obtain ⟨user, huser, hc⟩ := ih hout
      exact ⟨user, List.mem_cons_of_mem _ huser, hc⟩

variable {converted : List (Resource DatabaseUserSpec × Option Secret)}

/-- The names of the users. -/
def userNames (converted : List (Resource DatabaseUserSpec × Option Secret)) :
    List (Option String) :=
  converted.map fun out => out.1.metadata.name

/-- The names of the secrets of their passwords. -/
def passwordSecretNames (converted : List (Resource DatabaseUserSpec × Option Secret)) :
    List (Option String) :=
  converted.filterMap fun out => out.2.map (·.metadata.name)

theorem userNames_sublist :
    ((userNames converted).map fun name =>
      (CuratedKind.databaseUser.resource, name.getD "")).Sublist
        ((converted.flatMap userManifests).map Manifest.key) := by
  induction converted with
  | nil => exact List.Sublist.refl _
  | cons out rest ih =>
    rw [List.flatMap_cons, userManifests, List.cons_append]
    refine List.Sublist.cons_cons _ (ih.trans (List.Sublist.map _ ?_))
    exact List.sublist_append_right _ _

theorem passwordSecretNames_sublist :
    ((passwordSecretNames converted).map fun name => ("Secret", name.getD "")).Sublist
      ((converted.flatMap userManifests).map Manifest.key) := by
  induction converted with
  | nil => exact List.Sublist.refl _
  | cons out rest ih =>
    obtain ⟨user, secret⟩ := out
    rw [List.flatMap_cons, userManifests, List.map_append, List.map_cons]
    cases secret with
    | none => exact List.Sublist.cons _ ih
    | some secret => exact List.Sublist.cons _ (List.Sublist.cons_cons _ ih)

theorem mem_keys_of_mem_passwordSecretNames {name : String}
    (h : some name ∈ passwordSecretNames converted) :
    ("Secret", name) ∈ (converted.flatMap userManifests).map Manifest.key :=
  passwordSecretNames_sublist.subset (List.mem_map_of_mem h)

/-- A user has a secret exactly if it has a password, refers to it by its name, and the secret
has a place for the password and nothing in it. -/
structure KeepsPassword (user : DatabaseUser) (out : Resource DatabaseUserSpec × Option Secret) :
    Prop where
  username : out.1.spec.username = user.username
  databaseName : out.1.spec.databaseName = user.databaseName
  secret : out.2.isSome = user.usesPassword
  reference : out.1.spec.passwordSecretRef.isSome = out.2.isSome
  referent : ∀ ref ∈ out.1.spec.passwordSecretRef, ∃ secret ∈ out.2,
    secret.metadata.name = some ref.name
  data : ∀ secret ∈ out.2, secret.data = some [("password", [])] ∧ secret.texts = none

theorem Converts.keepsPassword {ctx : Context} (h : ctx.Converts user out) :
    KeepsPassword user out := by
  obtain ⟨name, secretName, _, _, hpassword, rfl⟩ := h
  refine ⟨rfl, rfl, ?_, ?_, ?_, ?_⟩
  · rw [Option.isSome_map, hpassword]
  · rw [Option.isSome_map]
    exact Option.isSome_map
  · intro ref href
    obtain ⟨s, hs, rfl⟩ := Option.map_eq_some_iff.mp href
    exact ⟨ctx.passwordSecret s, Option.map_eq_some_iff.mpr ⟨s, hs, rfl⟩, rfl⟩
  · intro secret hsecret
    obtain ⟨s, _, rfl⟩ := Option.map_eq_some_iff.mp hsecret
    exact ⟨ctx.passwordSecret_data s, rfl⟩

/-- **Users whose names are spelled alike stay apart**, and so do the secrets of their passwords,
if they are converted in turn with the name of the project's secret taken first.  A user refers
to a secret exactly if there is one for it, by its name, and no such secret holds a password. -/
theorem databaseUsers_apart {users : List DatabaseUser}
    (h : ctx.databaseUsers users (claims.reserve "Secret" ctx.credentialsSecretName).2 =
      some converted) :
    (userNames converted).Nodup ∧ (passwordSecretNames converted).Nodup ∧
      some ctx.credentialsSecretName ∉ passwordSecretNames converted ∧
      List.Forall₂ KeepsPassword users converted := by
  obtain ⟨hnodup, hfree⟩ := ctx.databaseUsers_fresh h
  refine ⟨(hnodup.sublist userNames_sublist).of_map,
    (hnodup.sublist passwordSecretNames_sublist).of_map, ?_,
    (ctx.databaseUsers_forall₂ h).imp fun _ _ hc => hc.keepsPassword⟩
  exact fun hmem => hfree _ (mem_keys_of_mem_passwordSecretNames hmem) Claims.mem_taken_reserve

/-- Three users with one spelling, of whom one has no password. -/
theorem databaseUsers_apart_one_spelling :
    ∃ ctx : Context, ∃ converted,
      ctx.databaseUsers [{ username := "app_user" }, { username := "App User" },
          { username := "app-user", x509Type := some "MANAGED" }]
        (Claims.empty.reserve "Secret" ctx.credentialsSecretName).2 = some converted ∧
      (userNames converted).Nodup ∧ (passwordSecretNames converted).Nodup := by
  let ctx : Context := ⟨"atlas", "1", "Shop", "2.10.0", false, true⟩
  obtain ⟨converted, h⟩ : ∃ converted,
      ctx.databaseUsers [{ username := "app_user" }, { username := "App User" },
          { username := "app-user", x509Type := some "MANAGED" }]
        (Claims.empty.reserve "Secret" ctx.credentialsSecretName).2 = some converted :=
    Option.isSome_iff_exists.mp (by decide +kernel)
  obtain ⟨hnames, hsecrets, _⟩ := ctx.databaseUsers_apart h
  exact ⟨ctx, converted, h, hnames, hsecrets⟩

end Context

end AtlasManifests
