import AtlasManifests.Proofs.SecretMaterial

/-! # What secrets hold

Whether secrets hold their material decides on nothing but the bytes under their keys: an export
without material is the export with it, redacted (`Job.exported_redacted_withSecrets`).  With
material, a secret holds under each of its keys the bytes of the field that the key stands for
(`Findings.content_manifests`), and nothing where its source has no such field.  Passwords of
database users are never known.
-/
namespace AtlasManifests

/-- An export whose secrets hold their material, or hold nothing. -/
def Job.withSecrets (includeSecrets : Bool) (job : Job) : Job :=
  { job with config := { job.config with includeSecrets } }

/-- A context in which secrets hold their material, or hold nothing. -/
def Context.withSecrets (includeSecrets : Bool) (ctx : Context) : Context :=
  { ctx with includeSecrets }

/-! ## Sources of material -/

/-- What the material of a secret is taken from. -/
inductive MaterialSource where
  /-- The key to the control plane, if one is configured. -/
  | key (credentials : Option Credentials)
  | password (user : DatabaseUser)
  | integration (source : Integration)

/-- The field of an integration that a key of its secret stands for. -/
def Integration.fieldOfKey (key : String) : String :=
  if key = "webhookURL" then "microsoftTeamsWebhookUrl" else key

/-- Whether the type of an integration is known. -/
def Integration.isKnown (source : Integration) : Bool :=
  (IntegrationType.ofTag? source.kind).isSome

namespace MaterialSource

/-- The keys of the secret of a source. -/
def keys : MaterialSource → List String
  | key _ => Credentials.fields
  | password _ => ["password"]
  | integration source => ((IntegrationType.ofTag? source.kind).map (·.secretKeys)).getD []

/-- The text of a source that a key stands for, as the source tells it.  Nobody tells passwords of
database users. -/
def text? (name : String) : MaterialSource → Option String
  | key credentials => credentials.bind fun c => (c.toJson.get? name).bind Json.text?
  | password _ => none
  | integration source => (source.toJson.get? (Integration.fieldOfKey name)).bind Json.text?

/-- The fields of the secret of a source. -/
def fields (source : MaterialSource) : List (String × Option String) :=
  source.keys.map fun name => (name, source.text? name)

/-- What the secret of a source holds: the bytes of its texts, and no bytes for a text that is
missing. -/
def data (source : MaterialSource) : List (String × List UInt8) :=
  Assoc.ofList (source.keys.map fun name => (name, Secret.bytes ((source.text? name).getD "")))

end MaterialSource

theorem Writing.text?_explicit (value : Option String) :
    (Writing.explicit.optional Json.str value).bind Json.text? = value := by
  cases value with
  | none => rfl
  | some s => rfl

/-- The keys of an integration stand for fields that it writes. -/
theorem IntegrationType.text?_of_mem_material {type : IntegrationType} {source : Integration}
    {entry : String × Option String} (h : entry ∈ type.material source) :
    (MaterialSource.integration source).text? entry.1 = entry.2 := by
  have hnodup : Integration.fields.Nodup := by decide
  rw [MaterialSource.text?, Integration.toJson, Json.lookup_ofFields (by exact hnodup)]
  have hjoin (value : Option String) :
      (some (Writing.explicit.optional Json.str value)).join.bind Json.text? = value :=
    Writing.text?_explicit value
  -- every key is looked up among the names of the fields
  cases type with
  | datadog | microsoftTeams | opsGenie | pagerDuty | slack | victorOps =>
    rw [List.mem_singleton.mp h]
    exact hjoin _
  | prometheus | webhook =>
    rcases List.mem_pair.mp h with rfl | rfl
    · exact hjoin _
    · exact hjoin _
  | newRelic =>
    simp only [material, secretKeys, secretValues, List.zip_cons_cons, List.zip_nil_left,
      List.mem_cons, List.not_mem_nil, or_false] at h
    rcases h with rfl | rfl | rfl | rfl
    all_goals exact hjoin _

/-- The material of an integration of a known type is all fields of its secret. -/
theorem IntegrationType.material_eq_fields {type : IntegrationType} {source : Integration}
    (h : ofTag? source.kind = some type) :
    type.material source = (MaterialSource.integration source).fields := by
  have hkeys : (MaterialSource.integration source).keys = (type.material source).map (·.1) := by
    rw [MaterialSource.keys, h, map_fst_material]
    rfl
  have hsame : ∀ entry ∈ type.material source,
      (entry.1, (MaterialSource.integration source).text? entry.1) = entry := by
    intro entry hentry
    rw [text?_of_mem_material hentry]
  rw [MaterialSource.fields, hkeys, List.map_map]
  exact ((List.map_congr_left hsame).trans (List.map_id _)).symm

/-! ## One secret -/

/-- What a secret holds, as bytes and as texts. -/
def Secret.content (s : Secret) :
    Option (List (String × List UInt8)) × Option (List (String × String)) :=
  (s.data, s.texts)

/-- What the secret of a source holds where secrets hold their material. -/
def MaterialSource.content (source : MaterialSource) :
    Option (List (String × List UInt8)) × Option (List (String × String)) :=
  (some source.data, none)

namespace Context

variable {ctx : Context}

theorem content_resourceSecret (h : ctx.includeSecrets = true) (name : String)
    (source : MaterialSource) :
    (ctx.resourceSecret name source.fields).content = source.content := by
  rw [resourceSecret, MaterialSource.fields, List.map_map, h]
  rfl

theorem content_credentialsSecret (h : ctx.includeSecrets = true)
    (credentials : Option Credentials) :
    (ctx.credentialsSecret credentials).content = (MaterialSource.key credentials).content := by
  have hfields : (MaterialSource.key credentials).fields =
      [("orgId", credentials.map (·.orgId)), ("publicApiKey", credentials.map (·.publicApiKey)),
        ("privateApiKey", credentials.map (·.privateApiKey))] := by
    cases credentials with
    | none => rfl
    | some c => rfl
  rw [credentialsSecret_eq, ← hfields, content_resourceSecret h]

theorem content_passwordSecret (h : ctx.includeSecrets = true) (name : String)
    (user : DatabaseUser) :
    (ctx.passwordSecret name).content = (MaterialSource.password user).content :=
  content_resourceSecret h name (.password user)

theorem content_integration (h : ctx.includeSecrets = true) {source : Integration}
    {out : Resource IntegrationSpec × Secret} (hout : ctx.integration source = some out) :
    out.2.content = (MaterialSource.integration source).content := by
  obtain ⟨type, htype, _, hsecret⟩ := ctx.integration_cases hout
  rw [hsecret, IntegrationType.material_eq_fields htype, content_resourceSecret h]

/-- The secrets of users hold what their sources do, which is no password. -/
theorem content_users (h : ctx.includeSecrets = true) {users : List DatabaseUser}
    {converted : List (Resource DatabaseUserSpec × Option Secret)}
    (hall : List.Forall₂ ctx.Converts users converted) :
    (converted.filterMap Prod.snd).map Secret.content =
      (users.filter (·.usesPassword)).map fun user => (MaterialSource.password user).content := by
  induction hall with
  | nil => rfl
  | @cons user out users converted hout _ ih =>
    obtain ⟨name, secretName, _, _, hpassword, rfl⟩ := hout
    cases secretName with
    | none =>
      have hplain : ¬ user.usesPassword = true := by simp [← hpassword]
      rw [List.filter_cons_of_neg hplain, ← ih]
      rfl
    | some s =>
      rw [List.filter_cons_of_pos hpassword.symm, List.map_cons, ← ih,
        ← content_passwordSecret h s user]
      rfl

/-- The secrets of integrations hold what their sources do. -/
theorem content_integrations (h : ctx.includeSecrets = true) (sources : List Integration) :
    ((sources.filterMap ctx.integration).map Prod.snd).map Secret.content =
      (sources.filter (·.isKnown)).map fun source =>
        (MaterialSource.integration source).content := by
  induction sources with
  | nil => rfl
  | cons source rest ih =>
    cases hout : ctx.integration source with
    | none =>
      have hunknown : ¬ source.isKnown = true := by
        rw [integration, Option.map_eq_none_iff] at hout
        simp [Integration.isKnown, hout]
      rw [List.filterMap_cons_none hout, List.filter_cons_of_neg hunknown, ih]
    | some out =>
      have hknown : source.isKnown = true := by
        obtain ⟨type, htype, _⟩ := ctx.integration_cases hout
        simp [Integration.isKnown, htype]
      rw [List.filterMap_cons_some hout, List.filter_cons_of_pos hknown, List.map_cons,
        List.map_cons, List.map_cons, ih, content_integration h hout]

end Context

example : (MaterialSource.integration { kind := "WEBHOOK", url := some "u" }).data =
    [("secret", []), ("url", [117])] := by
  decide +kernel

/-! ## The secrets of an export -/

/-- The secret that a manifest is. -/
def Manifest.secret? : Manifest → Option Secret
  | secret s => some s
  | _ => none

theorem Manifest.content_within (space : String) (m : Manifest) :
    (m.within space).secret?.map Secret.content = m.secret?.map Secret.content := by
  cases m <;> rfl

namespace Findings

variable (f : Findings) (job : Job)

/-- What there are secrets for: the project, users with a password, and integrations of known
types. -/
def sources : List MaterialSource :=
  (if job.config.exports .project then [.key job.config.credentials] else []) ++
    (f.users.filter (·.usesPassword)).map .password ++
    (f.integrations.filter (·.isKnown)).map .integration

theorem secrets_flatten_blocks :
    (f.blocks job).flatten.filterMap Manifest.secret? =
      (if job.config.exports .project then [(f.ctx job).credentialsSecret job.config.credentials]
        else []) ++ f.converted.filterMap Prod.snd ++ (f.integrationPairs job).map Prod.snd := by
  have hproject : (f.projectManifests job).filterMap Manifest.secret? =
      if job.config.exports .project then [(f.ctx job).credentialsSecret job.config.credentials]
      else [] := by
    rw [projectManifests]
    split
    · rfl
    · rfl
  have husers : (f.converted.flatMap Context.userManifests).filterMap Manifest.secret? =
      f.converted.filterMap Prod.snd := by
    rw [List.filterMap_flatMap]
    induction f.converted with
    | nil => rfl
    | cons out rest ih =>
      obtain ⟨user, secret⟩ := out
      rw [List.flatMap_cons, ih]
      cases secret with
      | none => rfl
      | some s => rfl
  have hintegrations : ((f.integrationPairs job).flatMap fun out =>
      [Manifest.integration out.1, .secret out.2]).filterMap Manifest.secret? =
        (f.integrationPairs job).map Prod.snd := by
    rw [List.filterMap_flatMap]
    exact List.flatMap_pure_eq_map Prod.snd _
  simp only [blocks, List.flatten_cons, List.flatten_nil, List.filterMap_append, hproject, husers,
    hintegrations]
  simp [List.filterMap_map, Function.comp_def, Manifest.secret?]

/-- **With material, secrets hold what their sources tell**, in order. -/
theorem content_manifests {f : Findings} {job : Job} (hf : job.Finds f)
    (h : job.config.includeSecrets = true) :
    ((f.manifests job).filterMap Manifest.secret?).map Secret.content =
      (f.sources job).map MaterialSource.content := by
  have hctx : (f.ctx job).includeSecrets = true := h
  have hspace (l : List Manifest) :
      ((l.map (Manifest.within job.config.space)).filterMap Manifest.secret?).map Secret.content =
        (l.filterMap Manifest.secret?).map Secret.content := by
    rw [List.map_filterMap, List.map_filterMap, List.filterMap_map]
    exact congrArg (List.filterMap · l) (funext (Manifest.content_within job.config.space))
  rw [manifests, hspace, secrets_flatten_blocks, sources]
  simp only [List.map_append, List.map_map]
  refine congrArg₂ (· ++ ·) (congrArg₂ (· ++ ·) ?_ ?_) ?_
  · split
    · exact congrArg (fun c => [c]) (Context.content_credentialsSecret hctx _)
    · rfl
  · exact Context.content_users hctx ((f.ctx job).databaseUsers_forall₂ hf.converted)
  · rw [← List.map_map]
    exact Context.content_integrations hctx f.integrations

end Findings

/-! ## Exports with and without material -/

namespace Context

variable (ctx : Context) (includeSecrets : Bool)

/-- A secret without its material does not tell whether it had any. -/
theorem redacted_resourceSecret_withSecrets (name : String)
    (fields : List (String × Option String)) :
    ((ctx.withSecrets includeSecrets).resourceSecret name fields).redacted =
      (ctx.resourceSecret name fields).redacted := by
  rw [redacted_resourceSecret, redacted_resourceSecret]
  rfl

/-- Where secrets hold no material, nothing is to be taken from them. -/
theorem redacted_resourceSecret_eq_self (h : ctx.includeSecrets = false) (name : String)
    (fields : List (String × Option String)) :
    (ctx.resourceSecret name fields).redacted = ctx.resourceSecret name fields := by
  rw [redacted_resourceSecret, resourceSecret_eq_placeholder ctx h]

/-- The secret of a password is the same with and without material. -/
theorem passwordSecret_withSecrets (name : String) :
    (ctx.withSecrets includeSecrets).resourceSecret name [("password", none)] =
      ctx.resourceSecret name [("password", none)] := by
  have hdata : ((ctx.withSecrets includeSecrets).passwordSecret name).data =
      (ctx.passwordSecret name).data := by
    rw [passwordSecret_data, passwordSecret_data]
  exact congrArg (fun data => { ctx.passwordSecret name with data }) hdata

theorem databaseUser_withSecrets (user : DatabaseUser) (claims : Claims) :
    (ctx.withSecrets includeSecrets).databaseUser user claims = ctx.databaseUser user claims := by
  rw [databaseUser, databaseUser]
  simp only [passwordSecret_withSecrets]
  rfl

theorem databaseUsers_withSecrets (users : List DatabaseUser) (claims : Claims) :
    (ctx.withSecrets includeSecrets).databaseUsers users claims =
      ctx.databaseUsers users claims := by
  induction users generalizing claims with
  | nil => rfl
  | cons user rest ih =>
    rw [databaseUsers, databaseUsers, databaseUser_withSecrets]
    simp only [ih]

/-- An integration and its secret without material do not tell whether there was any. -/
theorem redacted_integration_withSecrets (source : Integration) :
    ((ctx.withSecrets includeSecrets).integration source).map
        (fun out => ((Manifest.integration out.1).redacted, (Manifest.secret out.2).redacted)) =
      (ctx.integration source).map fun out =>
        ((Manifest.integration out.1).redacted, (Manifest.secret out.2).redacted) := by
  rw [integration, integration, Option.map_map, Option.map_map]
  refine congrArg (Option.map · _) (funext fun type => Prod.ext rfl ?_)
  exact congrArg Manifest.secret (ctx.redacted_resourceSecret_withSecrets includeSecrets _ _)

end Context

namespace Job

variable (job : Job) (includeSecrets : Bool) (project : Project)

theorem projectBlock_withSecrets (settings : ProjectSettings) :
    ((job.withSecrets includeSecrets).projectBlock
        ((job.withSecrets includeSecrets).context project) project settings).view
          (List.map Manifest.redacted) =
      (job.projectBlock (job.context project) project settings).view
        (List.map Manifest.redacted) := by
  have hsecret :
      (((job.context project).withSecrets includeSecrets).credentialsSecret
          job.config.credentials).redacted =
        ((job.context project).credentialsSecret job.config.credentials).redacted := by
    rw [Context.credentialsSecret_eq, Context.credentialsSecret_eq]
    exact (job.context project).redacted_resourceSecret_withSecrets includeSecrets _ _
  have hexports : (job.withSecrets includeSecrets).config.exports .project =
      job.config.exports .project := rfl
  rw [projectBlock, projectBlock, hexports]
  split
  · refine Traced.view_bind_congr _ fun _ _ => ?_
    rw [Traced.view_pure, Traced.view_pure]
    exact congrArg (fun s => Pure.pure [_, Manifest.secret s]) hsecret
  · rfl

theorem blocksAlike_withSecrets (settings : ProjectSettings) :
    BlocksAlike Manifest.redacted (job.withSecrets includeSecrets) job project settings where
  project := job.projectBlock_withSecrets includeSecrets project settings
  accessList := rfl
  deployments := rfl
  users := by
    have husers : ∀ users claims,
        ((job.withSecrets includeSecrets).context project).databaseUsers users claims =
          (job.context project).databaseUsers users claims :=
      (job.context project).databaseUsers_withSecrets includeSecrets
    rw [databaseUserBlock, databaseUserBlock]
    refine Traced.view_bind_congr _ fun users _ => ?_
    rw [husers]
    rfl
  containers := rfl
  peerings _ := rfl
  integrations := by
    refine Traced.view_bind_congr _ fun sources _ => ?_
    exact congrArg Pure.pure (map_integrations_congr
      ((job.context project).redacted_integration_withSecrets includeSecrets) sources)
  federations := rfl
  groups := rfl
  clusters groups groups' h := by
    rw [clusters, clusters, h]
    rfl

/-- Up to what its secrets hold, an export is the same with and without material. -/
theorem exported_redacted_withSecrets :
    (job.withSecrets includeSecrets).exported.view (List.map Manifest.redacted) =
      job.exported.view (List.map Manifest.redacted) := by
  refine exported_view_eq rfl rfl (fun _ => rfl) (fun _ => rfl)
    (fun project settings => job.blocksAlike_withSecrets includeSecrets project settings) ?_
  intro space m m' h
  rw [Manifest.redacted_within, Manifest.redacted_within, h]

end Job

/-- Where secrets hold no material, there is nothing to be taken from what is emitted. -/
theorem Findings.Emits.redacted_eq_self {f : Findings} {job : Job} {m : Manifest}
    (hf : job.Finds f) (hsecrets : job.config.includeSecrets = false) (h : f.Emits job m) :
    m.redacted = m := by
  have hself := (f.ctx job).redacted_resourceSecret_eq_self hsecrets
  cases h with
  | credentials _ =>
    rw [Context.credentialsSecret_eq]
    exact congrArg Manifest.secret (hself _ _)
  | password hout hs =>
    obtain ⟨user, _, name, secretName, _, _, _, rfl⟩ := Context.converts_of_mem _ hf.converted hout
    obtain ⟨s, _, rfl⟩ := Option.map_eq_some_iff.mp hs
    exact congrArg Manifest.secret (hself _ _)
  | material _ hout =>
    obtain ⟨type, _, _, hsecret⟩ := (f.ctx job).integration_cases hout
    rw [hsecret]
    exact congrArg Manifest.secret (hself _ _)
  | _ => rfl

namespace Job

variable {job : Job}

theorem redacted_of_exported (hsecrets : job.config.includeSecrets = false)
    {manifests : List Manifest} (h : job.exported.result = .ok manifests) :
    manifests.map Manifest.redacted = manifests := by
  obtain ⟨f, hf, rfl⟩ := exported_eq_ok_iff.mp h
  have hself : ∀ m ∈ f.manifests job, m.redacted = m := by
    intro m hm
    obtain ⟨emitted, hemits, rfl⟩ := Findings.mem_manifests_iff.mp hm
    rw [Manifest.redacted_within, hemits.redacted_eq_self hf hsecrets]
  exact (List.map_congr_left hself).trans (List.map_id _)

/-- **Secrets differ in their values only.**  With and without material the same happens.  Both
exports fail with the same error, or both succeed, and the one without material is the other one
redacted: nothing is under the keys of its secrets, and all else is the same, object by object.
With material, the secrets hold in order what the project, the users with a password and the
integrations tell of the fields that the keys stand for. -/
theorem exported_withSecrets (job : Job) :
    (job.withSecrets true).exported.events = (job.withSecrets false).exported.events ∧
    ((∃ e, (job.withSecrets true).exported.result = .error e ∧
        (job.withSecrets false).exported.result = .error e) ∨
      ∃ f manifests, (job.withSecrets true).Finds f ∧
        (job.withSecrets true).exported.result = .ok manifests ∧
        (job.withSecrets false).exported.result = .ok (manifests.map Manifest.redacted) ∧
        (manifests.filterMap Manifest.secret?).map Secret.content =
          (f.sources job).map MaterialSource.content) := by
  have hview : (job.withSecrets true).exported.view (List.map Manifest.redacted) =
      (job.withSecrets false).exported.view (List.map Manifest.redacted) :=
    (job.exported_redacted_withSecrets true).trans (job.exported_redacted_withSecrets false).symm
  obtain ⟨hevents, hfail | ⟨manifests, manifests', hok, hok', heq⟩⟩ := Traced.view_eq_cases hview
  · exact ⟨hevents, .inl hfail⟩
  · obtain ⟨f, hf, hmanifests⟩ := exported_eq_ok_iff.mp hok
    have hplain : manifests.map Manifest.redacted = manifests' := by
      rw [heq]
      exact redacted_of_exported rfl hok'
    refine ⟨hevents, .inr ⟨f, manifests, hf, hok, ?_, ?_⟩⟩
    · rw [hplain, hok']
    · rw [hmanifests]
      exact Findings.content_manifests hf rfl

end Job

end AtlasManifests
