import AtlasManifests.Proofs.PairedRuns
import AtlasManifests.Proofs.SortedMaps

/-! # Secret material stays in secrets

The key in the configuration and twelve fields of integrations are secret material.  Without it an
export is the same up to what secrets hold under their keys, and exactly the same where secrets
hold nothing.  Two exports that differ in nothing but material are therefore alike
(`Job.exported_eq_of_withoutMaterial`): neither their other objects nor the names, labels and keys
of their secrets say anything of it.
-/
namespace AtlasManifests

/-! ## What is secret -/

/-- An integration without its secret material. -/
def Integration.withoutMaterial (source : Integration) : Integration :=
  { source with
    apiKey := none
    accountId := none
    licenseKey := none
    readToken := none
    writeToken := none
    serviceKey := none
    apiToken := none
    url := none
    secret := none
    username := none
    password := none
    microsoftTeamsWebhookUrl := none }

/-- A page with a function applied to its items. -/
def Page.map {α β : Type} (f : α → β) (page : Page α) : Page β := ⟨page.items.map f, page.total⟩

/-- A control plane that tells no secret material. -/
def ControlPlane.withoutMaterial (cp : ControlPlane) : ControlPlane
  | .integrations id page =>
    (cp (.integrations id page)).map (Page.map Integration.withoutMaterial)
  | call => cp call

/-- An export without any secret material.  Two exports that are the same without it differ in
secret material only. -/
def Job.withoutMaterial (job : Job) : Job :=
  { job with
    controlPlane := job.controlPlane.withoutMaterial
    config := { job.config with credentials := none } }

/-- A secret with nothing under its keys. -/
def Secret.redacted (s : Secret) : Secret :=
  { s with
    data := s.data.map (·.map fun (key, _) => (key, []))
    texts := s.texts.map (·.map fun (key, _) => (key, "")) }

/-- A manifest without what it holds as a secret. -/
def Manifest.redacted : Manifest → Manifest
  | secret s => secret s.redacted
  | m => m

theorem Manifest.redacted_within (space : String) (m : Manifest) :
    (m.within space).redacted = m.redacted.within space := by cases m <;> rfl

/-! ## Views that material is not seen in -/

theorem Secret.redacted_build (name space : String) (data : List (String × List UInt8))
    (labels : List (String × String)) :
    (build name space data labels).redacted =
      placeholder name space (data.map Prod.fst) labels := by
  have hdata : (Assoc.ofList data).map (fun (key, _) => (key, ([] : List UInt8))) =
      Assoc.ofList (data.map fun (key, _) => (key, [])) := Assoc.map_ofList (fun _ => []) data
  rw [build, redacted, placeholder, build, List.map_map, Option.map_some, hdata]
  rfl

namespace Context

variable (ctx : Context)

/-- A view of manifests tells of the secrets of a context no more than their keys. -/
def Hides {β : Type} (v : Manifest → β) : Prop :=
  ∀ name fields fields', fields.map Prod.fst = fields'.map Prod.fst →
    v (.secret (ctx.resourceSecret name fields)) = v (.secret (ctx.resourceSecret name fields'))

/-- Of a secret its keys are left. -/
theorem redacted_resourceSecret (name : String) (fields : List (String × Option String)) :
    (ctx.resourceSecret name fields).redacted =
      .placeholder name ctx.space (fields.map Prod.fst) ctx.credentialsLabels := by
  rw [resourceSecret, Secret.redacted_build, List.map_map]
  rfl

/-- Where secrets hold no material, they hold nothing under their keys. -/
theorem resourceSecret_eq_placeholder (h : ctx.includeSecrets = false) (name : String)
    (fields : List (String × Option String)) : ctx.resourceSecret name fields =
      .placeholder name ctx.space (fields.map Prod.fst) ctx.credentialsLabels := by
  simp [resourceSecret, Secret.placeholder, h, Function.comp_def]

theorem hides_redacted : ctx.Hides Manifest.redacted := by
  intro name fields fields' hkeys
  rw [Manifest.redacted, Manifest.redacted, redacted_resourceSecret, redacted_resourceSecret, hkeys]

theorem hides_id (h : ctx.includeSecrets = false) : ctx.Hides id := by
  intro name fields fields' hkeys
  rw [resourceSecret_eq_placeholder ctx h, resourceSecret_eq_placeholder ctx h, hkeys]

/-- The secret of the project is like that of any resource, with the parts of the key if there is
one. -/
theorem credentialsSecret_eq (credentials : Option Credentials) :
    ctx.credentialsSecret credentials = ctx.resourceSecret ctx.credentialsSecretName
      [("orgId", credentials.map (·.orgId)), ("publicApiKey", credentials.map (·.publicApiKey)),
        ("privateApiKey", credentials.map (·.privateApiKey))] := by
  have hempty : Secret.bytes "" = [] := by simp [Secret.bytes]
  cases hsecrets : ctx.includeSecrets with
  | false =>
    rw [resourceSecret_eq_placeholder ctx hsecrets]
    simp only [credentialsSecret, hsecrets]
    rfl
  | true =>
    cases credentials with
    | none =>
      simp [credentialsSecret, resourceSecret, Secret.placeholder, Credentials.fields, hempty]
    | some c => simp [credentialsSecret, resourceSecret, hsecrets]

/-- Material plays no part in what an integration is converted to, its secret aside. -/
theorem integration_withoutMaterial {β : Type} {v : Manifest → β} (hv : ctx.Hides v)
    (source : Integration) :
    (ctx.integration source.withoutMaterial).map
        (fun out => (v (.integration out.1), v (.secret out.2))) =
      (ctx.integration source).map fun out => (v (.integration out.1), v (.secret out.2)) := by
  rw [integration, integration, Option.map_map, Option.map_map]
  refine congrArg (Option.map · _) (funext fun type => Prod.ext ?_ ?_)
  · refine congrArg (fun spec => v (.integration (ctx.resource _ spec))) ?_
    cases type <;> rfl
  · refine hv _ _ _ ?_
    cases type <;> rfl

end Context

/-! ## Listings without material -/

section
variable {ε α β : Type}

theorem Traced.mapError_view (x : Traced ε α) (g : α → β) (f : Error → Error) :
    (x.view g).mapError f = (x.mapError f).view g := by
  obtain ⟨events, result⟩ := x
  cases result with
  | error e => rfl
  | ok a => rfl

/-- Whatever is done to the items is done to those of all pages. -/
theorem pagesFrom_view (fetch : PageRequest → Traced ε (Page α)) (g : α → β) (left : Nat)
    (request : PageRequest) (received : Nat) :
    pagesFrom (fun request => (fetch request).view (Page.map g)) left request received =
      (pagesFrom fetch left request received).view (List.map g) := by
  induction left generalizing request received with
  | zero => rfl
  | succ left ih =>
    rw [pagesFrom, pagesFrom, Traced.bind_view, Traced.view_bind]
    refine congrArg _ (funext fun page => ?_)
    have hlength : (Page.map g page).items.length = page.items.length := List.length_map _
    have hlast : ∀ received, (Page.map g page).isLast request.size received =
        page.isLast request.size received := by
      intro received
      rw [Page.isLast, Page.isLast, hlength]
      rfl
    dsimp only
    rw [hlength, hlast]
    split
    · rfl
    · rw [ih, Traced.bind_view, Traced.view_bind]
      refine congrArg _ (funext fun rest => ?_)
      rw [Traced.view_pure, List.map_append]
      rfl

end

theorem ControlPlane.integrations_withoutMaterial (cp : ControlPlane) (id : String) (size : Nat) :
    cp.withoutMaterial.integrations id size =
      (cp.integrations id size).view (List.map Integration.withoutMaterial) := by
  rw [integrations, integrations, paginate, paginate, ← pagesFrom_view]
  refine congrArg (pagesFrom · _ _ _) (funext fun request => ?_)
  rw [← Traced.mapError_view]
  rfl

/-! ## Exports without material -/

namespace Job

variable {job : Job} {β : Type} {v : Manifest → β}

theorem listed_view {α γ : Type} (kind : CuratedKind) (listing : Traced Call (List α))
    (g : α → γ) :
    job.listed kind (listing.view (List.map g)) = (job.listed kind listing).view (List.map g) := by
  have hcalls : calls (listing.view (List.map g)) = (calls listing).view (List.map g) := rfl
  rw [listed, listed]
  split
  · rw [fetched, fetched, hcalls, Traced.view_bind]
    refine congrArg _ (funext fun _ => ?_)
    rw [Traced.bind_view, Traced.view_bind]
    rfl
  · rfl

theorem integrationBlock_withoutMaterial {ctx : Context} (hv : ctx.Hides v) :
    (job.integrationBlock ctx).view (List.map v) =
      (job.withoutMaterial.integrationBlock ctx).view (List.map v) := by
  have hlisted : job.withoutMaterial.listed .thirdPartyIntegration
      (job.withoutMaterial.controlPlane.integrations job.withoutMaterial.config.projectId
        job.withoutMaterial.pageSize) =
      (job.listed .thirdPartyIntegration (job.controlPlane.integrations job.config.projectId
        job.pageSize)).view (List.map Integration.withoutMaterial) := by
    rw [← listed_view]
    exact congrArg (job.listed _) (job.controlPlane.integrations_withoutMaterial _ _)
  rw [integrationBlock, integrationBlock, hlisted, Traced.bind_view]
  refine Traced.view_bind_congr _ fun sources _ => ?_
  rw [Traced.view_pure, Traced.view_pure, List.filterMap_map]
  exact congrArg _ (map_integrations_congr (ctx.integration_withoutMaterial hv) sources).symm

theorem blocksAlike_withoutMaterial
    (hv : ∀ project, (job.context project).Hides v) (project : Project)
    (settings : ProjectSettings) : BlocksAlike v job job.withoutMaterial project settings where
  project := by
    have hsecret : v (.secret ((job.context project).credentialsSecret job.config.credentials)) =
        v (.secret ((job.context project).credentialsSecret none)) := by
      rw [Context.credentialsSecret_eq, Context.credentialsSecret_eq]
      exact hv project _ _ _ rfl
    have hexports : job.withoutMaterial.config.exports .project = job.config.exports .project := rfl
    rw [projectBlock, projectBlock, hexports]
    split
    · refine Traced.view_bind_congr _ fun _ _ => ?_
      rw [Traced.view_pure, Traced.view_pure, List.map_cons, List.map_singleton, hsecret]
      rfl
    · rfl
  accessList := rfl
  deployments := rfl
  users := rfl
  containers := rfl
  peerings _ := rfl
  integrations := integrationBlock_withoutMaterial (hv project)
  federations := rfl
  groups := rfl
  clusters groups groups' h := by
    rw [clusters, clusters, h]
    rfl

/-- Up to what its secrets hold, an export is the one without material. -/
theorem exported_redacted_withoutMaterial :
    job.exported.view (List.map Manifest.redacted) =
      job.withoutMaterial.exported.view (List.map Manifest.redacted) := by
  refine exported_view_eq rfl rfl (fun _ => rfl) (fun _ => rfl) (fun project settings => ?_) ?_
  · exact blocksAlike_withoutMaterial (fun project => (job.context project).hides_redacted) _ _
  · intro space m m' h
    rw [Manifest.redacted_within, Manifest.redacted_within, h]

/-- Where secrets hold no material, an export is the one without material. -/
theorem exported_withoutMaterial (h : job.config.includeSecrets = false) :
    job.exported = job.withoutMaterial.exported := by
  have hview : job.exported.view (List.map id) =
      job.withoutMaterial.exported.view (List.map id) := by
    refine exported_view_eq rfl rfl (fun _ => rfl) (fun _ => rfl) (fun project settings => ?_) ?_
    · exact blocksAlike_withoutMaterial (fun project => (job.context project).hides_id h) _ _
    · exact fun space m m' heq => congrArg (Manifest.within space) heq
  rwa [List.map_id_fun, Traced.view_id, Traced.view_id] at hview

/-- **Secret material stays in secrets.**  Of two exports that differ in secret material only, the
same happens in both.  They fail with the same error, or the manifests of both are the same up to
what secrets hold under their keys.  If secrets are to hold no material, they are the same
altogether, and so are the streams. -/
theorem exported_eq_of_withoutMaterial {job job' : Job}
    (h : job.withoutMaterial = job'.withoutMaterial) :
    job.exported.events = job'.exported.events ∧
    ((∃ e, job.exported.result = .error e ∧ job'.exported.result = .error e) ∨
      ∃ manifests manifests', job.exported.result = .ok manifests ∧
        job'.exported.result = .ok manifests' ∧
        manifests.map Manifest.redacted = manifests'.map Manifest.redacted) ∧
    (job.config.includeSecrets = false →
      job.exported = job'.exported ∧ job.exportStream = job'.exportStream) := by
  have hredacted : job.exported.view (List.map Manifest.redacted) =
      job'.exported.view (List.map Manifest.redacted) := by
    rw [exported_redacted_withoutMaterial, h, ← exported_redacted_withoutMaterial]
  obtain ⟨hevents, hresult⟩ := Traced.view_eq_cases hredacted
  refine ⟨hevents, hresult, fun hsecrets => ?_⟩
  have hsecrets' : job'.config.includeSecrets = false := by
    rw [← hsecrets]
    exact congrArg (fun job => job.config.includeSecrets) h.symm
  have hexported : job.exported = job'.exported := by
    rw [exported_withoutMaterial hsecrets, h, ← exported_withoutMaterial hsecrets']
  exact ⟨hexported, by rw [exportStream, exportStream, hexported]⟩

end Job

/-- Whether a manifest is a secret with some bytes under one of its keys. -/
def Manifest.holds (value : List UInt8) : Manifest → Bool
  | .secret s => s.data.any (·.any (·.2 == value))
  | _ => false

/-- The export of a small project with a token for Slack, which is also its own key. -/
def Job.keyed (token : String) (includeSecrets : Bool) : Job :=
  { Job.small "Shop" with
    controlPlane := fun
      | .integrations _ _ => .ok ⟨[{ kind := "SLACK", apiToken := some token }], none⟩
      | call => ControlPlane.small "Shop" call
    config :=
      { (Job.small "Shop").config with
        includeSecrets := includeSecrets
        credentials := some ⟨"org", token, token⟩ } }

/-- Exports of a small project with two tokens.  Each token is in a secret of its own export, if
secrets are to hold material at all. -/
theorem Job.exported_eq_of_withoutMaterial_keyed :
    (∀ includeSecrets, (keyed "k1" includeSecrets).withoutMaterial =
      (keyed "k2" includeSecrets).withoutMaterial) ∧
    (∃ manifests manifests', (keyed "k1" true).exported.result = .ok manifests ∧
      (keyed "k2" true).exported.result = .ok manifests' ∧
      manifests.map Manifest.redacted = manifests'.map Manifest.redacted ∧
      manifests.any (·.holds (Secret.bytes "k1")) = true ∧
      manifests'.any (·.holds (Secret.bytes "k1")) = false) ∧
    (keyed "k1" false).exportStream = (keyed "k2" false).exportStream := by
  have hsame (includeSecrets : Bool) : (keyed "k1" includeSecrets).withoutMaterial =
      (keyed "k2" includeSecrets).withoutMaterial := by
    have hcp : (keyed "k1" includeSecrets).controlPlane.withoutMaterial =
        (keyed "k2" includeSecrets).controlPlane.withoutMaterial :=
      funext fun call => by cases call <;> rfl
    rw [withoutMaterial, withoutMaterial, hcp]
    rfl
  obtain ⟨-, hresults, -⟩ := Job.exported_eq_of_withoutMaterial (hsame true)
  obtain ⟨-, -, hsecretless⟩ := Job.exported_eq_of_withoutMaterial (hsame false)
  obtain ⟨manifests, hmanifests, hholds⟩ := (keyed "k1" true).exists_of_any
    (fun manifests => manifests.any (·.holds (Secret.bytes "k1"))) (by decide +kernel)
  obtain ⟨manifests', hmanifests', hholds'⟩ := (keyed "k2" true).exists_of_any
    (fun manifests => !manifests.any (·.holds (Secret.bytes "k1"))) (by decide +kernel)
  refine ⟨hsame, ⟨manifests, manifests', hmanifests, hmanifests', ?_, hholds, ?_⟩,
    (hsecretless rfl).2⟩
  · obtain ⟨e, he, -⟩ | ⟨found, found', hfound, hfound', heq⟩ := hresults
    · rw [hmanifests] at he
      cases he
    · obtain rfl := Except.ok.inj (hmanifests.symm.trans hfound)
      obtain rfl := Except.ok.inj (hmanifests'.symm.trans hfound')
      exact heq
  · rwa [Bool.not_eq_true'] at hholds'

end AtlasManifests
