import AtlasManifests.Proofs.ManifestRoundTrips
import AtlasManifests.Proofs.SecretValues
import AtlasManifests.Proofs.WrittenFields

/-! # How integrations are laid out

All types of integration come in one flat shape, and each has a layout of its own
(`IntegrationType.layout`): the block of settings that it fills, where each setting comes from, and
the keys of its secret with the fields that they stand for.  The layout says all there is to an
integration and its secret (`IntegrationLayout.Describes`), so fields that it does not name do not
count (`Context.integration_isLaidOut`).
-/
namespace AtlasManifests

namespace Json

/-- The text under a name, empty if there is none. -/
def textAt (name : String) (j : Json) : String := ((j.get? name).bind text?).getD ""

/-- The truth value under a name. -/
def switchAt? (name : String) (j : Json) : Option Bool := (j.get? name).bind bool?

end Json

/-- Where a setting comes from. -/
inductive SettingOrigin where
  /-- It names the secret. -/
  | secret
  /-- It is the text of its name in the source. -/
  | text
  /-- It is the switch of its name in the source, if that is set. -/
  | switch
  deriving DecidableEq

/-- What a setting holds under a name. -/
def SettingOrigin.write (source : Json) (secret : Reference) (name : String) :
    SettingOrigin → Option Json
  | .secret => some secret.toJson
  | .text => some (.str (source.textAt name))
  | .switch => (source.switchAt? name).map fun on => .str (if on then "enabled" else "disabled")

/-- How the integrations of a type are laid out. -/
structure IntegrationLayout where
  /-- The type, as sources tell it. -/
  tag : String
  /-- The name of the block of settings. -/
  block : String
  settings : List (String × SettingOrigin)
  /-- The keys of the secret, each with the field of the source that it stands for. -/
  keys : List (String × String)

namespace IntegrationLayout

variable (layout : IntegrationLayout)

/-- The fields of a source that count besides its type. -/
def fields : List String :=
  layout.keys.map (·.2) ++ (layout.settings.filter (·.2 ≠ .secret)).map (·.1)

/-- The block of settings of a source. -/
def blockOf (source : Json) (secret : Reference) : Json :=
  .ofFields (layout.settings.map fun (name, origin) => (name, origin.write source secret name))

/-- What the secret of a source holds. -/
def materialOf (source : Json) (includeSecrets : Bool) : List (String × List UInt8) :=
  layout.keys.map fun (key, field) =>
    (key, if includeSecrets then Secret.bytes (source.textAt field) else [])

/-- An integration and its secret are those of a source, the secret with a name.  Besides the link,
the integration has its type and one block of settings. -/
structure Describes (source : Json) (includeSecrets : Bool) (secretName : String)
    (out : Resource IntegrationSpec × Secret) : Prop where
  spec : out.1.spec.toJson.without Linkage.members =
    .obj [("type", .str layout.tag), (layout.block, layout.blockOf source ⟨secretName⟩)]
  name : out.2.metadata.name = some secretName
  data : ∃ data, out.2.data = some data ∧ data.Perm (layout.materialOf source includeSecrets)
  texts : out.2.texts = none

end IntegrationLayout

/-- The layout of each type. -/
def IntegrationType.layout : IntegrationType → IntegrationLayout
  | datadog =>
    { tag := "DATADOG"
      block := "datadog"
      settings := [("apiKeySecretRef", .secret), ("region", .text),
        ("sendCollectionLatencyMetrics", .switch), ("sendDatabaseMetrics", .switch)]
      keys := [("apiKey", "apiKey")] }
  | microsoftTeams =>
    { tag := "MICROSOFT_TEAMS"
      block := "microsoftTeams"
      settings := [("urlSecretRef", .secret)]
      keys := [("webhookURL", "microsoftTeamsWebhookUrl")] }
  | newRelic =>
    { tag := "NEW_RELIC"
      block := "newRelic"
      settings := [("credentialsSecretRef", .secret)]
      keys := [("accountId", "accountId"), ("licenseKey", "licenseKey"),
        ("readToken", "readToken"), ("writeToken", "writeToken")] }
  | opsGenie =>
    { tag := "OPS_GENIE"
      block := "opsGenie"
      settings := [("apiKeySecretRef", .secret), ("region", .text)]
      keys := [("apiKey", "apiKey")] }
  | pagerDuty =>
    { tag := "PAGER_DUTY"
      block := "pagerDuty"
      settings := [("serviceKeySecretRef", .secret), ("region", .text)]
      keys := [("serviceKey", "serviceKey")] }
  | prometheus =>
    { tag := "PROMETHEUS"
      block := "prometheus"
      settings := [("enabled", .switch), ("prometheusCredentialsSecretRef", .secret),
        ("serviceDiscovery", .text)]
      keys := [("username", "username"), ("password", "password")] }
  | slack =>
    { tag := "SLACK"
      block := "slack"
      settings := [("apiTokenSecretRef", .secret), ("channelName", .text), ("teamName", .text)]
      keys := [("apiToken", "apiToken")] }
  | victorOps =>
    { tag := "VICTOR_OPS"
      block := "victorOps"
      settings := [("routingKey", .text), ("apiKeySecretRef", .secret)]
      keys := [("apiKey", "apiKey")] }
  | webhook =>
    { tag := "WEBHOOK"
      block := "webhook"
      settings := [("urlSecretRef", .secret)]
      keys := [("url", "url"), ("secret", "secret")] }

/-! ## Settings and material -/

/-- The fields of an integration that settings come from. -/
def Integration.settings (source : Integration) : List (String × Option Json) :=
  [("region", Writing.explicit.optional Json.str source.region),
    ("channelName", Writing.explicit.optional Json.str source.channelName),
    ("teamName", Writing.explicit.optional Json.str source.teamName),
    ("routingKey", Writing.explicit.optional Json.str source.routingKey),
    ("serviceDiscovery", Writing.explicit.optional Json.str source.serviceDiscovery),
    ("sendCollectionLatencyMetrics",
      Writing.explicit.optional Json.bool source.sendCollectionLatencyMetrics),
    ("sendDatabaseMetrics", Writing.explicit.optional Json.bool source.sendDatabaseMetrics),
    ("enabled", Writing.explicit.optional Json.bool source.enabled)]

theorem Integration.get?_settings (source : Integration) :
    ∀ entry ∈ source.settings, source.toJson.get? entry.1 = entry.2 := by
  have hnodup : Integration.fields.Nodup := by decide
  refine fun entry h => Json.get?_ofFields_of_mem (by exact hnodup) ?_
  revert entry
  simp [settings]

theorem Writing.bool?_explicit (value : Option Bool) :
    (Writing.explicit.optional Json.bool value).bind Json.bool? = value := by
  cases value with
  | none => rfl
  | some b => rfl

/-- A switch that is set is written in words. -/
theorem enabledOrDisabled_written (value : Option Bool) :
    Writing.compact.optional Json.str (enabledOrDisabled value) =
      value.map fun on => .str (if on then "enabled" else "disabled") := by
  cases value with
  | none => rfl
  | some on => rfl

namespace IntegrationType

variable (type : IntegrationType)

theorem layout_tag : type.layout.tag = type.tag := by cases type <;> rfl

theorem nodup_keys : (type.layout.keys.map (·.1)).Nodup := by cases type <;> decide

theorem keys_layout (source : Integration) : type.layout.keys =
    (type.material source).map fun entry => (entry.1, Integration.fieldOfKey entry.1) := by
  cases type <;> rfl

/-- The material of a type is that of its layout. -/
theorem materialOf_layout (source : Integration) (includeSecrets : Bool) :
    type.layout.materialOf source.toJson includeSecrets = (type.material source).map fun entry =>
      (entry.1, if includeSecrets then Secret.bytes (entry.2.getD "") else []) := by
  rw [IntegrationLayout.materialOf, keys_layout type source, List.map_map]
  refine List.map_congr_left fun entry hentry => ?_
  have htext : source.toJson.textAt (Integration.fieldOfKey entry.1) = entry.2.getD "" :=
    congrArg (·.getD "") (text?_of_mem_material hentry)
  simp only [Function.comp_apply, htext]

end IntegrationType

theorem Context.toJson_integrationSpec (ctx : Context) (type : IntegrationType)
    (source : Integration) (secret : Reference) :
    (ctx.integrationSpec type source secret).toJson =
      .ofFields (ctx.linkage.fields ++ [("type", some (.str type.layout.tag)),
        (type.layout.block, some (type.layout.blockOf source.toJson secret))]) := by
  have hget := source.get?_settings
  simp only [Integration.settings, List.forall_mem_cons] at hget
  obtain ⟨hregion, hchannel, hteam, hrouting, hdiscovery, hlatency, hmetrics, henabled, -⟩ := hget
  rw [IntegrationSpec.toJson, (ctx.integrationSpec_spec type source secret).1, Json.ofFields,
    Json.ofFields, List.filterMap_append, List.filterMap_append]
  congr 2
  cases type
  all_goals simp only [IntegrationType.layout, IntegrationLayout.blockOf, List.map,
    SettingOrigin.write, Json.textAt, Json.switchAt?, hregion, hchannel, hteam, hrouting,
    hdiscovery, hlatency, hmetrics, henabled, Writing.text?_explicit, Writing.bool?_explicit,
    ← enabledOrDisabled_written]
  all_goals rfl

/-- Fields that a layout does not name do not count. -/
theorem IntegrationLayout.blockOf_congr (layout : IntegrationLayout) {source source' : Json}
    (h : Json.AgreeOn layout.fields source' source) (secret : Reference) :
    layout.blockOf source' secret = layout.blockOf source secret := by
  have hwrite : ∀ entry ∈ layout.settings,
      entry.2.write source' secret entry.1 = entry.2.write source secret entry.1 := by
    rintro ⟨name, origin⟩ hentry
    have hget : origin ≠ .secret → source'.get? name = source.get? name := fun hne =>
      h name (List.mem_append_right _ (List.mem_map.mpr
        ⟨_, List.mem_filter.mpr ⟨hentry, decide_eq_true hne⟩, rfl⟩))
    cases origin with
    | secret => rfl
    | text => rw [SettingOrigin.write, SettingOrigin.write, Json.textAt, Json.textAt, hget nofun]
    | switch =>
      rw [SettingOrigin.write, SettingOrigin.write, Json.switchAt?, Json.switchAt?, hget nofun]
  exact congrArg Json.ofFields (List.map_congr_left fun entry hentry =>
    congrArg (Prod.mk entry.1) (hwrite entry hentry))

theorem IntegrationLayout.materialOf_congr (layout : IntegrationLayout) {source source' : Json}
    (h : Json.AgreeOn layout.fields source' source) (includeSecrets : Bool) :
    layout.materialOf source' includeSecrets = layout.materialOf source includeSecrets := by
  refine List.map_congr_left fun entry hentry => ?_
  have hget : source'.get? entry.2 = source.get? entry.2 :=
    h entry.2 (List.mem_append_left _ (List.mem_map_of_mem hentry))
  simp only [Json.textAt, hget]

namespace Context

variable (ctx : Context)

/-- The name of the secret of an integration. -/
def integrationSecretName (type : IntegrationType) : String :=
  ctx.scopedName [type.dashed, "integration", "secret"]

theorem integration_of_tag {type : IntegrationType} {source : Integration}
    (h : type.layout.tag = source.kind) : ctx.integration source =
      some (ctx.resource (ctx.scopedName [type.dashed, "integration"])
          (ctx.integrationSpec type source ⟨ctx.integrationSecretName type⟩),
        ctx.resourceSecret (ctx.integrationSecretName type) (type.material source)) := by
  have htype : IntegrationType.ofTag? source.kind = some type := by
    rw [← h, IntegrationType.layout_tag, IntegrationType.ofTag?_tag]
  rw [integration, htype, Option.map_some]
  rfl

/-- Nothing comes of an integration of an unknown type. -/
theorem integration_eq_none_iff (source : Integration) :
    ctx.integration source = none ↔ ∀ type : IntegrationType, type.layout.tag ≠ source.kind := by
  rw [integration, Option.map_eq_none_iff, IntegrationType.ofTag?, List.find?_eq_none]
  constructor
  · intro h type htag
    exact h type type.mem_all (beq_iff_eq.mpr (type.layout_tag ▸ htag))
  · intro h type _ htag
    exact h type (type.layout_tag.trans (beq_iff_eq.mp htag))

/-- An integration and its secret depend on the fields that its layout names. -/
theorem integration_congr {type : IntegrationType} {source source' : Integration}
    (h : type.layout.tag = source.kind) (hkind : source'.kind = source.kind)
    (hagree : Json.AgreeOn type.layout.fields source'.toJson source.toJson) :
    ctx.integration source' = ctx.integration source := by
  have hspec (secret : Reference) :
      ctx.integrationSpec type source' secret = ctx.integrationSpec type source secret := by
    apply IntegrationSpec.undoes.injective
    rw [toJson_integrationSpec, toJson_integrationSpec, type.layout.blockOf_congr hagree]
  have hsecret (name : String) : ctx.resourceSecret name (type.material source') =
      ctx.resourceSecret name (type.material source) := by
    have hmaterial := type.layout.materialOf_congr hagree ctx.includeSecrets
    rw [type.materialOf_layout, type.materialOf_layout] at hmaterial
    rw [resourceSecret, resourceSecret]
    exact congrArg (fun data => Secret.build name ctx.space data ctx.credentialsLabels) hmaterial
  rw [ctx.integration_of_tag h, ctx.integration_of_tag (h.trans hkind.symm), hspec, hsecret]

/-- What an integration and its secret say is what the layout of its type says. -/
theorem describes_layout (type : IntegrationType) (source : Integration) (name : String) :
    type.layout.Describes source.toJson ctx.includeSecrets (ctx.integrationSecretName type)
      (ctx.resource name (ctx.integrationSpec type source ⟨ctx.integrationSecretName type⟩),
        ctx.resourceSecret (ctx.integrationSecretName type) (type.material source)) where
  spec := by
    have hspec := ctx.toJson_integrationSpec type source ⟨ctx.integrationSecretName type⟩
    rw [resource, hspec, Linkage.without_fields_append, Json.without_ofFields]
    cases type <;> rfl
  name := rfl
  data := by
    have hnodup : ((type.layout.materialOf source.toJson ctx.includeSecrets).map (·.1)).Nodup := by
      rw [IntegrationLayout.materialOf, List.map_map]
      exact type.nodup_keys
    refine ⟨_, rfl, ?_⟩
    rw [type.materialOf_layout] at hnodup ⊢
    exact Assoc.ofList_perm hnodup
  texts := rfl

/-- **Integrations are laid out by their types.**  Nothing comes of an integration exactly if its
type is none of those that have a layout.  Otherwise there is an integration and a secret, and the
layout says what they hold: besides its link, the integration has its type and the one block of that
type, with a reference to the secret by its name, and the secret has the keys of that type, each
with the bytes of its field, or with none where secrets hold no material.  Neither of the two
depends on fields that the layout does not name. -/
theorem integration_isLaidOut (source : Integration) :
    (ctx.integration source = none ↔ ∀ type : IntegrationType, type.layout.tag ≠ source.kind) ∧
    ∀ type : IntegrationType, type.layout.tag = source.kind →
      ∃ out secretName, ctx.integration source = some out ∧
        type.layout.Describes source.toJson ctx.includeSecrets secretName out ∧
        ∀ source' : Integration, source'.kind = source.kind →
          Json.AgreeOn type.layout.fields source'.toJson source.toJson →
          ctx.integration source' = some out := by
  refine ⟨ctx.integration_eq_none_iff source, ?_⟩
  intro type h
  have hout := ctx.integration_of_tag h
  refine ⟨_, _, hout, ctx.describes_layout type source _, ?_⟩
  intro source' hkind hagree
  rw [ctx.integration_congr h hkind hagree, hout]

/-- A Datadog integration, and one that has settings of other types as well. -/
theorem integration_isLaidOut_datadog :
    let ctx : Context :=
      { space := "atlas", projectId := "1", projectName := "Shop", operatorVersion := "2.10.0"
        independent := true, includeSecrets := true }
    let source : Integration :=
      { kind := "DATADOG", apiKey := some "k", sendDatabaseMetrics := some true }
    let source' : Integration := { source with teamName := some "ops", enabled := some false }
    IntegrationType.datadog.layout.tag = source.kind ∧ source'.kind = source.kind ∧
      Json.AgreeOn IntegrationType.datadog.layout.fields source'.toJson source.toJson ∧
      ∃ out secretName, ctx.integration source = some out ∧
        IntegrationType.datadog.layout.Describes source.toJson true secretName out ∧
        ctx.integration source' = some out := by
  intro ctx source source'
  have hagree :
      Json.AgreeOn IntegrationType.datadog.layout.fields source'.toJson source.toJson := by
    intro name hname
    have hname : name ∈
      ["apiKey", "region", "sendCollectionLatencyMetrics", "sendDatabaseMetrics"] := hname
    simp only [List.mem_cons, List.not_mem_nil, or_false] at hname
    rcases hname with rfl | rfl | rfl | rfl
    all_goals rfl
  obtain ⟨out, secretName, hout, hdescribes, hother⟩ :=
    (ctx.integration_isLaidOut source).2 .datadog rfl
  exact ⟨rfl, rfl, hagree, out, secretName, hout, hdescribes, hother source' rfl hagree⟩

end Context

end AtlasManifests
