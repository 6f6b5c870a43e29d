import AtlasManifests.Inventory.Integration
import AtlasManifests.Manifest.Resource

/-! # Integration manifests

A third-party integration with a secret for its material. Each type has keys of its
own in the secret and fills one block of settings.
-/
namespace AtlasManifests

/-- Settings of Datadog. -/
structure DatadogBlock where
  apiKeySecretRef : Reference
  region : String
  sendCollectionLatencyMetrics : Option String := none
  sendDatabaseMetrics : Option String := none

namespace DatadogBlock

/-- The fields in order. -/
def fields : List String :=
  ["apiKeySecretRef", "region", "sendCollectionLatencyMetrics", "sendDatabaseMetrics"]

/-- Reads a Datadog block; `apiKeySecretRef` and `region` have to be there. -/
def ofJson? (j : Json) : Option DatadogBlock := do
  let r ← j.record? .strict fields
  return {
    apiKeySecretRef := ← r.required Reference.ofJson? "apiKeySecretRef"
    region := ← r.text "region"
    sendCollectionLatencyMetrics := ← r.optional Json.text? "sendCollectionLatencyMetrics"
    sendDatabaseMetrics := ← r.optional Json.text? "sendDatabaseMetrics"
  }

/-- Writes a Datadog block without absent values. -/
def toJson (block : DatadogBlock) : Json :=
  .ofFields [
    ("apiKeySecretRef", some block.apiKeySecretRef.toJson),
    ("region", some (.str block.region)),
    ("sendCollectionLatencyMetrics",
      Writing.compact.optional Json.str block.sendCollectionLatencyMetrics),
    ("sendDatabaseMetrics", Writing.compact.optional Json.str block.sendDatabaseMetrics)]

end DatadogBlock

/-- Settings of Microsoft Teams. -/
structure MicrosoftTeamsBlock where
  urlSecretRef : Reference

namespace MicrosoftTeamsBlock

/-- The fields in order. -/
def fields : List String :=
  ["urlSecretRef"]

/-- Reads a Microsoft Teams block; `urlSecretRef` has to be there. -/
def ofJson? (j : Json) : Option MicrosoftTeamsBlock := do
  let r ← j.record? .strict fields
  return {
    urlSecretRef := ← r.required Reference.ofJson? "urlSecretRef"
  }

/-- Writes a Microsoft Teams block. -/
def toJson (block : MicrosoftTeamsBlock) : Json :=
  .ofFields [
    ("urlSecretRef", some block.urlSecretRef.toJson)]

end MicrosoftTeamsBlock

/-- Settings of New Relic. -/
structure NewRelicBlock where
  credentialsSecretRef : Reference

namespace NewRelicBlock

/-- The fields in order. -/
def fields : List String :=
  ["credentialsSecretRef"]

/-- Reads a New Relic block; `credentialsSecretRef` has to be there. -/
def ofJson? (j : Json) : Option NewRelicBlock := do
  let r ← j.record? .strict fields
  return {
    credentialsSecretRef := ← r.required Reference.ofJson? "credentialsSecretRef"
  }

/-- Writes a New Relic block. -/
def toJson (block : NewRelicBlock) : Json :=
  .ofFields [
    ("credentialsSecretRef", some block.credentialsSecretRef.toJson)]

end NewRelicBlock

/-- Settings of Opsgenie. -/
structure OpsGenieBlock where
  apiKeySecretRef : Reference
  region : String

namespace OpsGenieBlock

/-- The fields in order. -/
def fields : List String :=
  ["apiKeySecretRef", "region"]

/-- Reads an OpsGenie block; `apiKeySecretRef` and `region` have to be there. -/
def ofJson? (j : Json) : Option OpsGenieBlock := do
  let r ← j.record? .strict fields
  return {
    apiKeySecretRef := ← r.required Reference.ofJson? "apiKeySecretRef"
    region := ← r.text "region"
  }

/-- Writes an OpsGenie block. -/
def toJson (block : OpsGenieBlock) : Json :=
  .ofFields [
    ("apiKeySecretRef", some block.apiKeySecretRef.toJson),
    ("region", some (.str block.region))]

end OpsGenieBlock

/-- Settings of PagerDuty. -/
structure PagerDutyBlock where
  serviceKeySecretRef : Reference
  region : String

namespace PagerDutyBlock

/-- The fields in order. -/
def fields : List String :=
  ["serviceKeySecretRef", "region"]

/-- Reads a PagerDuty block; `serviceKeySecretRef` and `region` have to be there. -/
def ofJson? (j : Json) : Option PagerDutyBlock := do
  let r ← j.record? .strict fields
  return {
    serviceKeySecretRef := ← r.required Reference.ofJson? "serviceKeySecretRef"
    region := ← r.text "region"
  }

/-- Writes a PagerDuty block. -/
def toJson (block : PagerDutyBlock) : Json :=
  .ofFields [
    ("serviceKeySecretRef", some block.serviceKeySecretRef.toJson),
    ("region", some (.str block.region))]

end PagerDutyBlock

/-- Settings of Prometheus. -/
structure PrometheusBlock where
  enabled : Option String := none
  prometheusCredentialsSecretRef : Reference
  serviceDiscovery : String

namespace PrometheusBlock

/-- The fields in order. -/
def fields : List String :=
  ["enabled", "prometheusCredentialsSecretRef", "serviceDiscovery"]

/-- Reads a Prometheus block; `prometheusCredentialsSecretRef` and `serviceDiscovery` have to
be there. -/
def ofJson? (j : Json) : Option PrometheusBlock := do
  let r ← j.record? .strict fields
  return {
    enabled := ← r.optional Json.text? "enabled"
    prometheusCredentialsSecretRef :=
      ← r.required Reference.ofJson? "prometheusCredentialsSecretRef"
    serviceDiscovery := ← r.text "serviceDiscovery"
  }

/-- Writes a Prometheus block without absent values. -/
def toJson (block : PrometheusBlock) : Json :=
  .ofFields [
    ("enabled", Writing.compact.optional Json.str block.enabled),
    ("prometheusCredentialsSecretRef", some block.prometheusCredentialsSecretRef.toJson),
    ("serviceDiscovery", some (.str block.serviceDiscovery))]

end PrometheusBlock

/-- Settings of Slack. -/
structure SlackBlock where
  apiTokenSecretRef : Reference
  channelName : String
  teamName : String

namespace SlackBlock

/-- The fields in order. -/
def fields : List String :=
  ["apiTokenSecretRef", "channelName", "teamName"]

/-- Reads a Slack block; `apiTokenSecretRef`, `channelName` and `teamName` have to be there. -/
def ofJson? (j : Json) : Option SlackBlock := do
  let r ← j.record? .strict fields
  return {
    apiTokenSecretRef := ← r.required Reference.ofJson? "apiTokenSecretRef"
    channelName := ← r.text "channelName"
    teamName := ← r.text "teamName"
  }

/-- Writes a Slack block. -/
def toJson (block : SlackBlock) : Json :=
  .ofFields [
    ("apiTokenSecretRef", some block.apiTokenSecretRef.toJson),
    ("channelName", some (.str block.channelName)),
    ("teamName", some (.str block.teamName))]

end SlackBlock

/-- Settings of VictorOps. -/
structure VictorOpsBlock where
  routingKey : String
  apiKeySecretRef : Reference

namespace VictorOpsBlock

/-- The fields in order. -/
def fields : List String :=
  ["routingKey", "apiKeySecretRef"]

/-- Reads a VictorOps block; `routingKey` and `apiKeySecretRef` have to be there. -/
def ofJson? (j : Json) : Option VictorOpsBlock := do
  let r ← j.record? .strict fields
  return {
    routingKey := ← r.text "routingKey"
    apiKeySecretRef := ← r.required Reference.ofJson? "apiKeySecretRef"
  }

/-- Writes a VictorOps block. -/
def toJson (block : VictorOpsBlock) : Json :=
  .ofFields [
    ("routingKey", some (.str block.routingKey)),
    ("apiKeySecretRef", some block.apiKeySecretRef.toJson)]

end VictorOpsBlock

/-- Settings of a webhook. -/
structure WebhookBlock where
  urlSecretRef : Reference

namespace WebhookBlock

/-- The fields in order. -/
def fields : List String :=
  ["urlSecretRef"]

/-- Reads a webhook block; `urlSecretRef` has to be there. -/
def ofJson? (j : Json) : Option WebhookBlock := do
  let r ← j.record? .strict fields
  return {
    urlSecretRef := ← r.required Reference.ofJson? "urlSecretRef"
  }

/-- Writes a webhook block. -/
def toJson (block : WebhookBlock) : Json :=
  .ofFields [
    ("urlSecretRef", some block.urlSecretRef.toJson)]

end WebhookBlock

/-- What is asked for of an integration. -/
structure IntegrationSpec where
  linkage : Linkage
  type : String
  datadog : Option DatadogBlock := none
  microsoftTeams : Option MicrosoftTeamsBlock := none
  newRelic : Option NewRelicBlock := none
  opsGenie : Option OpsGenieBlock := none
  pagerDuty : Option PagerDutyBlock := none
  prometheus : Option PrometheusBlock := none
  slack : Option SlackBlock := none
  victorOps : Option VictorOpsBlock := none
  webhook : Option WebhookBlock := none

namespace IntegrationSpec

/-- The fields in order, without the link to the project. -/
def fields : List String :=
  ["type", "datadog", "microsoftTeams", "newRelic", "opsGenie", "pagerDuty", "prometheus",
    "slack", "victorOps", "webhook"]

/-- Reads an integration specification with its link to the project; `type` has to be there. -/
def ofJson? (j : Json) : Option IntegrationSpec := do
  let r ← j.linkedRecord? fields
  return {
    linkage := ← Linkage.ofJson? j
    type := ← r.text "type"
    datadog := ← r.optional DatadogBlock.ofJson? "datadog"
    microsoftTeams := ← r.optional MicrosoftTeamsBlock.ofJson? "microsoftTeams"
    newRelic := ← r.optional NewRelicBlock.ofJson? "newRelic"
    opsGenie := ← r.optional OpsGenieBlock.ofJson? "opsGenie"
    pagerDuty := ← r.optional PagerDutyBlock.ofJson? "pagerDuty"
    prometheus := ← r.optional PrometheusBlock.ofJson? "prometheus"
    slack := ← r.optional SlackBlock.ofJson? "slack"
    victorOps := ← r.optional VictorOpsBlock.ofJson? "victorOps"
    webhook := ← r.optional WebhookBlock.ofJson? "webhook"
  }

/-- Writes an integration specification, its link to the project first, without absent values.
-/
def toJson (spec : IntegrationSpec) : Json :=
  .ofFields (spec.linkage.fields ++ [
    ("type", some (.str spec.type)),
    ("datadog", Writing.compact.optional DatadogBlock.toJson spec.datadog),
    ("microsoftTeams", Writing.compact.optional MicrosoftTeamsBlock.toJson spec.microsoftTeams),
    ("newRelic", Writing.compact.optional NewRelicBlock.toJson spec.newRelic),
    ("opsGenie", Writing.compact.optional OpsGenieBlock.toJson spec.opsGenie),
    ("pagerDuty", Writing.compact.optional PagerDutyBlock.toJson spec.pagerDuty),
    ("prometheus", Writing.compact.optional PrometheusBlock.toJson spec.prometheus),
    ("slack", Writing.compact.optional SlackBlock.toJson spec.slack),
    ("victorOps", Writing.compact.optional VictorOpsBlock.toJson spec.victorOps),
    ("webhook", Writing.compact.optional WebhookBlock.toJson spec.webhook)])

end IntegrationSpec

/-- The types of integration. -/
inductive IntegrationType where
  | datadog
  | microsoftTeams
  | newRelic
  | opsGenie
  | pagerDuty
  | prometheus
  | slack
  | victorOps
  | webhook
  deriving DecidableEq, Repr

namespace IntegrationType

/-- Every type. -/
def all : List IntegrationType :=
  [datadog, microsoftTeams, newRelic, opsGenie, pagerDuty, prometheus, slack, victorOps, webhook]

theorem mem_all (t : IntegrationType) : t ∈ all := by cases t <;> decide

/-- The tag of a type. -/
def tag : IntegrationType → String
  | datadog => "DATADOG"
  | microsoftTeams => "MICROSOFT_TEAMS"
  | newRelic => "NEW_RELIC"
  | opsGenie => "OPS_GENIE"
  | pagerDuty => "PAGER_DUTY"
  | prometheus => "PROMETHEUS"
  | slack => "SLACK"
  | victorOps => "VICTOR_OPS"
  | webhook => "WEBHOOK"

/-- The type of a tag. -/
def ofTag? (tag : String) : Option IntegrationType := all.find? (·.tag == tag)

@[simp] theorem ofTag?_tag (t : IntegrationType) : ofTag? t.tag = some t := by
  cases t <;> decide

/-- The tag in lower case with dashes between its words. -/
def dashed (t : IntegrationType) : String :=
  String.ofList (t.tag.toList.map fun c => if c = '_' then '-' else c.toLower)

/-- The keys of the secret of an integration. -/
def secretKeys : IntegrationType → List String
  | datadog => ["apiKey"]
  | microsoftTeams => ["webhookURL"]
  | newRelic => ["accountId", "licenseKey", "readToken", "writeToken"]
  | opsGenie => ["apiKey"]
  | pagerDuty => ["serviceKey"]
  | prometheus => ["username", "password"]
  | slack => ["apiToken"]
  | victorOps => ["apiKey"]
  | webhook => ["url", "secret"]

/-- The values of the secret of an integration, in the order of its keys. -/
def secretValues (t : IntegrationType) (source : Integration) : List (Option String) :=
  match t with
  | datadog | opsGenie | victorOps => [source.apiKey]
  | microsoftTeams => [source.microsoftTeamsWebhookUrl]
  | newRelic => [source.accountId, source.licenseKey, source.readToken, source.writeToken]
  | pagerDuty => [source.serviceKey]
  | prometheus => [source.username, source.password]
  | slack => [source.apiToken]
  | webhook => [source.url, source.secret]

/-- There is a value for each key. -/
theorem length_secretValues (t : IntegrationType) (source : Integration) :
    (t.secretValues source).length = t.secretKeys.length := by cases t <;> rfl

/-- The keys of the secret of an integration, each with its value. -/
def material (t : IntegrationType) (source : Integration) : List (String × Option String) :=
  t.secretKeys.zip (t.secretValues source)

/-- No key is left without a value. -/
theorem map_fst_material (t : IntegrationType) (source : Integration) :
    (t.material source).map (·.1) = t.secretKeys :=
  List.map_fst_zip (Nat.le_of_eq (t.length_secretValues source).symm)

end IntegrationType

/-- A switch in words. -/
def enabledOrDisabled (value : Option Bool) : Option String :=
  value.map fun v => if v then "enabled" else "disabled"

namespace Context

variable (ctx : Context)

/-- What is asked for of an integration of a type, with the secret of its material. -/
def integrationSpec (type : IntegrationType) (source : Integration) (secret : Reference) :
    IntegrationSpec :=
  let spec : IntegrationSpec := { linkage := ctx.linkage, type := type.tag }
  match type with
  | .datadog =>
    { spec with
      datadog := some
        { apiKeySecretRef := secret
          region := source.region.getD ""
          sendCollectionLatencyMetrics := enabledOrDisabled source.sendCollectionLatencyMetrics
          sendDatabaseMetrics := enabledOrDisabled source.sendDatabaseMetrics } }
  | .microsoftTeams => { spec with microsoftTeams := some ⟨secret⟩ }
  | .newRelic => { spec with newRelic := some ⟨secret⟩ }
  | .opsGenie => { spec with opsGenie := some ⟨secret, source.region.getD ""⟩ }
  | .pagerDuty => { spec with pagerDuty := some ⟨secret, source.region.getD ""⟩ }
  | .prometheus =>
    { spec with
      prometheus := some
        { enabled := enabledOrDisabled source.enabled
          prometheusCredentialsSecretRef := secret
          serviceDiscovery := source.serviceDiscovery.getD "" } }
  | .slack =>
    { spec with slack := some ⟨secret, source.channelName.getD "", source.teamName.getD ""⟩ }
  | .victorOps => { spec with victorOps := some ⟨source.routingKey.getD "", secret⟩ }
  | .webhook => { spec with webhook := some ⟨secret⟩ }

/-- The manifest of an integration and the secret of its material, if its type is
known. -/
def integration (source : Integration) : Option (Resource IntegrationSpec × Secret) :=
  (IntegrationType.ofTag? source.kind).map fun type =>
    let name := ctx.scopedName [type.dashed, "integration"]
    let secretName := ctx.scopedName [type.dashed, "integration", "secret"]
    (ctx.resource name (ctx.integrationSpec type source ⟨secretName⟩),
      ctx.resourceSecret secretName (type.material source))

end Context

end AtlasManifests
