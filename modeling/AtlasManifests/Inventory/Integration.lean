import AtlasManifests.Json.Record

/-! # Third-party integrations

One flat shape for all types of integration; which fields count depends on the type.
-/
namespace AtlasManifests

/-- A third-party integration. -/
structure Integration where
  id : Option String := none
  kind : String := ""
  apiKey : Option String := none
  region : Option String := none
  sendCollectionLatencyMetrics : Option Bool := none
  sendDatabaseMetrics : Option Bool := none
  accountId : Option String := none
  licenseKey : Option String := none
  readToken : Option String := none
  writeToken : Option String := none
  serviceKey : Option String := none
  apiToken : Option String := none
  channelName : Option String := none
  teamName : Option String := none
  routingKey : Option String := none
  url : Option String := none
  secret : Option String := none
  username : Option String := none
  password : Option String := none
  enabled : Option Bool := none
  serviceDiscovery : Option String := none
  microsoftTeamsWebhookUrl : Option String := none

namespace Integration

/-- The fields in order. -/
def fields : List String :=
  ["id", "type", "apiKey", "region", "sendCollectionLatencyMetrics", "sendDatabaseMetrics",
    "accountId", "licenseKey", "readToken", "writeToken", "serviceKey", "apiToken",
    "channelName", "teamName", "routingKey", "url", "secret", "username", "password", "enabled",
    "serviceDiscovery", "microsoftTeamsWebhookUrl"]

/-- Reads an integration, every field of which has a default. -/
def ofJson? (j : Json) : Option Integration := do
  let r ← j.record? .lenient fields
  return {
    id := ← r.optional Json.text? "id"
    kind := ← r.text "type"
    apiKey := ← r.optional Json.text? "apiKey"
    region := ← r.optional Json.text? "region"
    sendCollectionLatencyMetrics := ← r.optional Json.bool? "sendCollectionLatencyMetrics"
    sendDatabaseMetrics := ← r.optional Json.bool? "sendDatabaseMetrics"
    accountId := ← r.optional Json.text? "accountId"
    licenseKey := ← r.optional Json.text? "licenseKey"
    readToken := ← r.optional Json.text? "readToken"
    writeToken := ← r.optional Json.text? "writeToken"
    serviceKey := ← r.optional Json.text? "serviceKey"
    apiToken := ← r.optional Json.text? "apiToken"
    channelName := ← r.optional Json.text? "channelName"
    teamName := ← r.optional Json.text? "teamName"
    routingKey := ← r.optional Json.text? "routingKey"
    url := ← r.optional Json.text? "url"
    secret := ← r.optional Json.text? "secret"
    username := ← r.optional Json.text? "username"
    password := ← r.optional Json.text? "password"
    enabled := ← r.optional Json.bool? "enabled"
    serviceDiscovery := ← r.optional Json.text? "serviceDiscovery"
    microsoftTeamsWebhookUrl := ← r.optional Json.text? "microsoftTeamsWebhookUrl"
  }

/-- Writes an integration, with `null` for absent values. -/
def toJson (integration : Integration) : Json :=
  .ofFields [
    ("id", Writing.explicit.optional Json.str integration.id),
    ("type", some (.str integration.kind)),
    ("apiKey", Writing.explicit.optional Json.str integration.apiKey),
    ("region", Writing.explicit.optional Json.str integration.region),
    ("sendCollectionLatencyMetrics",
      Writing.explicit.optional Json.bool integration.sendCollectionLatencyMetrics),
    ("sendDatabaseMetrics", Writing.explicit.optional Json.bool integration.sendDatabaseMetrics),
    ("accountId", Writing.explicit.optional Json.str integration.accountId),
    ("licenseKey", Writing.explicit.optional Json.str integration.licenseKey),
    ("readToken", Writing.explicit.optional Json.str integration.readToken),
    ("writeToken", Writing.explicit.optional Json.str integration.writeToken),
    ("serviceKey", Writing.explicit.optional Json.str integration.serviceKey),
    ("apiToken", Writing.explicit.optional Json.str integration.apiToken),
    ("channelName", Writing.explicit.optional Json.str integration.channelName),
    ("teamName", Writing.explicit.optional Json.str integration.teamName),
    ("routingKey", Writing.explicit.optional Json.str integration.routingKey),
    ("url", Writing.explicit.optional Json.str integration.url),
    ("secret", Writing.explicit.optional Json.str integration.secret),
    ("username", Writing.explicit.optional Json.str integration.username),
    ("password", Writing.explicit.optional Json.str integration.password),
    ("enabled", Writing.explicit.optional Json.bool integration.enabled),
    ("serviceDiscovery", Writing.explicit.optional Json.str integration.serviceDiscovery),
    ("microsoftTeamsWebhookUrl",
      Writing.explicit.optional Json.str integration.microsoftTeamsWebhookUrl)]

end Integration

end AtlasManifests
