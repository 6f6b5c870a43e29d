import AtlasManifests.ControlPlane.Basic
import AtlasManifests.Digest.Sha256
import AtlasManifests.Json.Reader

/-! # The control plane over HTTP

The control plane as a service: which request a call is, and which reply a response is.
A transport delivers requests. Each call is exactly one request, and a request that is
not answered, or not in the terms of the call, is an error of the transport.
-/
namespace AtlasManifests

/-- A request for a document. -/
structure HttpRequest where
  /-- The scheme and the host. -/
  origin : String
  /-- The path with the query. -/
  target : String
  headers : List (String × String)
  deriving DecidableEq

/-- What a request is answered with. -/
structure HttpResponse where
  status : UInt16
  body : String

/-- Delivers requests, as far as they can be delivered and are answered. -/
abbrev Transport : Type := HttpRequest → Option HttpResponse

namespace HttpResponse

/-- Whether a request was successful. -/
def isSuccess (r : HttpResponse) : Bool := r.status / 100 == 2

end HttpResponse

/-! ## Addresses -/

/-- Where a document is. -/
structure Address where
  origin : String
  target : String

namespace Address

/-- The schemes of addresses. -/
def schemes : List String := ["http://", "https://"]

/-- A byte with a percent sign before its two digits. -/
def percentByte (byte : UInt8) : List Char :=
  '%' :: (Sha256.hexText [byte]).map Char.toUpper

/-- Whether a character stands for itself in a path. -/
def isPathChar (c : Char) : Bool :=
  '!' ≤ c && c ≤ '~' &&
    !List.contains ['\x22', '#', '<', '>', '?', '\x60', '\x7b', '\x7d'] c

/-- Whether a character stands for itself in a query. -/
def isQueryChar (c : Char) : Bool :=
  '!' ≤ c && c ≤ '~' && !List.contains ['\x22', '#', '<', '>', '\x27'] c

/-- A text in which only certain characters stand for themselves. -/
def encode (plain : Char → Bool) (cs : List Char) : String :=
  String.ofList (cs.flatMap fun c =>
    if plain c then [c] else (String.utf8EncodeChar c).flatMap percentByte)

/-- A text without a beginning that it has to have. -/
def rest? (beginning s : String) : Option (List Char) :=
  if beginning.toList.isPrefixOf s.toList then some (s.toList.drop beginning.length) else none

/-- The address that a text is. -/
def ofText? (s : String) : Option Address := do
  let scheme ← schemes.find? fun scheme => (rest? scheme s).isSome
  let rest ← rest? scheme s
  let host := rest.takeWhile fun c => c != '/' && c != '?' && c != '#'
  let below := (rest.drop host.length).takeWhile (· != '#')
  let path := below.takeWhile (· != '?')
  let query := below.drop path.length
  if host.isEmpty then none
  return {
    origin := scheme ++ String.ofList host
    target := (if path.isEmpty then "/" else encode isPathChar path) ++ encode isQueryChar query
  }

/-- The address with further parameters in its query. -/
def withParameters (a : Address) : List (String × String) → Address
  | [] => a
  | parameters =>
    let mark := if a.target.toList.contains '?' then "&" else "?"
    let texts := parameters.map fun (name, value) => name ++ "=" ++ value
    { a with target := a.target ++ mark ++ "&".intercalate texts }

end Address

/-! ## Calls -/

namespace Call

/-- The path of a call below the address of the service. -/
def path : Call → String
  | project id => "/groups/" ++ id
  | settings id => "/groups/" ++ id ++ "/settings"
  | accessList id _ => "/groups/" ++ id ++ "/accessList"
  | clusters id _ => "/groups/" ++ id ++ "/clusters"
  | databaseUsers id _ => "/groups/" ++ id ++ "/databaseUsers"
  | containers id _ _ => "/groups/" ++ id ++ "/containers"
  | peerings id _ _ => "/groups/" ++ id ++ "/peers"
  | integrations id _ => "/groups/" ++ id ++ "/integrations"
  | federations id => "/groups/" ++ id ++ "/dataFederation"

/-- The parameters of a call: the page with a count of all items, and the provider. -/
def parameters (call : Call) : List (String × String) :=
  let page := call.page?.toList.flatMap fun page =>
    [("pageNum", toString page.number), ("itemsPerPage", toString page.size),
      ("includeCount", "true")]
  page ++ call.provider?.toList.map fun provider => ("providerName", provider.tag)

end Call

namespace Page

variable {α : Type}

/-- Reads a page, given how its items are read. -/
def ofJson? (read : Json → Option α) (j : Json) : Option (Page α) := do
  let r ← j.record? .strict ["results", "totalCount"]
  let total (value : Json) : Option (Option Nat) :=
    if value.isNull then some none else value.uint64?.map fun n => some n.toNat
  return ⟨← r.list read "results", ← r.withDefault total none "totalCount"⟩

end Page

namespace Call

/-- The reply that a value is. -/
def reply? : (call : Call) → Json → Option call.Reply
  | project _ => Project.ofJson?
  | settings _ => ProjectSettings.ofJson? .lenient
  | accessList _ _ => Page.ofJson? AccessEntry.ofJson?
  | clusters _ _ => Page.ofJson? Cluster.ofJson?
  | databaseUsers _ _ => Page.ofJson? DatabaseUser.ofJson?
  | containers _ _ _ => Page.ofJson? Container.ofJson?
  | peerings _ _ _ => Page.ofJson? Peering.ofJson?
  | integrations _ _ => Page.ofJson? Integration.ofJson?
  | federations _ => fun j => j.items?.bind (·.mapM Federation.ofJson?)

end Call

/-! ## The service -/

/-- Where the service is, and what gives access to it. -/
structure Endpoint where
  baseUrl : String
  token : String

namespace Endpoint

/-- The type of document that is asked for, with its version. -/
def mediaType : String := "application/vnd.atlas.2024-08-05+json"

/-- The name and the version that requests are made under. -/
def agent : String := "atlas-k8s-exporter/0.1.0"

/-- Whether a text can be the value of a header. -/
def isHeaderValue (s : String) : Bool :=
  s.toList.all fun c => c == '\t' || (' ' ≤ c && c != '\x7f')

/-- The address of the service, without slashes after it. -/
def base (e : Endpoint) : String :=
  String.ofList ((e.baseUrl.toList.reverse.dropWhile (· == '/')).reverse)

/-- The request for a call, if there is one. -/
def request? (e : Endpoint) (call : Call) : Option HttpRequest := do
  let address ← Address.ofText? (e.base ++ call.path)
  if !isHeaderValue e.token then none
  let address := address.withParameters call.parameters
  return {
    origin := address.origin
    target := address.target
    headers := [("authorization", "Bearer " ++ e.token), ("accept", mediaType),
      ("user-agent", agent)]
  }

/-- The reply to a call that a response is. -/
def replyOf (call : Call) (response : HttpResponse) : Except Error call.Reply :=
  if response.isSuccess then
    match (Json.ofText? response.body).bind fun j => call.reply? j.canonical with
    | some reply => .ok reply
    | none => .error (.http "error decoding response body")
  else .error (.api response.status response.body)

/-- The service, over a transport. -/
def controlPlane (e : Endpoint) (send : Transport) : ControlPlane := fun call =>
  match e.request? call with
  | none => .error (.http "builder error")
  | some request =>
    match send request with
    | none =>
      .error (.http ("error sending request for url (" ++ request.origin ++ request.target ++ ")"))
    | some response => replyOf call response

end Endpoint

end AtlasManifests
