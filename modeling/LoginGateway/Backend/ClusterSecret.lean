import LoginGateway.Backend.Basic
import LoginGateway.Dict
import LoginGateway.Encoding.Base64
import LoginGateway.Http.Wire
import LoginGateway.Json.Printer

namespace LoginGateway

open Json

structure ClusterSecret where
  wire : Http.Wire
  server : String
  bearer : String
  space : String
  name : String

namespace ClusterSecret

def dataKey : String := "value"

def defaultName : String := "auth-gateway-token-secret"

def withServer (wire : Http.Wire) (server bearer space name : String) : ClusterSecret :=
  ⟨wire, String.ofList (Text.stripEnd (· == '/') server.toList), bearer, space, name⟩

def accountDirectory : String := "/var/run/secrets/kubernetes.io/serviceaccount"

def accountFile (read : String → Option Octets) (name : String) : Except BackendError Octets :=
  match read (accountDirectory ++ "/" ++ name) with
  | some data => .ok data
  | none => .error (.io "no such file")

/-- The backend of the cluster that the program runs in: its variables tell where the server is, and the files of its
service account hold the token and the authority to trust. `trusts` says which authorities a client can be made
with. -/
def inCluster (environment : String → Option String) (read : String → Option Octets) (trusts : Octets → Bool)
    (wire : Http.Wire) (space name : String) : Except BackendError ClusterSecret := do
  let some host := environment "KUBERNETES_SERVICE_HOST"
    | .error (.misconfigured "KUBERNETES_SERVICE_HOST not set (not running in a cluster?)")
  let port := (environment "KUBERNETES_SERVICE_PORT").getD "443"
  let host := if host.toList.contains ':' then "[" ++ host ++ "]" else host
  let some bearer := Text.decode? (← accountFile read "token") | .error (.io "stream did not contain valid UTF-8")
  if trusts (← accountFile read "ca.crt") then
    return ⟨wire, "https://" ++ host ++ ":" ++ port, Text.trim bearer, space, name⟩
  else .error .unreachable

def collectionUrl (secret : ClusterSecret) : String :=
  secret.server ++ "/api/v1/namespaces/" ++ secret.space ++ "/secrets"

def url (secret : ClusterSecret) : String := secret.collectionUrl ++ "/" ++ secret.name

def body (secret : ClusterSecret) (data : Octets) : Octets :=
  Json.object
    [("apiVersion", quote "v1"),
     ("data", Json.object [(dataKey, quote (Text.ascii (Base64.encode Base64.standard data)))]),
     ("kind", quote "Secret"),
     ("metadata", Json.object [("name", quote secret.name), ("namespace", quote secret.space)])]

def request? (secret : ClusterSecret) (method url : String) (body : Option Octets) : Option Http.Request := do
  let url ← Url.parse? url
  let authorization := Text.encode ("Bearer " ++ secret.bearer)
  let content : Http.Headers := if body.isSome then [("content-type", Text.encode "application/json")] else []
  if Http.isValue authorization ∧ (url.scheme = "http" ∨ url.scheme = "https") then
    some ⟨method, url, [("accept", Text.encode "*/*"), ("authorization", authorization)] ++ content, body.getD []⟩
  else none

def exchange (secret : ClusterSecret) (method url : String) (body : Option Octets) :
    Option Http.Response × ClusterSecret :=
  match secret.request? method url body with
  | none => (none, secret)
  | some request =>
    match secret.wire.send request with
    | (.dropped, wire) => (none, { secret with wire := wire })
    | (.answered response, wire) => (some response, { secret with wire := wire })

def changed : Option Http.Response → Except BackendError Unit
  | none => .error .unreachable
  | some response =>
    if Http.isSuccess response.status then .ok () else .error (.status response.status response.complaint)

structure Draft where
  data : Option (Option (Dict String)) := none

def fields : List (RecordField Draft) :=
  [field "data" true (nullable fun node => (membersOf text node).map Dict.ofList) (·.data) fun draft value =>
    { draft with data := some value }]

def dataDecoder : Decoder (Option (Dict String)) := record fields {} fun draft => .ok (draft.data.getD none)

def blobOf (body : Octets) : Except BackendError Octets := do
  let data ← (decode dataDecoder body).mapError fun error => .json ⟨body, error⟩
  match data.bind (·.find? dataKey) with
  | none => .error (.missingKey dataKey)
  | some encoded => match Base64.decode? Base64.standard (Text.encode encoded) with
    | none => .error .notBase64
    | some blob => .ok blob

def loaded : Option Http.Response → Except BackendError (Option Octets)
  | none => .error .unreachable
  | some response =>
    if response.status = 404 then .ok none
    else if !Http.isSuccess response.status then .error (.status response.status response.complaint)
    else match response.body with
      | none => .error .unreachable
      | some body => (blobOf body).map some

instance : Backend ClusterSecret where
  load secret :=
    let (response, secret) := secret.exchange "GET" secret.url none
    (loaded response, secret)
  save secret data :=
    let body := secret.body data
    let (response, secret) := secret.exchange "PUT" secret.url (some body)
    match changed response with
    | .ok () => (.ok (), secret)
    | .error _ =>
      let (response, secret) := secret.exchange "POST" secret.collectionUrl (some body)
      (changed response, secret)
  describe secret := "secret " ++ secret.space ++ "/" ++ secret.name

end ClusterSecret

end LoginGateway
