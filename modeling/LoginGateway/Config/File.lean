import LoginGateway.Config.Basic
import LoginGateway.Toml.Parse

namespace LoginGateway.Config

open Toml

def settings? (names : List String) : Node → Option (String → Option Node)
  | .table members _ _ => some fun name => members.lookup name
  | .inline members _ => some fun name => members.lookup name
  | .list items => some fun name => (names.zip items).lookup name
  | .tables items => some fun name => (names.zip items).lookup name
  | _ => none

def setting {α : Type} (read : Node → Option α) (standard : α) (node : Option Node) : Option α :=
  match node with
  | some node => read node
  | none => some standard

def text? : Node → Option String
  | .text content => some content
  | _ => none

def seconds? : Node → Option Nat
  | .integer n => if 0 ≤ n then some n.toNat else none
  | _ => none

def flag? : Node → Option Bool
  | .boolean value => some value
  | _ => none

def optional? (node : Node) : Option (Option String) := (text? node).map some

def storeKindOf? : String → Option StoreKind
  | "memory" => some .memory
  | "file" => some .file
  | "kubernetes" => some .kubernetes
  | _ => none

def isEmpty : Node → Bool
  | .table [] _ _ | .inline [] _ | .list [] | .tables [] => true
  | _ => false

def storeKind? : Node → Option StoreKind
  | .text name => storeKindOf? name
  | .table [(name, inner)] _ _ => if isEmpty inner then storeKindOf? name else none
  | .inline [(name, inner)] _ => if isEmpty inner then storeKindOf? name else none
  | _ => none

def server? (node : Node) : Option ServerConfig := do
  let get ← settings? ["listen", "tls_cert", "tls_key"] node
  let standard : ServerConfig := {}
  return {
    listen := ← setting text? standard.listen (get "listen")
    tlsCert := ← setting optional? none (get "tls_cert")
    tlsKey := ← setting optional? none (get "tls_key") }

def oidc? (node : Node) : Option OidcConfig := do
  let get ← settings? ["issuer_url", "client_id", "client_secret", "redirect_uri", "discovery_retry_seconds",
    "request_timeout_seconds", "insecure_skip_verify", "debug"] node
  let standard : OidcConfig := {}
  return {
    issuerUrl := ← setting text? standard.issuerUrl (get "issuer_url")
    clientId := ← setting text? standard.clientId (get "client_id")
    clientSecret := ← setting text? standard.clientSecret (get "client_secret")
    redirectUri := ← setting text? standard.redirectUri (get "redirect_uri")
    discoveryRetrySeconds := ← setting seconds? standard.discoveryRetrySeconds (get "discovery_retry_seconds")
    requestTimeoutSeconds := ← setting seconds? standard.requestTimeoutSeconds (get "request_timeout_seconds")
    insecureSkipVerify := ← setting flag? false (get "insecure_skip_verify")
    debug := ← setting flag? false (get "debug") }

def store? (node : Node) : Option StoreConfig := do
  let get ← settings? ["backend", "path", "secret_namespace", "secret_name"] node
  let standard : StoreConfig := {}
  return {
    backend := ← setting storeKind? standard.backend (get "backend")
    path := ← setting text? standard.path (get "path")
    secretNamespace := ← setting text? standard.secretNamespace (get "secret_namespace")
    secretName := ← setting text? standard.secretName (get "secret_name") }

def session? (node : Node) : Option SessionConfig := do
  let get ← settings? ["token_cookie", "session_cookie", "invalidate_on_refresh_failure"] node
  let standard : SessionConfig := {}
  return {
    tokenCookie := ← setting text? standard.tokenCookie (get "token_cookie")
    sessionCookie := ← setting text? standard.sessionCookie (get "session_cookie")
    invalidateOnRefreshFailure := ← setting flag? false (get "invalidate_on_refresh_failure") }

def ofMembers? (members : Members) : Option Config := do
  return {
    server := ← setting server? {} (members.lookup "server")
    oidc := ← setting oidc? {} (members.lookup "oidc")
    store := ← setting store? {} (members.lookup "store")
    session := ← setting session? {} (members.lookup "session")
    hmacSecret := ← setting optional? none (members.lookup "hmac_secret") }

def ofFile (path : String) (data : Option Octets) : Except ConfigError Config :=
  match data.bind Text.decode? with
  | none => .error (.unreadableFile path)
  | some text => match (parse? text).bind ofMembers? with
    | some config => .ok config
    | none => .error (.unparsableFile path)

end LoginGateway.Config
