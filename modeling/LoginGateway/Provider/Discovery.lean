import LoginGateway.Provider.Basic
import LoginGateway.Provider.Scopes

namespace LoginGateway

structure ProviderMetadata where
  issuer : String
  authorizationEndpoint : String
  tokenEndpoint : String
  scopesSupported : List String
  deriving DecidableEq, Repr

namespace ProviderMetadata

open Json

/-- Whether refresh tokens are asked for by a scope; a provider that lists no scopes is taken to do so. -/
def offlineAsScope (metadata : ProviderMetadata) : Bool :=
  metadata.scopesSupported.isEmpty || metadata.scopesSupported.contains Scopes.offlineAccess

structure Draft where
  issuer : Option String := none
  authorizationEndpoint : Option String := none
  tokenEndpoint : Option String := none
  scopesSupported : Option (List String) := none

def fields : List (RecordField Draft) :=
  [field "issuer" false text (·.issuer) fun draft value => { draft with issuer := some value },
   field "authorization_endpoint" false text (·.authorizationEndpoint) fun draft value =>
     { draft with authorizationEndpoint := some value },
   field "token_endpoint" false text (·.tokenEndpoint) fun draft value =>
     { draft with tokenEndpoint := some value },
   field "scopes_supported" true (listOf text) (·.scopesSupported) fun draft value =>
     { draft with scopesSupported := some value }]

def decoder : Decoder ProviderMetadata :=
  record fields {} fun draft => do
    let issuer ← require "issuer" draft.issuer
    let authorizationEndpoint ← require "authorization_endpoint" draft.authorizationEndpoint
    let tokenEndpoint ← require "token_endpoint" draft.tokenEndpoint
    return ⟨issuer, authorizationEndpoint, tokenEndpoint, draft.scopesSupported.getD []⟩

end ProviderMetadata

namespace Discovery

def location (issuer : String) : String :=
  String.ofList (Text.stripEnd (· == '/') issuer.toList) ++ "/.well-known/openid-configuration"

def request? (issuer : String) : Option Http.Request :=
  (Http.reachable? (location issuer)).map fun url =>
    ⟨"GET", url, [("accept", Text.encode "application/json")], []⟩

def discover (issuer : String) (wire : Http.Wire) : Except ProviderError ProviderMetadata × Http.Wire :=
  match Http.fetch wire (request? issuer) .discoveryDocument ProviderMetadata.decoder with
  | (.error error, wire) => (.error error, wire)
  | (.ok metadata, wire) =>
    if metadata.issuer = issuer then (.ok metadata, wire)
    else (.error (.issuerMismatch issuer metadata.issuer), wire)

def discoverWithin (issuer : String) : Nat → Http.Wire → Option ProviderMetadata × Http.Wire
  | 0, wire => (none, wire)
  | tries + 1, wire =>
    match discover issuer wire with
    | (.ok metadata, wire) => (some metadata, wire)
    | (.error _, wire) => discoverWithin issuer tries wire

end Discovery

end LoginGateway
