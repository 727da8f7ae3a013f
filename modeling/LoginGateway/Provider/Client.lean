import LoginGateway.Credential
import LoginGateway.Encoding.Percent
import LoginGateway.Provider.Basic

namespace LoginGateway

structure ProviderClient where
  authorizationEndpoint : String
  tokenEndpoint : String
  clientId : String
  clientSecret : String
  redirectUri : String
  deriving DecidableEq, Repr

structure Exchanged where
  credential : Credential
  idToken : Option String
  deriving DecidableEq, Repr

structure TokenResponse where
  accessToken : String
  tokenType : Option String
  refreshToken : Option String
  expiresIn : Option Int64
  idToken : Option String
  deriving DecidableEq, Repr

namespace TokenResponse

open Json

structure Draft where
  accessToken : Option String := none
  tokenType : Option (Option String) := none
  refreshToken : Option (Option String) := none
  expiresIn : Option (Option Int64) := none
  idToken : Option (Option String) := none

def fields : List (RecordField Draft) :=
  [field "access_token" false text (·.accessToken) fun draft value => { draft with accessToken := some value },
   field "token_type" true (nullable text) (·.tokenType) fun draft value =>
     { draft with tokenType := some value },
   field "refresh_token" true (nullable text) (·.refreshToken) fun draft value =>
     { draft with refreshToken := some value },
   field "expires_in" true (nullable integer64) (·.expiresIn) fun draft value =>
     { draft with expiresIn := some value },
   field "id_token" true (nullable text) (·.idToken) fun draft value => { draft with idToken := some value }]

def decoder : Decoder TokenResponse :=
  record fields {} fun draft => do
    let accessToken ← require "access_token" draft.accessToken
    return ⟨accessToken, draft.tokenType.getD none, draft.refreshToken.getD none, draft.expiresIn.getD none,
      draft.idToken.getD none⟩

def nonempty (text : Option String) : Option String := text.filter fun content => !content.isEmpty

/-- When a token expires that is good for so many seconds from now; with no positive number, never. An expiry
that no instant stands for is a crash. -/
def expiryOf (now : Instant) (expiresIn : Option Int64) : Except (Failure ProviderError) (Option Instant) :=
  match expiresIn with
  | some seconds =>
    if 0 < seconds.toInt then match now.after? seconds.toInt with
      | some expiry => .ok (some expiry)
      | none => .error .crash
    else .ok none
  | none => .ok none

def exchanged (response : TokenResponse) (now : Instant) : Except (Failure ProviderError) Exchanged := do
  let expiry ← expiryOf now response.expiresIn
  return ⟨⟨response.accessToken, response.tokenType.getD "", nonempty response.refreshToken, expiry⟩,
    nonempty response.idToken⟩

end TokenResponse

namespace ProviderClient

def authorizationUrl (client : ProviderClient) (state : String) (scopes : List String) (offline : Bool) : String :=
  let encode := Percent.encode Percent.isUnreserved
  client.authorizationEndpoint ++ (if client.authorizationEndpoint.toList.contains '?' then "&" else "?")
    ++ (if offline then "access_type=offline&" else "")
    ++ "client_id=" ++ encode client.clientId ++ "&redirect_uri=" ++ encode client.redirectUri
    ++ "&response_type=code&scope=" ++ encode (" ".intercalate scopes) ++ "&state=" ++ encode state

def request? (client : ProviderClient) (form : List (String × String)) : Option Http.Request :=
  (Http.reachable? client.tokenEndpoint).map fun url =>
    ⟨"POST", url,
      [("accept", Text.encode "application/json"),
       ("content-type", Text.encode "application/x-www-form-urlencoded")],
      Text.encode (Form.encode form)⟩

def codeForm (client : ProviderClient) (code : String) : List (String × String) :=
  [("grant_type", "authorization_code"), ("code", code), ("redirect_uri", client.redirectUri),
   ("client_id", client.clientId), ("client_secret", client.clientSecret)]

def refreshForm (client : ProviderClient) (refreshToken : String) : List (String × String) :=
  [("grant_type", "refresh_token"), ("refresh_token", refreshToken), ("client_id", client.clientId),
   ("client_secret", client.clientSecret)]

def requestToken (client : ProviderClient) (now : Instant) (form : List (String × String)) (wire : Http.Wire) :
    Except (Failure ProviderError) Exchanged × Http.Wire :=
  match Http.fetch wire (client.request? form) .tokenResponse TokenResponse.decoder with
  | (.error error, wire) => (.error (.error error), wire)
  | (.ok response, wire) => (response.exchanged now, wire)

def exchangeCode (client : ProviderClient) (now : Instant) (code : String) (wire : Http.Wire) :
    Except (Failure ProviderError) Exchanged × Http.Wire :=
  client.requestToken now (client.codeForm code) wire

/-- Trades a credential's refresh token for a new credential. The refresh token is kept if the provider sends no
other. -/
def refresh (client : ProviderClient) (now : Instant) (credential : Credential) (wire : Http.Wire) :
    Except (Failure ProviderError) Credential × Http.Wire :=
  match credential.usableRefreshToken with
  | none => (.error (.error .noRefreshToken), wire)
  | some refreshToken =>
    match client.requestToken now (client.refreshForm refreshToken) wire with
    | (.error failure, wire) => (.error failure, wire)
    | (.ok answer, wire) =>
      let refreshed := answer.credential
      (.ok { refreshed with refreshToken := some (refreshed.refreshToken.getD refreshToken) }, wire)

end ProviderClient

end LoginGateway
