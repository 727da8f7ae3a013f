import LoginGateway.Gateway.Basic
import LoginGateway.Provider.Scopes

namespace LoginGateway.Gateway

open Http

variable {σ : Type} [TokenStore σ]

def loginNames : List String := ["rd", "extra_scopes", "cross_client"]

def destination (params : Params) : String :=
  ((params.get? "rd").filter fun rd => !rd.isEmpty).getD "/"

/-- The reply that sends the browser to the provider, unless its URL can stand in no header: the gateway then
crashes. -/
def login (settings : Settings) (now : Instant) (params : Params) : Option Reply := do
  let claims ← StateClaims.issue? (destination params) now
  let scopes := Scopes.forLogin ((params.get? "extra_scopes").getD "") ((params.get? "cross_client").getD "")
    settings.offlineAsScope
  let state := SignedToken.mint settings.secret claims.json
  let url := settings.client.authorizationUrl state scopes (!settings.offlineAsScope)
  if isValue (Text.encode url) then some (.redirect 307 url) else none

def callbackNames : List String := ["code", "state", "error", "error_description"]

def accept (settings : Settings) (now : Instant) (params : Params) : Except Reply (String × String) := do
  if let some error := params.get? "error" then
    let description := (params.get? "error_description").getD "Unknown error"
    .error (.badRequest ("Authorization failed: " ++ error ++ " - " ++ description))
  let some code := (params.get? "code").filter fun code => !code.isEmpty
    | .error (.badRequest "Missing 'code' parameter")
  let some state := (params.get? "state").filter fun state => !state.isEmpty
    | .error (.badRequest "Missing 'state' parameter")
  let claims ← (SignedToken.verify StateClaims.decoder settings.secret state).mapError fun error =>
    .badRequest ("Invalid state token: " ++ error.message (settings.wording .stateToken))
  if expiredAt claims.expiry now then .error (.badRequest "State token has expired, please log in again")
  else if claims.destination.isEmpty then .error (.badRequest "No rd claim present in state token")
  else if !isValue (Text.encode claims.destination) then
    .error (.badRequest "Invalid redirect URL in state token")
  else .ok (code, claims.destination)

inductive IdTokenError where
  | missing
  | malformed (error : TokenError)
  | noSubject
  | noEmail
  deriving DecidableEq, Repr

def IdTokenError.message (wording : Json.Wording) : IdTokenError → String
  | .missing => "No id_token in token response"
  | .malformed error => "Error parsing ID token: " ++ error.message wording
  | .noSubject => "No subject in ID token"
  | .noEmail => "No email in ID token"

def userOf (exchanged : Exchanged) : Except IdTokenError (String × String) := do
  let some idToken := exchanged.idToken | .error .missing
  let claims ← (SignedToken.readUnverified IdClaims.decoder idToken).mapError .malformed
  let some user := claims.subject.filter fun user => !user.isEmpty | .error .noSubject
  let some email := claims.email | .error .noEmail
  return (user, email)

def cookieText (name value : String) : String := name ++ "=" ++ value ++ "; Path=/"

/-- The reply that sends a browser on with its session. Without cookies that can stand in a header it tells so
instead. -/
def welcome (settings : Settings) (destination token user : String) : Reply :=
  let cookies := [cookieText settings.tokenCookie token, cookieText settings.sessionCookie (sessionName user)]
  if cookies.all fun cookie => isValue (Text.encode cookie) then
    { Reply.redirect 303 destination with cookies := cookies }
  else { Reply.text 303 "failed to parse header value" with location := some destination }

def register (store : σ) (name token user : String) : Except StoreError Unit × σ :=
  match TokenStore.storeToken store name token user with
  | (.ok (), store) => (.ok (), store)
  | (.error error, store) => (.error error, (TokenStore.deleteToken store name).2)

def startSession (settings : Settings) (moment : Moment) (destination user email : String)
    (credential : Credential) (store : σ) (wire : Wire) : Served σ :=
  match (TokenStore.generate store (settings.signer moment) .session user email).1 with
  | .error error =>
    ⟨some (.serverError ("Error generating session token: " ++ error.message (settings.wording .apiToken))), store, wire,
      none⟩
  | .ok token =>
    match register store (sessionName user) token user with
    | (.error error, store) =>
      ⟨some (.serverError ("Error storing session token: " ++ error.message (settings.wording .apiToken))), store, wire,
        some token⟩
    | (.ok (), store) =>
      match TokenStore.storeCredential store user credential with
      | (.error error, store) =>
        ⟨some (.serverError ("Error storing user credentials: " ++ error.message (settings.wording .apiToken))), store,
          wire, some token⟩
      | (.ok (), store) => ⟨some (welcome settings destination token user), store, wire, some token⟩

def exchangeFailed (settings : Settings) (error : ProviderError) : Reply :=
  .badRequest ("Failed to exchange authorization code: " ++ error.message (settings.wording .tokenResponse))

def callback (settings : Settings) (moment : Moment) (params : Params) (store : σ) (wire : Wire) : Served σ :=
  match accept settings moment.now params with
  | .error reply => ⟨some reply, store, wire, none⟩
  | .ok (code, destination) =>
    match settings.client.exchangeCode moment.now code wire with
    | (.error .crash, wire) => ⟨none, store, wire, none⟩
    | (.error (.error error), wire) =>
      ⟨some (exchangeFailed settings error), store, wire, none⟩
    | (.ok exchanged, wire) =>
      match userOf exchanged with
      | .error error => ⟨some (.badRequest (error.message (settings.wording .idToken))), store, wire, none⟩
      | .ok (user, email) =>
        startSession settings moment destination user email exchanged.credential store wire

end LoginGateway.Gateway
