import LoginGateway.Gateway.Basic
import LoginGateway.Token.Presented

namespace LoginGateway

open Http

inductive Denial where
  | noToken (error : PresentedError)
  | malformed (error : TokenError)
  | expired
  | unknownToken
  | noCredential (user : String)
  | credentialFetch (error : StoreError)
  | missingCredential (user : String)
  | refreshFailed (error : ProviderError)
  | storeFailed (error : StoreError)
  deriving DecidableEq, Repr

namespace Denial

def message (wording : Gateway.Parsed → Json.Wording) : Denial → String
  | .noToken error => "no token in request: " ++ error.message
  | .malformed error => "invalid token: " ++ error.message (wording .apiToken)
  | .expired => "token has expired"
  | .unknownToken => "token is not registered"
  | .noCredential user => "token is valid, but user " ++ user ++ " has no stored credentials"
  | .credentialFetch error => "failed to fetch credentials: " ++ error.message (wording .apiToken)
  | .missingCredential user => "credentials for user " ++ user ++ " fetched, but empty"
  | .refreshFailed error => "failed to refresh credentials: " ++ error.message (wording .tokenResponse)
  | .storeFailed error => "failed to store refreshed credentials: " ++ error.message (wording .apiToken)

def internal : Denial → Bool
  | .missingCredential _ | .storeFailed _ => true
  | _ => false

def reply (denial : Denial) (wording : Gateway.Parsed → Json.Wording) : Reply :=
  if denial.internal then .serverError (denial.message wording) else .unauthorized (denial.message wording)

end Denial

structure Identity where
  user : String
  email : String
  deriving DecidableEq, Repr

namespace Gateway

variable {σ : Type} [TokenStore σ]

def identify (settings : Settings) (now : Instant) (headers : Headers) (store : σ) :
    Except Denial (Identity × Credential) := do
  let token ← (PresentedToken.ofRequest headers settings.tokenCookie).mapError .noToken
  let claims ← (SignedToken.verify ApiClaims.decoder settings.secret token).mapError .malformed
  if expiredAt claims.expiry now then .error .expired
  else
    let user ← (TokenStore.userOf store token).mapError fun _ => .unknownToken
    if !TokenStore.hasCredential store user then .error (.noCredential user)
    else match TokenStore.credentialOf store user with
      | .ok (some credential) => .ok (⟨user, claims.email⟩, credential)
      | .ok none => .error (.missingCredential user)
      | .error error => .error (.credentialFetch error)

def renew (settings : Settings) (now : Instant) (user : String) (credential : Credential) (store : σ)
    (wire : Wire) : Except (Failure Denial) Unit × σ × Wire :=
  match settings.client.refresh now credential wire with
  | (.error .crash, wire) => (.error .crash, store, wire)
  | (.error (.error error), wire) =>
    let store := if settings.invalidateOnRefreshFailure then (TokenStore.invalidate store user).2 else store
    (.error (.error (.refreshFailed error)), store, wire)
  | (.ok refreshed, wire) =>
    match TokenStore.storeCredential store user refreshed with
    | (.ok (), store) => (.ok (), store, wire)
    | (.error error, store) => (.error (.error (.storeFailed error)), store, wire)

def authorize (settings : Settings) (now : Instant) (headers : Headers) (store : σ) (wire : Wire) :
    Except (Failure Denial) Identity × σ × Wire :=
  match identify settings now headers store with
  | .error denial => (.error (.error denial), store, wire)
  | .ok (identity, credential) =>
    if !credential.expired now then (.ok identity, store, wire)
    else match renew settings now identity.user credential store wire with
      | (.ok (), store, wire) => (.ok identity, store, wire)
      | (.error failure, store, wire) => (.error failure, store, wire)

end Gateway

end LoginGateway
