import LoginGateway.Dict
import LoginGateway.Json.Decode
import LoginGateway.Json.Printer
import LoginGateway.Time.Rfc3339

namespace LoginGateway

structure Credential where
  accessToken : String
  tokenType : String
  refreshToken : Option String
  expiry : Option Instant
  deriving DecidableEq, Repr

namespace Credential

open Json

def expired (credential : Credential) (now : Instant) : Bool :=
  match credential.expiry with
  | some expiry => decide (expiry.Before now)
  | none => false

def usableRefreshToken (credential : Credential) : Option String :=
  credential.refreshToken.filter fun token => !token.isEmpty

def timestamp : Decoder Instant := fun node => do
  let content ← text node
  match Rfc3339.parse? content with
  | some instant => .ok instant
  | none => .error .malformed

def members (credential : Credential) : List (String × Octets) :=
  [("access_token", quote credential.accessToken)]
    ++ (if credential.tokenType.isEmpty then [] else [("token_type", quote credential.tokenType)])
    ++ (match credential.refreshToken with | some token => [("refresh_token", quote token)] | none => [])
    ++ (match credential.expiry with | some expiry => [("expiry", quote (Rfc3339.print expiry))] | none => [])

def json (credential : Credential) : Octets := Json.object credential.members

structure Draft where
  accessToken : Option String := none
  tokenType : Option String := none
  refreshToken : Option (Option String) := none
  expiry : Option (Option Instant) := none

def fields : List (RecordField Draft) :=
  [field "access_token" false text (·.accessToken) fun draft value => { draft with accessToken := some value },
   field "token_type" true text (·.tokenType) fun draft value => { draft with tokenType := some value },
   field "refresh_token" true (nullable text) (·.refreshToken) fun draft value =>
     { draft with refreshToken := some value },
   field "expiry" true (nullable timestamp) (·.expiry) fun draft value => { draft with expiry := some value }]

def decoder : Decoder Credential :=
  record fields {} fun draft => do
    let accessToken ← require "access_token" draft.accessToken
    return ⟨accessToken, draft.tokenType.getD "", draft.refreshToken.getD none, draft.expiry.getD none⟩

end Credential

end LoginGateway
