import LoginGateway.Store.Index
import LoginGateway.Credential
import LoginGateway.Token.Signed

namespace LoginGateway

inductive StoreError where
  | tokenNotFound
  | userNotFound (user : String)
  | signing (error : TokenError)
  deriving DecidableEq, Repr

def StoreError.message (wording : Json.Wording) : StoreError → String
  | .tokenNotFound => "API token not found"
  | .userNotFound user => "user ID not found: " ++ user
  | .signing error => "failed to mint token: " ++ error.message wording

/-- What comes of the calls that a signer is about to get, in order, for a user, an email and a lifetime in
seconds. A signer that has nothing left has no key. -/
abbrev Signer := String → String → Int → List (Except TokenError String)

namespace Signer

def noKey : TokenError := .signing "no key"

def noExpiry : TokenError := .signing "no such expiry"

def ofSecret (secret : Octets) (now : Instant) (salts : List UInt64) : Signer := fun user email lifetime =>
  salts.map fun salt => match ApiClaims.issue? user email salt now lifetime with
    | some claims => .ok (SignedToken.mint secret claims.json)
    | none => .error noExpiry

end Signer

inductive TokenKind where
  | session
  | api
  deriving DecidableEq, Repr

def TokenKind.lifetime : TokenKind → Int
  | .session => 60 * 60
  | .api => 100 * 365 * 24 * 60 * 60

/-- The first token of the signer's that is not taken, and the number of calls that it took. -/
def firstFresh (taken : String → Bool) (calls : Nat) :
    List (Except TokenError String) → Except StoreError String × Nat
  | [] => (.error (.signing Signer.noKey), calls + 1)
  | .error error :: _ => (.error (.signing error), calls + 1)
  | .ok token :: rest => if taken token then firstFresh taken (calls + 1) rest else (.ok token, calls + 1)

class TokenStore (σ : Type) where
  generate : σ → Signer → TokenKind → String → String → Except StoreError String × Nat
  nameList : σ → List String
  containsName : σ → String → Bool
  userOf : σ → String → Except StoreError String
  storeToken : σ → (name token user : String) → Except StoreError Unit × σ
  deleteToken : σ → (name : String) → Except StoreError Unit × σ
  hasCredential : σ → (user : String) → Bool
  invalidate : σ → (user : String) → Except StoreError Unit × σ
  storeCredential : σ → (user : String) → Credential → Except StoreError Unit × σ
  credentialOf : σ → (user : String) → Except StoreError (Option Credential)

end LoginGateway
