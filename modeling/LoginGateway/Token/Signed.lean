import LoginGateway.Crypto.Hmac
import LoginGateway.Encoding.Base64
import LoginGateway.Text.Split
import LoginGateway.Token.Claims
import LoginGateway.Token.Header

namespace LoginGateway

inductive Malformation where
  | tooFewSegments
  | base64
  | json (fault : Json.Fault)
  | notThreeSegments
  | claimsBase64
  | claimsJson (fault : Json.Fault)
  deriving DecidableEq, Repr

def Malformation.message (wording : Json.Wording) : Malformation → String
  | .tooFewSegments => "InvalidToken"
  | .base64 => "Base64 error: not the base64 text of any data"
  | .json fault => "JSON error: " ++ fault.message wording
  | .notThreeSegments => "expected three dot-separated segments"
  | .claimsBase64 => "invalid base64 in claims: not the base64 text of any data"
  | .claimsJson fault => "invalid claims JSON: " ++ fault.message wording

inductive TokenError where
  | malformed (malformation : Malformation)
  | signature
  | signing (reason : String)
  deriving DecidableEq, Repr

def TokenError.message (wording : Json.Wording) : TokenError → String
  | .malformed malformation => "malformed token: " ++ malformation.message wording
  | .signature => "token signature is invalid"
  | .signing reason => "failed to sign token: " ++ reason

namespace SignedToken

open Json

def dot : UInt8 := 0x2E

def signatureOf (secret message : Octets) : Octets := Base64.encode Base64.urlSafe (Hmac.sign secret message)

def sign (secret claims : Octets) : Octets :=
  let message := Base64.encode Base64.urlSafe ownHeader ++ dot :: Base64.encode Base64.urlSafe claims
  message ++ dot :: signatureOf secret message

def mint (secret claims : Octets) : String := Text.ascii (sign secret claims)

def segment (text : Octets) : Except TokenError Octets :=
  match Base64.decode? Base64.urlSafe text with
  | some octets => .ok octets
  | none => .error (.malformed .base64)

def readSegment {α : Type} (decoder : Decoder α) (octets : Octets) : Except TokenError α :=
  (decode decoder octets).mapError fun error => .malformed (.json ⟨octets, error⟩)

def verify {α : Type} (decoder : Decoder α) (secret : Octets) (token : String) : Except TokenError α :=
  match Text.cutLast (· == dot) (Text.encode token) with
  | (_, none) => .error (.malformed .tooFewSegments)
  | (signature, some message) =>
    match Text.cutLast (· == dot) message with
    | (_, none) => .error (.malformed .tooFewSegments)
    | (payload, some head) => do
      let algorithm ← readSegment header (← segment head)
      if algorithm ≠ "HS256" ∨ signature ≠ signatureOf secret message then .error .signature
      else
        let claims ← segment payload
        let value ← readSegment decoder claims
        let _ ← readSegment registered claims
        return value

def readUnverified {α : Type} (decoder : Decoder α) (token : String) : Except TokenError α :=
  match Text.split (· == dot) (Text.encode token) with
  | [_, payload, _] =>
    match Base64.decode? Base64.urlSafe (Text.stripEnd (· == Base64.pad) payload) with
    | none => .error (.malformed .claimsBase64)
    | some octets => (decode decoder octets).mapError fun error => .malformed (.claimsJson ⟨octets, error⟩)
  | _ => .error (.malformed .notThreeSegments)

def secretLength : Nat := 32

def secretOf (random : Octets) : String := Text.ascii (Base64.encode Base64.urlSafePadded random)

end SignedToken

end LoginGateway
