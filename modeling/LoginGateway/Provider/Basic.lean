import LoginGateway.Http.Wire
import LoginGateway.Json.Decode

namespace LoginGateway

inductive AnswerError where
  | incomplete
  | unreadable (fault : Json.Fault)
  deriving DecidableEq, Repr

def AnswerError.message (wording : Json.Wording) : AnswerError → String
  | .incomplete => "request or response body error"
  | .unreadable fault => "error decoding response body: " ++ fault.message wording

inductive ProviderError where
  | unreachable
  | status (code : Nat) (body : String)
  | tokenResponse (error : AnswerError)
  | discoveryDocument (error : AnswerError)
  | noRefreshToken
  | issuerMismatch (expected actual : String)
  deriving DecidableEq, Repr

def ProviderError.message (wording : Json.Wording) : ProviderError → String
  | .unreachable => "request to identity provider failed: no answer"
  | .status code body => "identity provider returned " ++ Http.statusText code ++ ": " ++ body
  | .tokenResponse error => "invalid identity provider response: token response: " ++ error.message wording
  | .discoveryDocument error => "invalid identity provider response: discovery document: " ++ error.message wording
  | .noRefreshToken => "credential has no refresh token"
  | .issuerMismatch expected actual =>
    "issuer mismatch: expected " ++ expected ++ ", provider reported " ++ actual

/-- Why an operation has no result: an error that it reports, or a crash, which ends it on the spot and leaves
undone what it had still to do. -/
inductive Failure (ε : Type) where
  | error (error : ε)
  | crash
  deriving DecidableEq, Repr

namespace Http

/-- Sends a request to a URL and reads a success response's body; `useless` is the error for a body that does not
arrive or does not decode. -/
def fetch {α : Type} (wire : Wire) (request : Option Request) (useless : AnswerError → ProviderError)
    (decoder : Json.Decoder α) : Except ProviderError α × Wire :=
  match request with
  | none => (.error .unreachable, wire)
  | some request =>
    match wire.send request with
    | (.dropped, wire) => (.error .unreachable, wire)
    | (.answered response, wire) =>
      if !isSuccess response.status then (.error (.status response.status response.complaint), wire)
      else match response.body with
        | none => (.error (useless .incomplete), wire)
        | some body => ((Json.decode decoder body).mapError fun error => useless (.unreadable ⟨body, error⟩), wire)

def reachable? (text : String) : Option Url :=
  (Url.parse? text).filter fun url => url.scheme == "http" || url.scheme == "https"

end Http

end LoginGateway
