import LoginGateway.Http.Header
import LoginGateway.Text.Blank

namespace LoginGateway

inductive PresentedError where
  | missing
  | invalidFormat
  | empty
  deriving DecidableEq, Repr

def PresentedError.message : PresentedError → String
  | .missing => "Authorization token not provided"
  | .invalidFormat => "Invalid authorization token format"
  | .empty => "Authorization token is empty"

namespace PresentedToken

open Http

def ofBearer (value : String) : Except PresentedError String :=
  match Text.cut (· == ' ') value.toList with
  | (_, none) => .error .invalidFormat
  | (scheme, some rest) =>
    if Text.lowerAscii (String.ofList scheme) ≠ "bearer" then .error .invalidFormat
    else
      let token := Text.trim (String.ofList rest)
      if token.isEmpty then .error .empty else .ok token

def bearer (headers : Headers) : Except PresentedError String :=
  match headers.first? "authorization" with
  | none => .error .missing
  | some value => match readable? value with
    | none => .error .invalidFormat
    | some text => ofBearer text

def cookiePair? (piece : List Char) : Option (String × String) :=
  match Text.cut (· == '=') (Text.strip Text.isBlank piece) with
  | (_, none) => none
  | (name, some value) =>
    some (String.ofList name, String.ofList (Text.strip (· == '\x22') (Text.strip Text.isBlank value)))

def cookies (headers : Headers) : List (String × String) :=
  (headers.all "cookie").flatMap fun value => match readable? value with
    | none => []
    | some text => (Text.split (· == ';') text.toList).filterMap cookiePair?

def cookie (headers : Headers) (name : String) : Except PresentedError String :=
  match (cookies headers).lookup name with
  | none => .error .missing
  | some value => if value.isEmpty then .error .empty else .ok value

/-- The token that a request presents. A header counts before the cookie, and if neither holds a token, the
header's error is told, unless there is no header. -/
def ofRequest (headers : Headers) (cookieName : String) : Except PresentedError String :=
  match bearer headers with
  | .ok token => .ok token
  | .error headerError => (cookie headers cookieName).mapError fun cookieError =>
    if headerError = .missing then cookieError else headerError

end PresentedToken

end LoginGateway
