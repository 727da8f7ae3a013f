import LoginGateway.Http.Incoming
import LoginGateway.Json.Printer
import LoginGateway.Provider.Client
import LoginGateway.Store.Basic

namespace LoginGateway

open Http

namespace Gateway

inductive Parsed where
  | apiToken
  | stateToken
  | idToken
  | tokenResponse

structure Settings where
  client : ProviderClient
  secret : Octets
  offlineAsScope : Bool
  invalidateOnRefreshFailure : Bool
  tokenCookie : String
  sessionCookie : String
  /-- What the JSON library says of faults in what is parsed. -/
  wording : Parsed → Json.Wording

def defaultTokenCookie : String := "auth-gateway-token"
def defaultSessionCookie : String := "auth-gateway-session"

/-- The name that a user's session token is stored under; a new login takes the place of the last. -/
def sessionName (user : String) : String := "_session_" ++ user

/-- The time of a request, and the salts that it draws for the tokens that it mints, one after another until a token is
not held yet. They are a list, since of an endless sequence of salts all may come to tokens that are held, and the
search would have no end; the signer fails when it has no salt left. -/
structure Moment where
  now : Instant
  salts : List UInt64

def Settings.signer (settings : Settings) (moment : Moment) : Signer :=
  .ofSecret settings.secret moment.now moment.salts

structure Served (σ : Type) where
  /-- None if the gateway crashed. -/
  reply : Option Reply
  store : σ
  wire : Wire
  minted : Option String

end Gateway

namespace Http.Reply

def jsonType : String := "application/json"
def textType : String := "text/plain; charset=utf-8"

def json (status : Nat) (members : List (String × Octets)) : Reply :=
  ⟨status, none, some jsonType, none, [], some (Json.object members)⟩

def text (status : Nat) (content : String) : Reply :=
  ⟨status, none, some textType, none, [], some (Text.encode content)⟩

def complaint (status : Nat) (message : String) : Reply := json status [("error", Json.quote message)]

def badRequest (message : String) : Reply := complaint 400 message
def unauthorized (message : String) : Reply := complaint 401 message
def serverError (message : String) : Reply := complaint 500 message

def ambiguousQuery : Reply := text 400 "Failed to deserialize query string: duplicate parameter"

def redirect (status : Nat) (location : String) : Reply := ⟨status, some location, none, none, [], some []⟩

def methodNotAllowed (allow : String) : Reply := ⟨405, none, none, some allow, [], some []⟩

end Http.Reply

end LoginGateway
