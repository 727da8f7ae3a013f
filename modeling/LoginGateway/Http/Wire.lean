import LoginGateway.Http.Header
import LoginGateway.Http.Status
import LoginGateway.Text.Marked
import LoginGateway.Url.Parse

namespace LoginGateway.Http

structure Request where
  method : String
  url : Url
  headers : Headers
  body : Octets
  deriving DecidableEq, Repr

structure Response where
  status : Nat
  body : Option Octets
  deriving DecidableEq, Repr

inductive Reaction where
  | dropped
  | answered (response : Response)
  deriving DecidableEq, Repr

def Response.text? (response : Response) : Option String :=
  response.body.map Text.decodeMarked

def unknownBody : String := "Unknown error"

def Response.complaint (response : Response) : String := response.text?.getD unknownBody

/-- The far side, and the requests it has been sent, latest first. -/
structure Wire where
  react : List Request → Reaction
  sent : List Request

def Request.received (request : Request) : Request :=
  { request with headers := request.headers.map fun (name, value) => (name, Http.received value) }

def Wire.send (wire : Wire) (request : Request) : Reaction × Wire :=
  let sent := request.received :: wire.sent
  (wire.react sent, { wire with sent := sent })

end LoginGateway.Http
