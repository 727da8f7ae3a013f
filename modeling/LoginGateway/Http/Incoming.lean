import LoginGateway.Encoding.Percent
import LoginGateway.Http.Header

namespace LoginGateway.Http

structure Target where
  path : String
  query : Option String
  deriving DecidableEq, Repr

/-- The target that a text names; a fragment is no part of it, and a full URL's authority is left out. -/
def Target.ofText (text : String) : Target :=
  let withoutFragment := text.toList.takeWhile (· != '#')
  let (path, query) := Text.cut (· == '?') withoutFragment
  let pathText : List Char := match Text.cut (· == ':') path with
    | (scheme, some ('/' :: '/' :: rest)) => if scheme.contains '/' then path else rest.dropWhile (· != '/')
    | _ => path
  ⟨if pathText.isEmpty then "/" else String.ofList pathText, query.map String.ofList⟩

structure Incoming where
  method : String
  target : Target
  headers : Headers
  body : Octets

structure Reply where
  status : Nat
  location : Option String
  contentType : Option String
  allow : Option String
  cookies : List String
  body : Option Octets
  deriving DecidableEq, Repr

abbrev Params := List (String × String)

/-- The only parameter of a name; it may be missing, and the result fails if there are several. -/
def only? (params : Params) (name : String) : Option (Option String) :=
  match params.filter (·.1 == name) with
  | [] => some none
  | [(_, value)] => some (some value)
  | _ => none

def unambiguous (params : Params) (names : List String) : Bool := names.all fun name => (only? params name).isSome

def Params.get? (params : Params) (name : String) : Option String := params.lookup name

def Target.params (target : Target) : Params := Form.decode (Text.encode (target.query.getD ""))

def formType : String := "application/x-www-form-urlencoded"

def Target.length (target : Target) : Nat :=
  (Text.encode target.path).length + target.query.elim 0 fun query => (Text.encode query).length + 1

/-- A longer target is turned away before the gateway is asked. -/
def targetLimit : Nat := 65534

def bodyLimit : Nat := 2 * 1024 * 1024

def Incoming.form? (request : Incoming) : Option Params :=
  match (request.headers.first? "content-type").bind readable? with
  | some contentType =>
    if formType.toList.isPrefixOf contentType.toList ∧ request.body.length ≤ bodyLimit then
      some (Form.decode request.body)
    else none
  | none => none

end LoginGateway.Http
