import LoginGateway.Token.Key

namespace LoginGateway.SignedToken

open Json

def ownHeader : Octets := Json.object [("typ", quote "JWT"), ("alg", quote "HS256")]

structure Draft where
  seen : List String := []
  algorithm : Option String := none

def checked {α : Type} (name : String) (optional : Bool) (decoder : Decoder α) : RecordField Draft where
  name := name
  seen draft := draft.seen.contains name
  optional := optional
  read node draft := (decoder node).map fun _ => { draft with seen := name :: draft.seen }

def headerFields : List (RecordField Draft) :=
  [checked "typ" true (nullable text),
   field "alg" false (nameOf algorithms) (·.algorithm) fun draft name => { draft with algorithm := some name },
   checked "cty" true (nullable text),
   checked "jku" true (nullable text),
   checked "jwk" true (nullable Key.decoder),
   checked "kid" true (nullable text),
   checked "x5u" true (nullable text),
   checked "x5c" true (nullable (listOf text)),
   checked "x5t" true (nullable text),
   checked "x5t#S256" true (nullable text)]

def header : Decoder String := record headerFields {} fun draft => require "alg" draft.algorithm

def numericClaim : Decoder Unit
  | .list [] true | .object [] true => .ok ()
  | .list _ _ | .object _ _ => .error .malformed
  | .text raw => (Json.text (.text raw)).map fun _ => ()
  | node => ignored node

def textClaim : Decoder Unit
  | .list _ _ | .object _ _ => .error .malformed
  | node => numericClaim node

def anyClaim : Decoder Unit
  | .number _ => .ok ()
  | node => (Node.value (depthLimit - 1) node).map fun _ => ()

def registeredFields : List (RecordField Draft) :=
  [checked "exp" false numericClaim, checked "nbf" false numericClaim, checked "sub" false textClaim,
   checked "iss" false anyClaim, checked "aud" false anyClaim]

def registered : Decoder Unit := record registeredFields {} fun _ => .ok ()

end LoginGateway.SignedToken
