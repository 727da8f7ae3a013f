import LoginGateway.Json.Value

namespace LoginGateway.SignedToken

open Json

def algorithms : List String :=
  ["HS256", "HS384", "HS512", "ES256", "ES384", "RS256", "RS384", "RS512", "PS256", "PS384", "PS512", "EdDSA"]

def nameOf (names : List String) : Decoder String
  | .text raw => match readText? raw with
    | some name => if names.contains name then .ok name else .error .malformed
    | none => .error .malformed
  | .object [(raw, .null)] true => match readText? raw with
    | some name => if names.contains name then .ok name else .error .malformed
    | none => .error .malformed
  | _ => .error .malformed

namespace Key

def depthLimit : Nat := 125

def isText : Value → Bool
  | .text _ => true
  | _ => false

def isTextOrNull (value : Value) : Bool := isText value || value matches .null

def isTextsOrNull : Value → Bool
  | .list items => items.all isText
  | .null => true
  | _ => false

def uses : List String := algorithms ++ ["RSA1_5", "RSA-OAEP", "RSA-OAEP-256"]

def isUse : Value → Bool
  | .text name => uses.contains name
  | .object [(name, .null)] => uses.contains name
  | .null => true
  | _ => false

def common : List (String × (Value → Bool)) :=
  [("use", isTextOrNull), ("key_ops", isTextsOrNull), ("alg", isUse), ("kid", isTextOrNull),
   ("x5u", isTextOrNull), ("x5c", isTextsOrNull), ("x5t", isTextOrNull), ("x5t#S256", isTextOrNull)]

def curves : List String := ["P-256", "P-384", "P-521", "Ed25519"]

def required : String → Option (List (String × Bool))
  | "EC" => some [("crv", true), ("x", false), ("y", false)]
  | "RSA" => some [("n", false), ("e", false)]
  | "OKP" => some [("crv", true), ("x", false)]
  | "oct" => some [("k", false)]
  | _ => none

def only? (members : List (String × Value)) (key : String) : Option Value :=
  match members.filter (·.1 == key) with
  | [(_, value)] => some value
  | _ => none

def isKey (members : List (String × Value)) : Bool :=
  match only? members "kty" with
  | some (.text kind) => match required kind with
    | some needed => needed.all fun (name, isCurve) => match only? members name with
      | some (.text content) => !isCurve || curves.contains content
      | _ => false
    | none => false
  | _ => false

def checkCommon (seen : List String) : List (String × Value) → Except DecodeError Unit
  | [] => .ok ()
  | (name, value) :: rest =>
    match common.lookup name with
    | none => checkCommon seen rest
    | some test =>
      if seen.contains name then .error (.duplicateField name)
      else if test value then checkCommon (name :: seen) rest
      else .error .malformed

def decoder : Decoder Unit := fun node => do
  let members ← membersOf (Node.value depthLimit) node
  checkCommon [] members
  if isKey (members.filter fun member => (common.lookup member.1).isNone) then .ok () else .error .malformed

end Key

end LoginGateway.SignedToken
