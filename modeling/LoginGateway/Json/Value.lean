import LoginGateway.Json.Decode
import LoginGateway.Json.Printer

namespace LoginGateway.Json

inductive Value where
  | null
  | bool (value : Bool)
  | integer (value : Int)
  | decimal (numeral : Numeral)
  | text (value : String)
  | list (items : List Value)
  | object (members : List (String × Value))
  deriving Repr

def setMember {α : Type} (key : String) (value : α) : List (String × α) → List (String × α)
  | [] => [(key, value)]
  | (other, old) :: rest =>
    if key < other then (key, value) :: (other, old) :: rest
    else if key = other then (key, value) :: rest
    else (other, old) :: setMember key value rest

def Numeral.overflows (numeral : Numeral) : Bool :=
  let digits := (numeral.whole ++ numeral.fraction.getD []).dropWhile (· == 0x30)
  let number (digits : Octets) := digits.foldl (fun (n : Nat) digit => n * 10 + (digit.toNat - 0x30)) 0
  let shift : Int := (match numeral.exponent with
    | none => 0
    | some (down, digits) => if down then -(number digits : Int) else number digits)
      - (numeral.fraction.getD []).length
  if digits.isEmpty then false
  else
    let size := shift + digits.length
    if size > 310 then true
    else if size < 308 then false
    else
      let bound := Nat.pow 2 1024 - Nat.pow 2 970
      if 0 ≤ shift then number digits * Nat.pow 10 shift.toNat ≥ bound
      else number digits ≥ bound * Nat.pow 10 (-shift).toNat

mutual
def Node.value (depth : Nat) : Node → Except DecodeError Value
  | .null => .ok .null
  | .bool value => .ok (.bool value)
  | .number numeral =>
    match numeral.toInt? with
    | some n =>
      if -0x8000000000000000 ≤ n ∧ n ≤ 0xFFFFFFFFFFFFFFFF then .ok (.integer n) else .ok (.decimal numeral)
    | none => if numeral.overflows then .error .malformed else .ok (.decimal numeral)
  | .text raw => match readText? raw with
    | some content => .ok (.text content)
    | none => .error .malformed
  | .list items closed =>
    match depth with
    | 0 => .error .malformed
    | depth + 1 => do
      let values ← Node.values depth items
      if closed then .ok (.list values) else .error .malformed
  | .object members closed =>
    match depth with
    | 0 => .error .malformed
    | depth + 1 => do
      let values ← Node.memberValues depth [] members
      if closed then .ok (.object values) else .error .malformed
  | .fault => .error .malformed
def Node.values (depth : Nat) : List Node → Except DecodeError (List Value)
  | [] => .ok []
  | node :: nodes => do
    let value ← Node.value depth node
    let values ← Node.values depth nodes
    return value :: values
def Node.memberValues (depth : Nat) (read : List (String × Value)) :
    List (Octets × Node) → Except DecodeError (List (String × Value))
  | [] => .ok read
  | (raw, node) :: rest => do
    let some key := readText? raw | .error .malformed
    let value ← Node.value depth node
    Node.memberValues depth (setMember key value read) rest
end

def depthLimit : Nat := 127

def value : Decoder Value := Node.value depthLimit

mutual
def Value.octets : Value → Octets
  | .null => [0x6E, 0x75, 0x6C, 0x6C]
  | .bool true => [0x74, 0x72, 0x75, 0x65]
  | .bool false => [0x66, 0x61, 0x6C, 0x73, 0x65]
  | .integer n => Json.integer n
  | .decimal numeral => numeral.octets
  | .text content => quote content
  | .list items => Json.list (Value.itemTexts items)
  | .object members => Json.object (Value.memberTexts members)
def Value.itemTexts : List Value → List Octets
  | [] => []
  | item :: items => item.octets :: Value.itemTexts items
def Value.memberTexts : List (String × Value) → List (String × Octets)
  | [] => []
  | (key, value) :: members => (key, value.octets) :: Value.memberTexts members
end

end LoginGateway.Json
