import LoginGateway.Json.Node

namespace LoginGateway.Json

inductive DecodeError where
  | malformed
  | missingField (name : String)
  | duplicateField (name : String)
  deriving DecidableEq, Repr

structure Fault where
  text : Octets
  error : DecodeError
  deriving DecidableEq, Repr

/-- What a parser says of such a text: the rule, in its own words, and the place where it is broken. -/
structure Remark where
  rule : String
  line : Nat
  column : Nat
  deriving DecidableEq, Repr

def Remark.text (remark : Remark) : String :=
  remark.rule ++ " at line " ++ toString remark.line ++ " column " ++ toString remark.column

abbrev Wording := (text : Octets) → DecodeError → Remark

def Fault.message (fault : Fault) (wording : Wording) : String := (wording fault.text fault.error).text

abbrev Decoder (α : Type) := Node → Except DecodeError α

def codeUnit (a b c d : UInt8) : Nat :=
  let value octet := (hexValue? octet).getD 0
  ((value a * 16 + value b) * 16 + value c) * 16 + value d

def simpleEscape (octet : UInt8) : UInt8 :=
  if octet == 0x62 then 0x08 else if octet == 0x66 then 0x0C else if octet == 0x6E then 0x0A
  else if octet == 0x72 then 0x0D else if octet == 0x74 then 0x09 else octet

/-- What the octets between quotes stand for, last first, put before what is already there. A half of a
surrogate pair stands for nothing. -/
def unescape (done : Octets) : Octets → Option Octets
  | [] => some done
  | 0x5C :: 0x75 :: a :: b :: c :: d :: rest =>
    let high := codeUnit a b c d
    if 0xD800 ≤ high && high ≤ 0xDBFF then
      match rest with
      | 0x5C :: 0x75 :: e :: f :: g :: h :: rest =>
        let low := codeUnit e f g h
        if 0xDC00 ≤ low && low ≤ 0xDFFF then
          let code := 0x10000 + (high - 0xD800) * 0x400 + (low - 0xDC00)
          unescape ((Text.encode (String.singleton (Char.ofNat code))).reverse ++ done) rest
        else none
      | _ => none
    else if 0xDC00 ≤ high && high ≤ 0xDFFF then none
    else unescape ((Text.encode (String.singleton (Char.ofNat high))).reverse ++ done) rest
  | 0x5C :: octet :: rest => unescape (simpleEscape octet :: done) rest
  | octet :: rest => unescape (octet :: done) rest
  termination_by structural text => text

def readText? (raw : Octets) : Option String := do
  let octets ← unescape [] raw
  Text.decode? octets.reverse

def Numeral.toInt? (numeral : Numeral) : Option Int :=
  match numeral.fraction, numeral.exponent with
  | none, none =>
    let size := numeral.whole.foldl (fun (n : Nat) digit => n * 10 + (digit.toNat - 0x30)) 0
    if numeral.negative then (if size = 0 then none else some (-(size : Int))) else some size
  | _, _ => none

def text : Decoder String
  | .text raw => match readText? raw with
    | some text => .ok text
    | none => .error .malformed
  | _ => .error .malformed

def integerIn (least greatest : Int) : Decoder Int
  | .number numeral => match numeral.toInt? with
    | some n => if least ≤ n ∧ n ≤ greatest then .ok n else .error .malformed
    | none => .error .malformed
  | _ => .error .malformed

def integer64 : Decoder Int64 := fun node => (integerIn (-0x8000000000000000) 0x7FFFFFFFFFFFFFFF node).map Int64.ofInt

def natural64 : Decoder UInt64 := fun node => (integerIn 0 0xFFFFFFFFFFFFFFFF node).map fun n => UInt64.ofNat n.toNat

def nullable {α : Type} (decoder : Decoder α) : Decoder (Option α)
  | .null => .ok none
  | node => (decoder node).map some

def ignored : Decoder Unit := fun node => if node.complete then .ok () else .error .malformed

def listOf {α : Type} (decoder : Decoder α) : Decoder (List α)
  | .list items closed => do
    let values ← items.mapM decoder
    if closed then .ok values else .error .malformed
  | _ => .error .malformed

def membersOf {α : Type} (decoder : Decoder α) : Decoder (List (String × α))
  | .object members closed => do
    let values ← members.mapM fun (raw, node) => do
      let some key := readText? raw | .error .malformed
      let value ← decoder node
      pure (key, value)
    if closed then .ok values else .error .malformed
  | _ => .error .malformed

structure RecordField (σ : Type) where
  name : String
  seen : σ → Bool
  optional : Bool
  read : Node → σ → Except DecodeError σ

def field {σ α : Type} (name : String) (optional : Bool) (decoder : Decoder α)
    (get : σ → Option α) (set : σ → α → σ) : RecordField σ where
  name := name
  seen draft := (get draft).isSome
  optional := optional
  read node draft := (decoder node).map (set draft)

def readMember {σ : Type} (other : Decoder Unit) (fields : List (RecordField σ)) (draft : σ)
    (member : Octets × Node) : Except DecodeError σ := do
  let some key := readText? member.1 | .error .malformed
  match fields.find? (·.name == key) with
  | none => other member.2; pure draft
  | some field => if field.seen draft then .error (.duplicateField key) else field.read member.2 draft

def objectRecord {σ α : Type} (other : Decoder Unit) (fields : List (RecordField σ)) (empty : σ)
    (finish : σ → Except DecodeError α) : Decoder α
  | .object members closed => do
    let draft ← members.foldlM (readMember other fields) empty
    if closed then finish draft else .error .malformed
  | _ => .error .malformed

def readItems {σ : Type} : List (RecordField σ) → σ → List Node → Except DecodeError σ
  | [], draft, [] => .ok draft
  | [], _, _ :: _ => .error .malformed
  | field :: fields, draft, [] => if field.optional then readItems fields draft [] else .error .malformed
  | field :: fields, draft, node :: nodes => do readItems fields (← field.read node draft) nodes

/-- A record in either form, from the draft that its fields leave; members that are no fields are ignored. -/
def record {σ α : Type} (fields : List (RecordField σ)) (empty : σ) (finish : σ → Except DecodeError α) : Decoder α
  | .list items closed => do
    let draft ← readItems fields empty items
    if closed then (finish draft).mapError fun _ => .malformed else .error .malformed
  | node => objectRecord ignored fields empty finish node

def require {α : Type} (name : String) : Option α → Except DecodeError α
  | some value => .ok value
  | none => .error (.missingField name)

def decode {α : Type} (decoder : Decoder α) (octets : Octets) : Except DecodeError α := do
  let document := parse octets
  let value ← decoder document.root
  if document.ends then .ok value else .error .malformed

end LoginGateway.Json
