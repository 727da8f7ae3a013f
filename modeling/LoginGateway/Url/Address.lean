import LoginGateway.Text.Split

namespace LoginGateway.Url

def digitValue? (c : Char) : Option Nat :=
  if c.isDigit then some (c.toNat - 48)
  else if 'a' ≤ c && c ≤ 'f' then some (c.toNat - 87)
  else if 'A' ≤ c && c ≤ 'F' then some (c.toNat - 55)
  else none

def numberIn? (base : Nat) (digits : List Char) : Option Nat :=
  digits.foldlM (fun n c => match digitValue? c with
    | some value => if value < base then some (n * base + value) else none
    | none => none) 0

def addressNumber? (part : List Char) : Option Nat :=
  match part with
  | [] => none
  | '0' :: 'x' :: digits | '0' :: 'X' :: digits => numberIn? 16 digits
  | '0' :: digits => numberIn? 8 digits
  | digits => numberIn? 10 digits

def labels (name : List Char) : List (List Char) :=
  let parts := Text.split (· == '.') name
  if 1 < parts.length ∧ parts.getLast? = some [] then parts.dropLast else parts

def endsInNumber (name : List Char) : Bool :=
  match (labels name).getLast? with
  | none | some [] => false
  | some last => last.all Char.isDigit || (addressNumber? last).isSome

/-- The address that a name is: all numbers but the last are octets, and the last fills the rest. -/
def version4? (name : List Char) : Option Nat := do
  let numbers ← (labels name).mapM addressNumber?
  let last ← numbers.getLast?
  let front := numbers.dropLast
  if front.length ≤ 3 ∧ front.all (· ≤ 255) ∧ last < Nat.pow 256 (4 - front.length) then
    some (front.zipIdx.foldl (fun sum (n, i) => sum + n * Nat.pow 256 (3 - i)) last)
  else none

def version4Text (address : Nat) : String :=
  ".".intercalate ([3, 2, 1, 0].map fun place => toString (address / Nat.pow 256 place % 256))

def piece? (text : List Char) : Option Nat :=
  if text.isEmpty ∨ 4 < text.length then none else numberIn? 16 text

def octet? (text : List Char) : Option Nat :=
  match text with
  | [] => none
  | '0' :: _ :: _ => none
  | digits => if digits.all Char.isDigit ∧ digits.length ≤ 3 then
      (numberIn? 10 digits).filter (· ≤ 255) else none

def pieces? (ends : Bool) (text : List Char) : Option (List Nat) :=
  if text.isEmpty then some []
  else
    let parts := Text.split (· == ':') text
    match parts.getLast? with
    | some last =>
      if ends && last.contains '.' then do
        let front ← parts.dropLast.mapM piece?
        match ← (Text.split (· == '.') last).mapM octet? with
        | [a, b, c, d] => some (front ++ [a * 256 + b, c * 256 + d])
        | _ => none
      else parts.mapM piece?
    | none => none

def cutGap : List Char → Option (List Char × List Char)
  | ':' :: ':' :: rest => some ([], rest)
  | c :: rest => (cutGap rest).map fun (front, back) => (c :: front, back)
  | [] => none

def version6? (text : List Char) : Option (List Nat) :=
  match cutGap text with
  | none => do
    let pieces ← pieces? true text
    if pieces.length = 8 then some pieces else none
  | some (front, back) => do
    let before ← pieces? false front
    let after ← pieces? true back
    if before.length + after.length ≤ 7 then
      some (before ++ List.replicate (8 - before.length - after.length) 0 ++ after)
    else none

def hexText (n : Nat) : String := String.ofList (Nat.toDigits 16 n)

def longestZeros (pieces : List Nat) : Nat × Nat :=
  let run (start : Nat) : Nat := ((pieces.drop start).takeWhile (· == 0)).length
  (List.range pieces.length).foldl (fun best start =>
    if best.2 < run start then (start, run start) else best) (0, 0)

def version6Text (pieces : List Nat) : String :=
  let joined (part : List Nat) : String := ":".intercalate (part.map hexText)
  match pieces with
  | [0, 0, 0, 0, 0, 0xFFFF, high, low] => "::ffff:" ++ version4Text (high * 65536 + low)
  | _ =>
    let (start, count) := longestZeros pieces
    if count < 2 then joined pieces
    else joined (pieces.take start) ++ "::" ++ joined (pieces.drop (start + count))

end LoginGateway.Url
