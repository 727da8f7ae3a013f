import LoginGateway.Encoding.Percent
import LoginGateway.Text.Utf8
import LoginGateway.Url.Address

namespace LoginGateway.Url

inductive Host where
  | name (text : String)
  | version4 (address : Nat)
  | version6 (pieces : List Nat)
  deriving DecidableEq, Repr

def isForbidden (c : Char) : Bool :=
  c.val ≤ 0x20 || c == '#' || c == '/' || c == ':' || c == '<' || c == '>' || c == '?' || c == '@' || c == '['
    || c == '\\' || c == ']' || c == '^' || c == '|'

def plainForm (c : Char) : List Char :=
  if c.val == 0xAD || c.val == 0x200B || c.val == 0x2060 || c.val == 0xFEFF then []
  else if c.val == 0x3002 || c.val == 0xFF0E || c.val == 0xFF61 then ['.']
  else if 0xFF01 ≤ c.val && c.val ≤ 0xFF5E then [(Char.ofNat (c.toNat - 0xFEE0)).toLower]
  else [c.toLower]

def isRefused (c : Char) : Bool :=
  isForbidden c || c == '%' || c.val == 0x7F || (0x80 ≤ c.val && c.val ≤ 0xA0) || c.val == 0xFFFD
    || (0x2028 ≤ c.val && c.val ≤ 0x202E) || (0xE000 ≤ c.val && c.val ≤ 0xF8FF) || 0xE0000 ≤ c.val

def bracketed? : List Char → Option (Option (List Char))
  | '[' :: rest => if rest.getLast? = some ']' then some (some rest.dropLast) else some none
  | _ => none

/-- The host of a web URL. A name with other characters than ASCII is kept in them, and not written in Punycode. -/
def webHost? (text : List Char) : Option Host :=
  match bracketed? text with
  | some inner => do return .version6 (← version6? (← inner))
  | none => do
    let unescaped ← Text.decode? (Percent.decodeOctets (Text.encode (String.ofList text)))
    let name := unescaped.toList.flatMap plainForm
    if name.isEmpty ∨ name.any isRefused then none
    else if endsInNumber name then return .version4 (← version4? name)
    else return .name (String.ofList name)

def otherHost? (text : List Char) : Option Host :=
  match bracketed? text with
  | some inner => do return .version6 (← version6? (← inner))
  | none =>
    if text.any fun c => isForbidden c && (0x20 ≤ c.val || c.val == 0 || c.val == 9 || c.val == 10 || c.val == 13)
    then none
    else some (.name (Percent.encode (fun c => 0x20 ≤ c.val && c.val < 0x7F) (String.ofList text)))

def Host.text : Host → String
  | .name text => text
  | .version4 address => version4Text address
  | .version6 pieces => "[" ++ version6Text pieces ++ "]"

end LoginGateway.Url
