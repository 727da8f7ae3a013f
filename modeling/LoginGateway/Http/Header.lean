import LoginGateway.Text.Split
import LoginGateway.Text.Utf8

namespace LoginGateway.Http

abbrev Headers := List (String × Octets)

def isNameChar (c : Char) : Bool := c.isAlphanum || "!#$%&'*+-.^_|~\x60".contains c

def isValueOctet (octet : UInt8) : Bool := (0x20 ≤ octet && octet != 0x7F) || octet == 0x09

def isValue (value : Octets) : Bool := value.all isValueOctet

def nameLimit : Nat := 65535

def field? (name value : Octets) : Option (String × Octets) := do
  let text ← Text.decode? name
  if !text.isEmpty && text.length ≤ nameLimit && text.toList.all isNameChar && isValue value then
    some (text.map Char.toLower, value)
  else none

def received (value : Octets) : Octets := Text.strip (fun octet => octet == 0x20 || octet == 0x09) value

def readable? (value : Octets) : Option String :=
  if value.all fun octet => (0x20 ≤ octet && octet < 0x7F) || octet == 0x09 then Text.decode? value else none

namespace Headers

def all (headers : Headers) (name : String) : List Octets :=
  headers.filterMap fun (other, value) => if other = name then some value else none

def first? (headers : Headers) (name : String) : Option Octets := headers.lookup name

end Headers

end LoginGateway.Http
