import LoginGateway.Json.Token

namespace LoginGateway.Json

def hexDigit (n : UInt8) : UInt8 := if n < 10 then 0x30 + n else 0x57 + n

def escapeOctet (octet : UInt8) : Octets :=
  if octet == 0x22 then [0x5C, 0x22]
  else if octet == 0x5C then [0x5C, 0x5C]
  else if octet == 0x08 then [0x5C, 0x62]
  else if octet == 0x0C then [0x5C, 0x66]
  else if octet == 0x0A then [0x5C, 0x6E]
  else if octet == 0x0D then [0x5C, 0x72]
  else if octet == 0x09 then [0x5C, 0x74]
  else if octet < 0x20 then [0x5C, 0x75, 0x30, 0x30, hexDigit (octet >>> 4), hexDigit (octet &&& 0x0F)]
  else [octet]

def escape (octets : Octets) : Octets := octets.flatMap escapeOctet

def quote (text : String) : Octets := 0x22 :: (escape (Text.encode text) ++ [0x22])

def natural (n : Nat) : Octets := Text.encode (toString n)

def integer (n : Int) : Octets := if n < 0 then 0x2D :: natural n.natAbs else natural n.natAbs

def Numeral.octets (numeral : Numeral) : Octets :=
  (if numeral.negative then [0x2D] else []) ++ numeral.whole
    ++ (match numeral.fraction with | some digits => 0x2E :: digits | none => [])
    ++ (match numeral.exponent with
      | some (true, digits) => 0x65 :: 0x2D :: digits
      | some (false, digits) => 0x65 :: digits
      | none => [])

def joined : List Octets → Octets
  | [] => []
  | piece :: pieces => piece ++ pieces.flatMap (0x2C :: ·)

def list (items : List Octets) : Octets := 0x5B :: (joined items ++ [0x5D])

def object (members : List (String × Octets)) : Octets :=
  0x7B :: (joined (members.map fun (key, value) => quote key ++ 0x3A :: value) ++ [0x7D])

end LoginGateway.Json
