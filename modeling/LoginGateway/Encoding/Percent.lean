import LoginGateway.Text.Utf8
import LoginGateway.Text.Split

namespace LoginGateway.Percent

def hexDigit (n : UInt8) : Char := Char.ofNat (if n < 10 then 0x30 + n.toNat else 0x37 + n.toNat)

def escapeOctet (octet : UInt8) : List Char := ['%', hexDigit (octet >>> 4), hexDigit (octet &&& 0x0F)]

def escapeUnless (keep : Char → Bool) (c : Char) : List Char :=
  if keep c then [c] else (Text.encode (String.singleton c)).flatMap escapeOctet

def encode (keep : Char → Bool) (text : String) : String :=
  String.ofList (text.toList.flatMap (escapeUnless keep))

def isAlphanumeric (c : Char) : Bool := c.isAlphanum

def isUnreserved (c : Char) : Bool := isAlphanumeric c || c == '-' || c == '.' || c == '_' || c == '~'

def hexValue? (octet : UInt8) : Option UInt8 :=
  if 0x30 ≤ octet && octet ≤ 0x39 then some (octet - 0x30)
  else if 0x61 ≤ octet && octet ≤ 0x66 then some (octet - 0x57)
  else if 0x41 ≤ octet && octet ≤ 0x46 then some (octet - 0x37)
  else none

def decodeOctets : Octets → Octets
  | 0x25 :: high :: low :: rest =>
    match hexValue? high, hexValue? low with
    | some h, some l => (h <<< 4 ||| l) :: decodeOctets rest
    | _, _ => 0x25 :: decodeOctets (high :: low :: rest)
  | octet :: rest => octet :: decodeOctets rest
  | [] => []

end LoginGateway.Percent

namespace LoginGateway.Form

def isPlain (c : Char) : Bool :=
  Percent.isAlphanumeric c || c == '*' || c == '-' || c == '.' || c == '_'

def encodeChar (c : Char) : List Char := if c = ' ' then ['+'] else Percent.escapeUnless isPlain c

def encodeText (text : String) : List Char := text.toList.flatMap encodeChar

def encode (pairs : List (String × String)) : String :=
  String.ofList (['&'].intercalate (pairs.map fun (name, value) => encodeText name ++ '=' :: encodeText value))

def decodeText (octets : Octets) : String :=
  Text.decodeLossy (Percent.decodeOctets (octets.map fun octet => if octet == 0x2B then 0x20 else octet))

def decodePair (piece : Octets) : String × String :=
  let (name, value) := Text.cut (· == 0x3D) piece
  (decodeText name, decodeText (value.getD []))

def decode (form : Octets) : List (String × String) :=
  (Text.split (· == 0x26) form).filterMap fun piece => if piece.isEmpty then none else some (decodePair piece)

end LoginGateway.Form
