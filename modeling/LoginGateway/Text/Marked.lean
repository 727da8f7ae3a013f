import LoginGateway.Text.Utf8

namespace LoginGateway.Text

def units (highFirst : Bool) : Octets → List Nat × Bool
  | first :: second :: rest =>
    let (others, odd) := units highFirst rest
    let unit := if highFirst then first.toNat * 256 + second.toNat else second.toNat * 256 + first.toNat
    (unit :: others, odd)
  | [_] => ([], true)
  | [] => ([], false)

def isHighSurrogate (unit : Nat) : Bool := 0xD800 ≤ unit && unit ≤ 0xDBFF

def isLowSurrogate (unit : Nat) : Bool := 0xDC00 ≤ unit && unit ≤ 0xDFFF

def single (unit : Nat) : Char :=
  if isHighSurrogate unit || isLowSurrogate unit then replacement else Char.ofNat unit

/-- The characters of UTF-16 units, and of an octet left over after them. A high surrogate that nothing can
complete any more and the octet after it are one unreadable piece. -/
def ofUnits (odd : Bool) : List Nat → List Char
  | [] => if odd then [replacement] else []
  | [unit] => single unit :: if odd && !isHighSurrogate unit then [replacement] else []
  | unit :: next :: rest =>
    if isHighSurrogate unit && isLowSurrogate next then
      Char.ofNat (0x10000 + (unit - 0xD800) * 0x400 + (next - 0xDC00)) :: ofUnits odd rest
    else single unit :: ofUnits odd (next :: rest)

def decodeUtf16 (highFirst : Bool) (octets : Octets) : String :=
  let (units, odd) := units highFirst octets
  String.ofList (ofUnits odd units)

def decodeMarked (octets : Octets) : String :=
  match octets with
  | 0xEF :: 0xBB :: 0xBF :: rest => decodeLossy rest
  | 0xFE :: 0xFF :: rest => decodeUtf16 true rest
  | 0xFF :: 0xFE :: rest => decodeUtf16 false rest
  | _ => decodeLossy octets

end LoginGateway.Text
