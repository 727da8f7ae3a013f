import LoginGateway.Text.Utf8

namespace LoginGateway.Base64

/-- The two letters that differ between the standard and the URL-safe alphabet, and whether the text is padded
to groups of four. -/
structure Form where
  letter62 : UInt8
  letter63 : UInt8
  padded : Bool

def standard : Form := ⟨0x2B, 0x2F, true⟩

def urlSafe : Form := ⟨0x2D, 0x5F, false⟩

def urlSafePadded : Form := ⟨0x2D, 0x5F, true⟩

def pad : UInt8 := 0x3D

def Form.letter (form : Form) (bits : UInt8) : UInt8 :=
  let n := bits &&& 0x3F
  if n < 26 then 0x41 + n
  else if n < 52 then 0x61 + (n - 26)
  else if n < 62 then 0x30 + (n - 52)
  else if n == 62 then form.letter62 else form.letter63

def Form.bits? (form : Form) (letter : UInt8) : Option UInt8 :=
  if 0x41 ≤ letter && letter ≤ 0x5A then some (letter - 0x41)
  else if 0x61 ≤ letter && letter ≤ 0x7A then some (letter - 0x61 + 26)
  else if 0x30 ≤ letter && letter ≤ 0x39 then some (letter - 0x30 + 52)
  else if letter == form.letter62 then some 62
  else if letter == form.letter63 then some 63
  else none

def lowTwo (octet : UInt8) : UInt8 := (octet <<< 4) &&& 0x30

def lowFour (octet : UInt8) : UInt8 := (octet <<< 2) &&& 0x3C

def sextets (done : List UInt8) : Octets → List UInt8
  | [] => done
  | [a] => lowTwo a :: (a >>> 2) :: done
  | [a, b] => lowFour b :: (lowTwo a ||| (b >>> 4)) :: (a >>> 2) :: done
  | a :: b :: c :: rest =>
    sextets ((c &&& 0x3F) :: (lowFour b ||| (c >>> 6)) :: (lowTwo a ||| (b >>> 4)) :: (a >>> 2) :: done) rest

def octets? (done : Octets) : List UInt8 → Option Octets
  | [] => some done
  | [_] => none
  | [p, q] => if (q &&& 0x0F) == 0 then some ((p <<< 2 ||| q >>> 4) :: done) else none
  | [p, q, r] =>
    if (r &&& 0x03) == 0 then some ((q <<< 4 ||| r >>> 2) :: (p <<< 2 ||| q >>> 4) :: done) else none
  | p :: q :: r :: s :: rest =>
    octets? ((r <<< 6 ||| s) :: (q <<< 4 ||| r >>> 2) :: (p <<< 2 ||| q >>> 4) :: done) rest

def Form.padding (form : Form) (letters : Nat) : Octets :=
  if form.padded then List.replicate ((4 - letters % 4) % 4) pad else []

def encode (form : Form) (octets : Octets) : Octets :=
  let letters := (sextets [] octets).reverse.map form.letter
  letters ++ form.padding letters.length

def decode? (form : Form) (text : Octets) : Option Octets :=
  let letters := text.takeWhile (· != pad)
  if text.dropWhile (· != pad) = form.padding letters.length then do
    let groups ← letters.mapM form.bits?
    let octets ← octets? [] groups
    return octets.reverse
  else none

end LoginGateway.Base64
