namespace LoginGateway

abbrev Octets := List UInt8

namespace Text

def encode (text : String) : Octets := text.toByteArray.data.toList

def decode? (octets : Octets) : Option String := String.fromUTF8? ⟨octets.toArray⟩

def ascii (octets : Octets) : String := String.ofList (octets.map Char.ofUInt8)

structure Pending where
  code : Nat
  owed : Nat
  least : UInt8
  greatest : UInt8

def Pending.start (octet : UInt8) : Option Pending :=
  if octet < 0x80 then some ⟨octet.toNat, 0, 0x80, 0xBF⟩
  else if 0xC2 ≤ octet && octet ≤ 0xDF then some ⟨octet.toNat - 0xC0, 1, 0x80, 0xBF⟩
  else if octet == 0xE0 then some ⟨0, 2, 0xA0, 0xBF⟩
  else if octet == 0xED then some ⟨0xD, 2, 0x80, 0x9F⟩
  else if 0xE1 ≤ octet && octet ≤ 0xEF then some ⟨octet.toNat - 0xE0, 2, 0x80, 0xBF⟩
  else if octet == 0xF0 then some ⟨0, 3, 0x90, 0xBF⟩
  else if 0xF1 ≤ octet && octet ≤ 0xF3 then some ⟨octet.toNat - 0xF0, 3, 0x80, 0xBF⟩
  else if octet == 0xF4 then some ⟨4, 3, 0x80, 0x8F⟩
  else none

def replacement : Char := '\uFFFD'

def begin (read : List Char) (octet : UInt8) : List Char × Option Pending :=
  match Pending.start octet with
  | none => (replacement :: read, none)
  | some pending => if pending.owed = 0 then (Char.ofNat pending.code :: read, none) else (read, some pending)

/-- Takes one octet. An octet that cannot continue the character begun ends it as a replacement character and
is then taken on its own. -/
def advance : List Char × Option Pending → UInt8 → List Char × Option Pending
  | (read, none), octet => begin read octet
  | (read, some pending), octet =>
    if pending.least ≤ octet && octet ≤ pending.greatest then
      let code := pending.code * 64 + (octet.toNat - 0x80)
      if pending.owed = 1 then (Char.ofNat code :: read, none)
      else (read, some ⟨code, pending.owed - 1, 0x80, 0xBF⟩)
    else begin (replacement :: read) octet

def replaceIllFormed (octets : Octets) : String :=
  match octets.foldl advance ([], none) with
  | (read, none) => String.ofList read.reverse
  | (read, some _) => String.ofList (replacement :: read).reverse

def decodeLossy (octets : Octets) : String := (decode? octets).getD (replaceIllFormed octets)

@[simp] theorem decode?_encode (text : String) : decode? (encode text) = some text := by
  simp only [decode?, encode, Array.toArray_toList, String.fromUTF8?]
  exact dif_pos text.isValidUTF8

theorem encode_of_decode? {octets : Octets} {text : String} (read : decode? octets = some text) :
    encode text = octets := by
  simp only [decode?, String.fromUTF8?] at read
  split at read
  · cases read
    simp [encode, String.fromUTF8]
  · cases read

@[simp] theorem decodeLossy_encode (text : String) : decodeLossy (encode text) = text := by
  simp [decodeLossy]

theorem encode_injective {left right : String} (same : encode left = encode right) : left = right := by
  have := decode?_encode left
  rw [same, decode?_encode] at this
  exact (Option.some.inj this).symm

end Text

end LoginGateway
