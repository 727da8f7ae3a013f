import LoginGateway.Text.Utf8

namespace LoginGateway

/-- A property of octets that is decided for each of them, digit by digit. -/
theorem forall_octet {p : UInt8 → Prop} (each : ∀ high low : Fin 16, p (UInt8.ofNat (16 * high + low)))
    (octet : UInt8) : p octet := by
  have below := octet.toNat_lt
  have digits := each ⟨octet.toNat / 16, by omega⟩ ⟨octet.toNat % 16, by omega⟩
  have whole : 16 * (octet.toNat / 16) + octet.toNat % 16 = octet.toNat := Nat.div_add_mod _ _
  simpa only [whole, UInt8.ofNat_toNat] using digits

namespace Text

def octetOf (c : Char) : UInt8 := c.val.toUInt8

theorem encode_ofList (cs : List Char) : encode (String.ofList cs) = cs.flatMap String.utf8EncodeChar := by
  simp [encode, List.utf8Encode]

theorem encode_eq (text : String) : encode text = text.toList.flatMap String.utf8EncodeChar := by
  rw [← encode_ofList, String.ofList_toList]

theorem utf8EncodeChar_of_ascii {c : Char} (ascii : c.val < 0x80) : String.utf8EncodeChar c = [octetOf c] := by
  have small : c.val ≤ 0x7F := by
    rw [UInt32.lt_iff_toNat_lt] at ascii
    rw [UInt32.le_iff_toNat_le]
    change c.val.toNat < 128 at ascii
    change c.val.toNat ≤ 127
    omega
  have single : c.utf8Size = 1 := Char.utf8Size_eq_one_iff.mpr small
  rw [String.utf8EncodeChar_eq_singleton single]
  rfl

theorem toNat_beyond {c : Char} (beyond : ¬c.val < 0x80) : 0x80 ≤ c.toNat := by
  rw [UInt32.lt_iff_toNat_lt, Nat.not_lt] at beyond
  exact beyond

theorem utf8EncodeChar_beyond {c : Char} (beyond : ¬c.val < 0x80) : ∀ octet ∈ String.utf8EncodeChar c, 0x80 ≤ octet := by
  have large : 0x80 ≤ c.val.toNat := toNat_beyond beyond
  have marked : ∀ n, n < 0x80 → (0x80 : UInt8) ≤ UInt8.ofNat (n + 0x80) := by
    intro n small
    rw [UInt8.le_iff_toNat_le, UInt8.toNat_ofNat', Nat.mod_eq_of_lt (by omega)]
    exact Nat.le_add_left ..
  intro octet member
  unfold String.utf8EncodeChar at member
  rw [if_neg (by omega)] at member
  split at member
  · simp only [List.mem_cons, List.not_mem_nil, or_false] at member
    rcases member with rfl | rfl
    · exact marked (_ + 0x40) (by omega)
    · exact marked _ (by omega)
  split at member
  · simp only [List.mem_cons, List.not_mem_nil, or_false] at member
    rcases member with rfl | rfl | rfl
    · exact marked (_ + 0x60) (by omega)
    · exact marked _ (by omega)
    · exact marked _ (by omega)
  · simp only [List.mem_cons, List.not_mem_nil, or_false] at member
    rcases member with rfl | rfl | rfl | rfl
    · exact marked (_ + 0x70) (by omega)
    · exact marked _ (by omega)
    · exact marked _ (by omega)
    · exact marked _ (by omega)

theorem all_encode {p : UInt8 → Bool} {common : Bool} (beyond : ∀ octet, 0x80 ≤ octet → p octet = common)
    (text : String) :
    (encode text).all p = text.toList.all fun c => if c.val < 0x80 then p (octetOf c) else common := by
  have each : ∀ c : Char, (String.utf8EncodeChar c).all p = if c.val < 0x80 then p (octetOf c) else common := by
    intro c
    split
    · rename_i ascii
      rw [utf8EncodeChar_of_ascii ascii, List.all_cons, List.all_nil, Bool.and_true]
    · rename_i large
      have same : ∀ octet ∈ String.utf8EncodeChar c, p octet = common :=
        fun octet member => beyond octet (utf8EncodeChar_beyond large octet member)
      cases common with
      | true => exact List.all_eq_true.mpr same
      | false =>
        obtain ⟨first, rest, octets⟩ := List.exists_cons_of_ne_nil (String.utf8EncodeChar_ne_nil (c := c))
        rw [octets, List.all_cons, same first (octets ▸ List.mem_cons_self), Bool.false_and]
  rw [encode_eq, List.all_flatMap]
  exact congrArg text.toList.all (funext each)

theorem encode_ofList_ascii {cs : List Char} (ascii : ∀ c ∈ cs, c.val < 0x80) :
    encode (String.ofList cs) = cs.map octetOf := by
  rw [encode_ofList]
  induction cs with
  | nil => rfl
  | cons c cs ih =>
    rw [List.flatMap_cons, utf8EncodeChar_of_ascii (ascii c List.mem_cons_self),
      ih fun other member => ascii other (List.mem_cons_of_mem _ member)]
    rfl

theorem encode_toList_ascii {text : String} (ascii : ∀ c ∈ text.toList, c.val < 0x80) :
    encode text = text.toList.map octetOf := by
  rw [← encode_ofList_ascii ascii, String.ofList_toList]

theorem val_ofUInt8 (octet : UInt8) : (Char.ofUInt8 octet).val = octet.toUInt32 := rfl

theorem ofUInt8_octetOf {c : Char} (ascii : c.val < 0x80) : Char.ofUInt8 (octetOf c) = c := by
  rw [UInt32.lt_iff_toNat_lt] at ascii
  change c.val.toNat < 128 at ascii
  apply Char.ext
  rw [val_ofUInt8, octetOf, ← UInt32.toNat_inj, UInt8.toNat_toUInt32, UInt32.toNat_toUInt8]
  exact Nat.mod_eq_of_lt (by omega)

theorem octetOf_ne {c d : Char} (ascii : c.val < 0x80) (ascii' : d.val < 0x80) (different : c ≠ d) :
    octetOf c ≠ octetOf d := by
  intro same
  have read := congrArg Char.ofUInt8 same
  rw [ofUInt8_octetOf ascii, ofUInt8_octetOf ascii'] at read
  exact different read

theorem octetOf_lt {c : Char} (ascii : c.val < 0x80) : octetOf c < 0x80 := by
  rw [UInt32.lt_iff_toNat_lt] at ascii
  change c.val.toNat < 128 at ascii
  rw [octetOf, UInt8.lt_iff_toNat_lt, UInt32.toNat_toUInt8]
  change c.val.toNat % 256 < 128
  omega

theorem eq_ofUInt8 {c : Char} (ascii : c.val < 0x80) : ∃ octet : UInt8, octet < 0x80 ∧ c = Char.ofUInt8 octet :=
  ⟨octetOf c, octetOf_lt ascii, (ofUInt8_octetOf ascii).symm⟩

theorem octetOf_mem_encode_iff {c : Char} (ascii : c.val < 0x80) {text : String} :
    octetOf c ∈ encode text ↔ c ∈ text.toList := by
  rw [encode_eq, List.mem_flatMap]
  constructor
  · rintro ⟨d, member, octet⟩
    by_cases plain : d.val < 0x80
    · rw [utf8EncodeChar_of_ascii plain, List.mem_singleton] at octet
      have same : c = d := Decidable.byContradiction fun different => octetOf_ne ascii plain different octet
      exact same ▸ member
    · have large := utf8EncodeChar_beyond plain _ octet
      exact absurd (octetOf_lt ascii) (UInt8.not_lt.mpr large)
  · intro member
    exact ⟨c, member, by rw [utf8EncodeChar_of_ascii ascii]; exact List.mem_singleton_self _⟩

theorem encode_ascii {octets : Octets} (ascii : ∀ octet ∈ octets, octet < 0x80) :
    encode (Text.ascii octets) = octets := by
  rw [Text.ascii, encode_ofList_ascii]
  · rw [List.map_map]
    apply List.map_id''
    intro octet
    simp [octetOf, val_ofUInt8]
  · intro c member
    obtain ⟨octet, held, rfl⟩ := List.mem_map.mp member
    have small := ascii octet held
    rw [UInt8.lt_iff_toNat_lt] at small
    rw [val_ofUInt8, UInt32.lt_iff_toNat_lt, UInt8.toNat_toUInt32]
    exact small

end Text

end LoginGateway
