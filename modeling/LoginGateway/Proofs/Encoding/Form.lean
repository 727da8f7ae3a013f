import LoginGateway.Proofs.Encoding.Percent

namespace LoginGateway.Form

open Percent (Lawful)

theorem isPlain_ascii {c : Char} (plain : isPlain c = true) : c.val < 0x80 := by
  simp only [isPlain, Bool.or_eq_true, beq_iff_eq] at plain
  rcases plain with (((plain | rfl) | rfl) | rfl) | rfl
  · exact Percent.isAlphanumeric_ascii plain
  all_goals decide

theorem isPlain_lawful : Lawful isPlain := by
  intro c plain
  have read : ∀ octet : UInt8, octet < 0x80 → isPlain (Char.ofUInt8 octet) = true →
      Char.ofUInt8 octet ≠ '%' ∧ Char.ofUInt8 octet ≠ '+' := forall_octet (by decide)
  obtain ⟨octet, small, rfl⟩ := Text.eq_ofUInt8 (isPlain_ascii plain)
  exact ⟨isPlain_ascii plain, read octet small plain⟩

theorem mem_escape {c written : Char} (member : written ∈ Percent.escapeUnless isPlain c) :
    isPlain written = true ∨ written = '%' := by
  rcases Percent.mem_escapeUnless member with kept | escape | plain
  · exact .inl kept
  · exact .inr escape
  · exact .inl (by simp [isPlain, plain])

theorem mem_encodeChar {c written : Char} (member : written ∈ encodeChar c) :
    written = '+' ∨ isPlain written = true ∨ written = '%' := by
  unfold encodeChar at member
  split at member
  · exact .inl (List.mem_singleton.mp member)
  · exact .inr (mem_escape member)

theorem mem_encodeText {text : String} {written : Char} (member : written ∈ encodeText text) :
    written = '+' ∨ isPlain written = true ∨ written = '%' := by
  obtain ⟨c, -, member⟩ := List.mem_flatMap.mp member
  exact mem_encodeChar member

theorem encodeText_ascii (text : String) : ∀ c ∈ encodeText text, c.val < 0x80 := by
  intro c member
  rcases mem_encodeText member with rfl | plain | rfl
  · decide
  · exact isPlain_ascii plain
  · decide

theorem not_mem_encodeText {d : Char} (ascii : d.val < 0x80) (special : isPlain d = false) (written : d ≠ '+')
    (escape : d ≠ '%') (text : String) : Text.octetOf d ∉ (encodeText text).map Text.octetOf := by
  intro member
  obtain ⟨c, encoded, same⟩ := List.mem_map.mp member
  have different : c ≠ d := by
    rintro rfl
    rcases mem_encodeText encoded with plus | plain | percent
    · exact written plus
    · rw [special] at plain
      cases plain
    · exact escape percent
  exact Text.octetOf_ne (encodeText_ascii text c encoded) ascii different same

/-- Plus signs are read as spaces before escapes are. -/
def unplus (octet : UInt8) : UInt8 := if octet == 0x2B then 0x20 else octet

theorem decodeOctets_encodeChar (c : Char) (rest : Octets) :
    Percent.decodeOctets (((encodeChar c).map Text.octetOf).map unplus ++ rest) =
      String.utf8EncodeChar c ++ Percent.decodeOctets rest := by
  unfold encodeChar
  split
  · rename_i space
    subst space
    exact Percent.decodeOctets_cons (by decide) rest
  · have unplussed : ((Percent.escapeUnless isPlain c).map Text.octetOf).map unplus =
        (Percent.escapeUnless isPlain c).map Text.octetOf := by
      refine (List.map_congr_left fun octet member => ?_).trans (List.map_id _)
      obtain ⟨written, escaped, rfl⟩ := List.mem_map.mp member
      have different : Text.octetOf written ≠ 0x2B := by
        rcases mem_escape escaped with plain | rfl
        · obtain ⟨ascii, -, unlike⟩ := isPlain_lawful written plain
          exact Text.octetOf_ne ascii (by decide) unlike
        · decide
      exact if_neg (by simpa using different)
    rw [unplussed, Percent.decodeOctets_escapeUnless isPlain_lawful]

theorem decodeText_encodeText (text : String) : decodeText ((encodeText text).map Text.octetOf) = text := by
  have each : ∀ cs : List Char,
      Percent.decodeOctets (((cs.flatMap encodeChar).map Text.octetOf).map unplus) = cs.flatMap String.utf8EncodeChar := by
    intro cs
    induction cs with
    | nil => rfl
    | cons c cs ih =>
      rw [List.flatMap_cons, List.map_append, List.map_append, decodeOctets_encodeChar, ih, List.flatMap_cons]
  have octets : Percent.decodeOctets (((encodeText text).map Text.octetOf).map unplus) = Text.encode text := by
    rw [encodeText, each, Text.encode_eq]
  show Text.decodeLossy (Percent.decodeOctets (((encodeText text).map Text.octetOf).map unplus)) = text
  rw [octets, Text.decodeLossy_encode]

def formPair (pair : String × String) : List Char := encodeText pair.1 ++ '=' :: encodeText pair.2

theorem formPair_ascii (pair : String × String) : ∀ c ∈ formPair pair, c.val < 0x80 := by
  intro c member
  rcases List.mem_append.mp member with member | member
  · exact encodeText_ascii _ c member
  · rcases List.mem_cons.mp member with rfl | member
    · decide
    · exact encodeText_ascii _ c member

theorem decode_formPair (pair : String × String) : decode ((formPair pair).map Text.octetOf) = [pair] := by
  obtain ⟨name, value⟩ := pair
  have equals : ∀ text, (0x3D : UInt8) ∉ (encodeText text).map Text.octetOf :=
    not_mem_encodeText (d := '=') (by decide) (by decide) (by decide) (by decide)
  have joins : ∀ text, (0x26 : UInt8) ∉ (encodeText text).map Text.octetOf :=
    not_mem_encodeText (d := '&') (by decide) (by decide) (by decide) (by decide)
  have octets : (formPair (name, value)).map Text.octetOf =
      (encodeText name).map Text.octetOf ++ 0x3D :: (encodeText value).map Text.octetOf := by
    rw [formPair, List.map_append, List.map_cons]
    rfl
  rw [octets, decode_pair (equals name) (joins name) (joins value), decodeText_encodeText, decodeText_encodeText]

theorem encode_octets (pairs : List (String × String)) :
    Text.encode (encode pairs) = (['&'].intercalate (pairs.map formPair)).map Text.octetOf := by
  have ascii : ∀ c ∈ ['&'].intercalate (pairs.map formPair), c.val < 0x80 := by
    induction pairs with
    | nil => simp [List.intercalate]
    | cons pair others ih =>
      cases others with
      | nil =>
        rw [List.map_cons, List.map_nil, List.intercalate_singleton]
        exact formPair_ascii pair
      | cons next rest =>
        intro c member
        rw [List.map_cons, List.map_cons, List.intercalate_cons_cons] at member
        rcases List.mem_append.mp member with member | member
        · rcases List.mem_append.mp member with member | member
          · exact formPair_ascii pair c member
          · rw [List.mem_singleton.mp member]
            decide
        · exact ih c member
  exact Text.encode_ofList_ascii ascii

theorem decode_encode (pairs : List (String × String)) : decode (Text.encode (encode pairs)) = pairs := by
  rw [encode_octets]
  induction pairs with
  | nil => rfl
  | cons pair others ih =>
    cases others with
    | nil => rw [List.map_cons, List.map_nil, List.intercalate_singleton, decode_formPair]
    | cons next rest =>
      have octets : (['&'].intercalate ((pair :: next :: rest).map formPair)).map Text.octetOf =
          (formPair pair).map Text.octetOf ++
            0x26 :: (['&'].intercalate ((next :: rest).map formPair)).map Text.octetOf := by
        rw [List.map_cons, List.map_cons, List.intercalate_cons_cons, List.map_append, List.map_append,
          List.append_assoc]
        rfl
      rw [octets, decode_append, decode_formPair, ih, List.singleton_append]

end LoginGateway.Form
