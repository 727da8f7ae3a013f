import LoginGateway.Encoding.Percent
import LoginGateway.Proofs.Text.Pieces

namespace LoginGateway.Percent

def Lawful (keep : Char → Bool) : Prop := ∀ c, keep c = true → c.val < 0x80 ∧ c ≠ '%' ∧ c ≠ '+'

variable {keep : Char → Bool}

theorem isAlphanumeric_ascii {c : Char} (plain : isAlphanumeric c = true) : c.val < 0x80 := by
  have ranges : ((decide (c.val ≥ 0x41 ∧ c.val ≤ 0x5A) || (c.val ≥ 0x61 && c.val ≤ 0x7A)) ||
      (c.val ≥ 0x30 && c.val ≤ 0x39)) = true := plain
  simp only [Bool.or_eq_true, Bool.and_eq_true, decide_eq_true_eq, ge_iff_le, UInt32.le_iff_toNat_le] at ranges
  rw [UInt32.lt_iff_toNat_lt]
  change ((65 ≤ c.val.toNat ∧ c.val.toNat ≤ 90) ∨ (97 ≤ c.val.toNat ∧ c.val.toNat ≤ 122)) ∨
    (48 ≤ c.val.toNat ∧ c.val.toNat ≤ 57) at ranges
  change c.val.toNat < 128
  omega

theorem isUnreserved_ascii {c : Char} (plain : isUnreserved c = true) : c.val < 0x80 := by
  simp only [isUnreserved, Bool.or_eq_true, beq_iff_eq] at plain
  rcases plain with (((plain | rfl) | rfl) | rfl) | rfl
  · exact isAlphanumeric_ascii plain
  all_goals decide

theorem isUnreserved_lawful : Lawful isUnreserved := by
  intro c plain
  have read : ∀ octet : UInt8, octet < 0x80 → isUnreserved (Char.ofUInt8 octet) = true →
      Char.ofUInt8 octet ≠ '%' ∧ Char.ofUInt8 octet ≠ '+' := forall_octet (by decide)
  obtain ⟨octet, small, rfl⟩ := Text.eq_ofUInt8 (isUnreserved_ascii plain)
  exact ⟨isUnreserved_ascii plain, read octet small plain⟩

theorem hexDigit_alphanumeric (octet : UInt8) :
    isAlphanumeric (hexDigit (octet >>> 4)) = true ∧ isAlphanumeric (hexDigit (octet &&& 0x0F)) = true := by
  have each : ∀ octet : UInt8,
      isAlphanumeric (hexDigit (octet >>> 4)) = true ∧ isAlphanumeric (hexDigit (octet &&& 0x0F)) = true :=
    forall_octet (by decide +kernel)
  exact each octet

theorem mem_escapeUnless {c written : Char} (member : written ∈ escapeUnless keep c) :
    keep written = true ∨ written = '%' ∨ isAlphanumeric written = true := by
  unfold escapeUnless at member
  split at member
  · rename_i kept
    rw [List.mem_singleton.mp member]
    exact .inl kept
  · obtain ⟨octet, -, member⟩ := List.mem_flatMap.mp member
    obtain ⟨high, low⟩ := hexDigit_alphanumeric octet
    simp only [escapeOctet, List.mem_cons, List.not_mem_nil, or_false] at member
    rcases member with rfl | rfl | rfl
    · exact .inr (.inl rfl)
    · exact .inr (.inr high)
    · exact .inr (.inr low)

theorem mem_encode {text : String} {written : Char} (member : written ∈ (encode keep text).toList) :
    keep written = true ∨ written = '%' ∨ isAlphanumeric written = true := by
  rw [encode, String.toList_ofList] at member
  obtain ⟨c, -, member⟩ := List.mem_flatMap.mp member
  exact mem_escapeUnless member

theorem encode_ascii (lawful : Lawful keep) (text : String) : ∀ c ∈ (encode keep text).toList, c.val < 0x80 := by
  intro c member
  rcases mem_encode member with kept | rfl | plain
  · exact (lawful c kept).1
  · decide
  · exact isAlphanumeric_ascii plain

theorem encode_octets (lawful : Lawful keep) (text : String) :
    Text.encode (encode keep text) = (encode keep text).toList.map Text.octetOf :=
  Text.encode_toList_ascii (encode_ascii lawful text)

theorem not_mem_encode (lawful : Lawful keep) {d : Char} (ascii : d.val < 0x80) (unkept : keep d = false)
    (escaped : d ≠ '%') (unwritten : isAlphanumeric d = false) (text : String) :
    Text.octetOf d ∉ Text.encode (encode keep text) := by
  intro member
  rw [encode_octets lawful] at member
  obtain ⟨c, written, same⟩ := List.mem_map.mp member
  have different : c ≠ d := by
    rintro rfl
    rcases mem_encode written with kept | rfl | plain
    · rw [unkept] at kept
      cases kept
    · exact escaped rfl
    · rw [unwritten] at plain
      cases plain
  exact Text.octetOf_ne (encode_ascii lawful text c written) ascii different same

theorem encode_kept {text : String} (kept : text.toList.all keep = true) : encode keep text = text := by
  have each : ∀ c ∈ text.toList, escapeUnless keep c = [c] := by
    intro c member
    exact if_pos (List.all_eq_true.mp kept c member)
  have whole : text.toList.flatMap (escapeUnless keep) = text.toList.flatMap fun c => [c] :=
    List.flatMap_congr each
  rw [encode, whole, List.flatMap_singleton', String.ofList_toList]

theorem decodeOctets_cons {octet : UInt8} (literal : octet ≠ 0x25) (rest : Octets) :
    decodeOctets (octet :: rest) = octet :: decodeOctets rest := by
  rw [decodeOctets]
  intro high low others same
  exact absurd same literal

theorem decodeOctets_escapeOctet (octet : UInt8) (rest : Octets) :
    decodeOctets ((escapeOctet octet).map Text.octetOf ++ rest) = octet :: decodeOctets rest := by
  have digits : ∀ octet : UInt8, hexValue? (Text.octetOf (hexDigit (octet >>> 4))) = some (octet >>> 4) ∧
      hexValue? (Text.octetOf (hexDigit (octet &&& 0x0F))) = some (octet &&& 0x0F) ∧
      octet >>> 4 <<< 4 ||| octet &&& 0x0F = octet := forall_octet (by decide +kernel)
  obtain ⟨high, low, whole⟩ := digits octet
  have escape : (escapeOctet octet).map Text.octetOf ++ rest =
      0x25 :: Text.octetOf (hexDigit (octet >>> 4)) :: Text.octetOf (hexDigit (octet &&& 0x0F)) :: rest := rfl
  rw [escape, decodeOctets, high, low]
  dsimp only
  rw [whole]

theorem decodeOctets_escapes (octets rest : Octets) :
    decodeOctets ((octets.flatMap escapeOctet).map Text.octetOf ++ rest) = octets ++ decodeOctets rest := by
  induction octets with
  | nil => rfl
  | cons octet octets ih =>
    rw [List.flatMap_cons, List.map_append, List.append_assoc, decodeOctets_escapeOctet, ih, List.cons_append]

theorem decodeOctets_escapeUnless (lawful : Lawful keep) (c : Char) (rest : Octets) :
    decodeOctets ((escapeUnless keep c).map Text.octetOf ++ rest) = String.utf8EncodeChar c ++ decodeOctets rest := by
  unfold escapeUnless
  split
  · rename_i kept
    obtain ⟨ascii, unlike, -⟩ := lawful c kept
    have literal : Text.octetOf c ≠ 0x25 := Text.octetOf_ne ascii (by decide) unlike
    rw [List.map_singleton, List.singleton_append, decodeOctets_cons literal, Text.utf8EncodeChar_of_ascii ascii,
      List.singleton_append]
  · have octets : Text.encode (String.singleton c) = String.utf8EncodeChar c := by simp [Text.encode_eq]
    rw [octets, decodeOctets_escapes]

theorem decodeOctets_encode (lawful : Lawful keep) (text : String) :
    decodeOctets (Text.encode (encode keep text)) = Text.encode text := by
  have each : ∀ cs : List Char, decodeOctets (cs.flatMap fun c => (escapeUnless keep c).map Text.octetOf) =
      cs.flatMap String.utf8EncodeChar := by
    intro cs
    induction cs with
    | nil => rfl
    | cons c cs ih => rw [List.flatMap_cons, decodeOctets_escapeUnless lawful, ih, List.flatMap_cons]
  rw [encode_octets lawful, encode, String.toList_ofList, List.map_flatMap, each, Text.encode_eq]

end LoginGateway.Percent

namespace LoginGateway.Form

open Percent (Lawful isUnreserved)

variable {keep : Char → Bool}

theorem decodeText_encode (lawful : Lawful keep) (text : String) :
    decodeText (Text.encode (Percent.encode keep text)) = text := by
  have unspaced : (Text.encode (Percent.encode keep text)).map (fun octet => if octet == 0x2B then 0x20 else octet) =
      Text.encode (Percent.encode keep text) := by
    have unkept : keep '+' = false := by
      rw [← Bool.not_eq_true]
      exact fun kept => (lawful '+' kept).2.2 rfl
    have absent : (0x2B : UInt8) ∉ Text.encode (Percent.encode keep text) :=
      Percent.not_mem_encode lawful (d := '+') (by decide) unkept (by decide) (by decide) text
    rw [List.map_congr_left (g := id), List.map_id]
    intro octet member
    have different : octet ≠ 0x2B := fun same => absent (same ▸ member)
    exact if_neg (by simpa using different)
  rw [decodeText, unspaced, Percent.decodeOctets_encode lawful, Text.decodeLossy_encode]

theorem decode_append (front back : Octets) : decode (front ++ 0x26 :: back) = decode front ++ decode back := by
  have pieces : Text.split (· == 0x26) (front ++ 0x26 :: back) =
      Text.split (· == 0x26) front ++ Text.split (· == 0x26) back := Text.split_append_cons (by decide) front back
  rw [decode, pieces, List.filterMap_append]
  rfl

theorem decode_pair {name value : Octets} (nameless : (0x3D : UInt8) ∉ name) (single : (0x26 : UInt8) ∉ name)
    (single' : (0x26 : UInt8) ∉ value) : decode (name ++ 0x3D :: value) = [(decodeText name, decodeText value)] := by
  have whole : (0x26 : UInt8) ∉ name ++ 0x3D :: value := by simp [single, single']
  have there : (name ++ 0x3D :: value).isEmpty = false := by simp
  have equals : ((0x3D : UInt8) == 0x3D) = true := by decide
  rw [decode, Text.split_whole (Text.beq_of_not_mem whole), List.filterMap_cons, there, decodePair,
    Text.cut_append (Text.beq_of_not_mem nameless) equals]
  rfl

def urlPair (pair : String × String) : String :=
  Percent.encode isUnreserved pair.1 ++ "=" ++ Percent.encode isUnreserved pair.2

theorem decode_urlPair (pair : String × String) : decode (Text.encode (urlPair pair)) = [pair] := by
  obtain ⟨name, value⟩ := pair
  have lawful := Percent.isUnreserved_lawful
  have equals : ∀ text, (0x3D : UInt8) ∉ Text.encode (Percent.encode isUnreserved text) :=
    Percent.not_mem_encode lawful (d := '=') (by decide) (by decide) (by decide) (by decide)
  have joins : ∀ text, (0x26 : UInt8) ∉ Text.encode (Percent.encode isUnreserved text) :=
    Percent.not_mem_encode lawful (d := '&') (by decide) (by decide) (by decide) (by decide)
  have octets : Text.encode (urlPair (name, value)) =
      Text.encode (Percent.encode isUnreserved name) ++ 0x3D :: Text.encode (Percent.encode isUnreserved value) := by
    rw [urlPair, Text.encode_append, Text.encode_append, List.append_assoc]
    rfl
  rw [octets, decode_pair (equals name) (joins name) (joins value), decodeText_encode lawful, decodeText_encode lawful]

def urlQuery (pairs : List (String × String)) : String := "&".intercalate (pairs.map urlPair)

theorem mem_urlPair {pair : String × String} {c : Char} (member : c ∈ (urlPair pair).toList) :
    isUnreserved c = true ∨ c = '%' ∨ c = '=' := by
  have encoded : ∀ text, c ∈ (Percent.encode isUnreserved text).toList → isUnreserved c = true ∨ c = '%' := by
    intro text written
    rcases Percent.mem_encode written with kept | escape | plain
    · exact .inl kept
    · exact .inr escape
    · exact .inl (by simp [isUnreserved, plain])
  rw [urlPair, String.toList_append, String.toList_append] at member
  rcases List.mem_append.mp member with member | member
  · rcases List.mem_append.mp member with member | member
    · exact (encoded _ member).imp id .inl
    · exact .inr (.inr (by simpa using member))
  · exact (encoded _ member).imp id .inl

theorem mem_urlQuery {pairs : List (String × String)} {c : Char} (member : c ∈ (urlQuery pairs).toList) :
    isUnreserved c = true ∨ c = '%' ∨ c = '=' ∨ c = '&' := by
  rw [urlQuery] at member
  induction pairs with
  | nil => cases member
  | cons pair others ih =>
    cases others with
    | nil =>
      rw [List.map_cons, List.map_nil, String.intercalate_singleton] at member
      exact (mem_urlPair member).imp id (Or.imp id .inl)
    | cons next rest =>
      rw [List.map_cons, List.map_cons, String.intercalate_cons_cons, String.toList_append, String.toList_append]
        at member
      rcases List.mem_append.mp member with member | member
      · rcases List.mem_append.mp member with member | member
        · exact (mem_urlPair member).imp id (Or.imp id .inl)
        · exact .inr (.inr (.inr (by simpa using member)))
      · exact ih member

theorem decode_urlQuery (pairs : List (String × String)) : decode (Text.encode (urlQuery pairs)) = pairs := by
  rw [urlQuery]
  induction pairs with
  | nil => rfl
  | cons pair others ih =>
    cases others with
    | nil => rw [List.map_cons, List.map_nil, String.intercalate_singleton, decode_urlPair]
    | cons next rest =>
      have octets : Text.encode ("&".intercalate ((pair :: next :: rest).map urlPair)) =
          Text.encode (urlPair pair) ++ 0x26 :: Text.encode ("&".intercalate ((next :: rest).map urlPair)) := by
        rw [List.map_cons, List.map_cons, String.intercalate_cons_cons, Text.encode_append, Text.encode_append,
          List.append_assoc]
        rfl
      rw [octets, decode_append, decode_urlPair, ih, List.singleton_append]

end LoginGateway.Form
