import LoginGateway.Encoding.Base64
import LoginGateway.Proofs.Text.Octets
import Mathlib.Data.List.TakeWhile

namespace LoginGateway.Base64

structure Form.Lawful (form : Form) : Prop where
  bits : ∀ bits, form.bits? (form.letter bits) = some (bits &&& 0x3F)
  unpadded : ∀ bits, form.letter bits ≠ pad

theorem urlSafe_lawful : urlSafe.Lawful where
  bits := forall_octet (by decide)
  unpadded := forall_octet (by decide)

theorem standard_lawful : standard.Lawful where
  bits := forall_octet (by decide)
  unpadded := forall_octet (by decide)

theorem sextets_append : ∀ (done : List UInt8) (octets : Octets), sextets done octets = sextets [] octets ++ done
  | _, [] => rfl
  | _, [_] => rfl
  | _, [_, _] => rfl
  | done, a :: b :: c :: rest => by
    rw [sextets, sextets_append _ rest, sextets, sextets_append [_, _, _, _] rest]
    simp

def groups (octets : Octets) : List UInt8 := (sextets [] octets).reverse

theorem groups_three (a b c : UInt8) (rest : Octets) :
    groups (a :: b :: c :: rest) =
      (a >>> 2) :: (lowTwo a ||| (b >>> 4)) :: (lowFour b ||| (c >>> 6)) :: (c &&& 0x3F) :: groups rest := by
  rw [groups, sextets, sextets_append, groups]
  simp

theorem first_octet (octet : UInt8) : (octet >>> 2) <<< 2 ||| lowTwo octet >>> 4 = octet := by
  revert octet
  exact forall_octet (by decide)

theorem middle_octet (octet : UInt8) : (octet >>> 4) <<< 4 ||| lowFour octet >>> 2 = octet := by
  revert octet
  exact forall_octet (by decide)

theorem last_octet (octet : UInt8) : (octet >>> 6) <<< 6 ||| (octet &&& 0x3F) = octet := by
  revert octet
  exact forall_octet (by decide)

theorem apart (octet : UInt8) : (octet >>> 4) >>> 4 = 0 ∧ lowTwo octet <<< 4 = 0 ∧ (octet >>> 6) >>> 2 = 0 ∧
    lowFour octet <<< 6 = 0 ∧ lowTwo octet &&& 0x0F = 0 ∧ lowFour octet &&& 0x03 = 0 := by
  revert octet
  exact forall_octet (by decide)

theorem octets?_groups : ∀ (done octets : Octets), octets? done (groups octets) = some (octets.reverse ++ done)
  | done, [] => rfl
  | done, [a] => by
    have ⟨_, _, _, _, clear, _⟩ := apart a
    simp [groups, sextets, octets?, clear, first_octet]
  | done, [a, b] => by
    have ⟨_, leftA, _, _, _, _⟩ := apart a
    have ⟨rightB, _, _, _, _, clear⟩ := apart b
    simp [groups, sextets, octets?, UInt8.shiftRight_or, UInt8.shiftLeft_or, leftA, rightB, clear, first_octet,
      middle_octet]
  | done, a :: b :: c :: rest => by
    have ⟨_, leftA, _, _, _, _⟩ := apart a
    have ⟨rightB, _, _, leftB, _, _⟩ := apart b
    have ⟨_, _, rightC, _, _, _⟩ := apart c
    rw [groups_three, octets?, octets?_groups _ rest]
    simp [UInt8.shiftRight_or, UInt8.shiftLeft_or, leftA, rightB, leftB, rightC, first_octet, middle_octet,
      last_octet]

theorem or_narrow {left right : UInt8} (narrowLeft : left < 0x40) (narrowRight : right < 0x40) :
    left ||| right < 0x40 := by
  rw [UInt8.lt_iff_toNat_lt] at narrowLeft narrowRight ⊢
  rw [UInt8.toNat_or]
  have whole : (0x40 : UInt8).toNat = 2 ^ 6 := rfl
  rw [whole] at narrowLeft narrowRight ⊢
  exact Nat.or_lt_two_pow narrowLeft narrowRight

theorem and_of_narrow (bits : UInt8) : bits < 0x40 → bits &&& 0x3F = bits := by
  revert bits
  exact forall_octet (by decide)

theorem narrow_parts (octet : UInt8) : octet >>> 2 < 0x40 ∧ lowTwo octet < 0x40 ∧ octet >>> 4 < 0x40 ∧
    lowFour octet < 0x40 ∧ octet >>> 6 < 0x40 ∧ octet &&& 0x3F < 0x40 := by
  revert octet
  exact forall_octet (by decide)

theorem groups_narrow : ∀ (octets : Octets), ∀ bits ∈ groups octets, bits < 0x40
  | [] => by simp [groups, sextets]
  | [a] => by
    have ⟨front, low, _⟩ := narrow_parts a
    simp [groups, sextets, front, low]
  | [a, b] => by
    have ⟨front, low, _⟩ := narrow_parts a
    have ⟨_, _, high, last, _⟩ := narrow_parts b
    simp [groups, sextets, front, or_narrow low high, last]
  | a :: b :: c :: rest => by
    have ⟨front, lowA, _⟩ := narrow_parts a
    have ⟨_, _, highB, lowB, _⟩ := narrow_parts b
    have ⟨_, _, _, _, highC, lowC⟩ := narrow_parts c
    rw [groups_three]
    simp only [List.forall_mem_cons]
    exact ⟨front, or_narrow lowA highB, or_narrow lowB highC, lowC, groups_narrow rest⟩

theorem or_and_right (left right mask : UInt8) : (left ||| right) &&& mask = (left &&& mask) ||| (right &&& mask) := by
  apply UInt8.toBitVec_inj.mp
  simp [BitVec.and_or_distrib_right]

theorem lowTwo_or (left right : UInt8) : lowTwo (left ||| right) = lowTwo left ||| lowTwo right := by
  rw [lowTwo, UInt8.shiftLeft_or, or_and_right, lowTwo, lowTwo]

theorem lowFour_or (left right : UInt8) : lowFour (left ||| right) = lowFour left ||| lowFour right := by
  rw [lowFour, UInt8.shiftLeft_or, or_and_right, lowFour, lowFour]

theorem regrouped (bits : UInt8) : bits < 0x40 →
    (bits <<< 2) >>> 2 = bits ∧ (bits >>> 4) >>> 2 = 0 ∧ lowTwo (bits <<< 2) = 0 ∧
    lowTwo (bits >>> 4) ||| (bits <<< 4) >>> 4 = bits ∧ (bits >>> 2) >>> 4 = 0 ∧ lowFour (bits <<< 4) = 0 ∧
    lowFour (bits >>> 2) ||| (bits <<< 6) >>> 6 = bits ∧ bits >>> 6 = 0 ∧ (bits <<< 6) &&& 0x3F = 0 ∧
    (bits &&& 0x0F = 0 → lowTwo (bits >>> 4) = bits) ∧ (bits &&& 0x03 = 0 → lowFour (bits >>> 2) = bits) := by
  revert bits
  exact forall_octet (by decide)

theorem groups_of_octets? : ∀ {done octets : Octets} {bits : List UInt8}, (∀ item ∈ bits, item < 0x40) →
    octets? done bits = some octets → ∃ read : Octets, octets = read.reverse ++ done ∧ groups read = bits
  | done, octets, [], _, read => ⟨[], (Option.some.inj read).symm, rfl⟩
  | _, _, [_], _, read => by cases read
  | done, octets, [p, q], narrow, read => by
    simp only [List.forall_mem_cons] at narrow
    have ⟨frontP, _, lowP, _⟩ := regrouped p narrow.1
    have ⟨_, highQ, _, _, _, _, _, _, _, lastQ, _⟩ := regrouped q narrow.2.1
    rw [octets?] at read
    split at read
    · rename_i unused
      refine ⟨[p <<< 2 ||| q >>> 4], (Option.some.inj read).symm, ?_⟩
      simp [groups, sextets, UInt8.shiftRight_or, lowTwo_or, frontP, highQ, lowP, lastQ (eq_of_beq unused)]
    · cases read
  | done, octets, [p, q, r], narrow, read => by
    simp only [List.forall_mem_cons] at narrow
    have ⟨frontP, _, lowP, _⟩ := regrouped p narrow.1
    have ⟨_, highQ, _, wholeQ, _, lowQ, _⟩ := regrouped q narrow.2.1
    have ⟨_, _, _, _, highR, _, _, _, _, _, lastR⟩ := regrouped r narrow.2.2.1
    rw [octets?] at read
    split at read
    · rename_i unused
      refine ⟨[p <<< 2 ||| q >>> 4, q <<< 4 ||| r >>> 2], (Option.some.inj read).symm, ?_⟩
      simp [groups, sextets, UInt8.shiftRight_or, lowTwo_or, lowFour_or, frontP, highQ, lowP, wholeQ, highR, lowQ,
        lastR (eq_of_beq unused)]
    · cases read
  | done, octets, p :: q :: r :: s :: rest, narrow, read => by
    simp only [List.forall_mem_cons] at narrow
    have ⟨frontP, _, lowP, _⟩ := regrouped p narrow.1
    have ⟨_, highQ, _, wholeQ, _, lowQ, _⟩ := regrouped q narrow.2.1
    have ⟨_, _, _, _, highR, _, wholeR, _, lowR, _, _⟩ := regrouped r narrow.2.2.1
    have ⟨_, _, _, _, _, _, _, highS, _, _, _⟩ := regrouped s narrow.2.2.2.1
    rw [octets?] at read
    obtain ⟨others, rfl, regroup⟩ := groups_of_octets? narrow.2.2.2.2 read
    refine ⟨(p <<< 2 ||| q >>> 4) :: (q <<< 4 ||| r >>> 2) :: (r <<< 6 ||| s) :: others, by simp, ?_⟩
    rw [groups_three, regroup]
    simp [UInt8.shiftRight_or, lowTwo_or, lowFour_or, or_and_right, frontP, highQ, lowP, wholeQ, highR, lowQ, wholeR,
      lowR, highS, and_of_narrow s narrow.2.2.2.1]

theorem encode_eq (form : Form) (octets : Octets) :
    encode form octets = (groups octets).map form.letter ++ form.padding (groups octets).length := by
  rw [encode, groups, List.length_map]

theorem standard_ascii (octets : Octets) : ∀ octet ∈ encode standard octets, octet < 0x80 := by
  have letters : ∀ bits, standard.letter bits < 0x80 := forall_octet (by decide)
  intro octet member
  rw [encode_eq] at member
  rcases List.mem_append.mp member with member | member
  · obtain ⟨bits, -, rfl⟩ := List.mem_map.mp member
    exact letters bits
  · rw [List.eq_of_mem_replicate member]
    decide

theorem mapM_bits {form : Form} (lawful : form.Lawful) {bits : List UInt8} (narrow : ∀ item ∈ bits, item < 0x40) :
    (bits.map form.letter).mapM form.bits? = some bits := by
  induction bits with
  | nil => rfl
  | cons first rest ih =>
    have ⟨narrowFirst, others⟩ := List.forall_mem_cons.mp narrow
    rw [List.map_cons, List.mapM_cons, lawful.bits, and_of_narrow first narrowFirst, ih others]
    rfl

theorem letters_of_encode {form : Form} (lawful : form.Lawful) (octets : Octets) :
    (encode form octets).takeWhile (· != pad) = (groups octets).map form.letter ∧
      (encode form octets).dropWhile (· != pad) = form.padding (groups octets).length := by
  have letters : ∀ letter ∈ (groups octets).map form.letter, (letter != pad) = true := by
    intro letter member
    obtain ⟨bits, -, rfl⟩ := List.mem_map.mp member
    exact bne_iff_ne.mpr (lawful.unpadded bits)
  have padding : (form.padding (groups octets).length).takeWhile (· != pad) = [] ∧
      (form.padding (groups octets).length).dropWhile (· != pad) = form.padding (groups octets).length := by
    unfold Form.padding
    split
    · cases (4 - (groups octets).length % 4) % 4 <;> simp [List.replicate_succ]
    · exact ⟨rfl, rfl⟩
  rw [encode_eq, List.takeWhile_append_of_pos letters, List.dropWhile_append_of_pos letters, padding.1, padding.2,
    List.append_nil]
  exact ⟨rfl, rfl⟩

theorem decode?_encode {form : Form} (lawful : form.Lawful) (octets : Octets) :
    decode? form (encode form octets) = some octets := by
  have ⟨letters, padding⟩ := letters_of_encode lawful octets
  rw [decode?, letters, padding, List.length_map, if_pos rfl, mapM_bits lawful (groups_narrow octets)]
  simp [octets?_groups]

theorem letter_of_bits? {form : Form} {letter bits : UInt8} (read : form.bits? letter = some bits) :
    bits < 0x40 ∧ form.letter bits = letter := by
  have upper : ∀ letter : UInt8, 0x41 ≤ letter ∧ letter ≤ 0x5A →
      letter - 0x41 < 0x40 ∧ (letter - 0x41) &&& 0x3F < 26 ∧ 0x41 + ((letter - 0x41) &&& 0x3F) = letter :=
    forall_octet (by decide)
  have lower : ∀ letter : UInt8, 0x61 ≤ letter ∧ letter ≤ 0x7A →
      letter - 0x61 + 26 < 0x40 ∧ ¬(letter - 0x61 + 26) &&& 0x3F < 26 ∧ (letter - 0x61 + 26) &&& 0x3F < 52 ∧
        0x61 + (((letter - 0x61 + 26) &&& 0x3F) - 26) = letter :=
    forall_octet (by decide)
  have digit : ∀ letter : UInt8, 0x30 ≤ letter ∧ letter ≤ 0x39 →
      letter - 0x30 + 52 < 0x40 ∧ ¬(letter - 0x30 + 52) &&& 0x3F < 26 ∧ ¬(letter - 0x30 + 52) &&& 0x3F < 52 ∧
        (letter - 0x30 + 52) &&& 0x3F < 62 ∧ 0x30 + (((letter - 0x30 + 52) &&& 0x3F) - 52) = letter :=
    forall_octet (by decide)
  simp only [Form.bits?, Bool.and_eq_true, decide_eq_true_eq, beq_iff_eq] at read
  split at read
  · rename_i range
    have ⟨narrow, first, same⟩ := upper letter range
    cases read
    exact ⟨narrow, by simp only [Form.letter, first, if_true, same]⟩
  split at read
  · rename_i range
    have ⟨narrow, notFirst, second, same⟩ := lower letter range
    cases read
    exact ⟨narrow, by simp only [Form.letter, notFirst, second, if_true, if_false, same]⟩
  split at read
  · rename_i range
    have ⟨narrow, notFirst, notSecond, third, same⟩ := digit letter range
    cases read
    exact ⟨narrow, by simp only [Form.letter, notFirst, notSecond, third, if_true, if_false, same]⟩
  split at read
  · rename_i same
    cases read
    exact ⟨by decide, same.symm⟩
  split at read
  · rename_i same
    cases read
    exact ⟨by decide, same.symm⟩
  · cases read

theorem letters_of_mapM {form : Form} {letters bits : List UInt8} (read : letters.mapM form.bits? = some bits) :
    (∀ item ∈ bits, item < 0x40) ∧ bits.map form.letter = letters := by
  induction letters generalizing bits with
  | nil =>
    cases read
    exact ⟨by simp, rfl⟩
  | cons letter letters ih =>
    rw [List.mapM_cons] at read
    obtain ⟨first, readFirst, read⟩ := Option.bind_eq_some_iff.mp read
    obtain ⟨others, readOthers, read⟩ := Option.bind_eq_some_iff.mp read
    cases read
    have ⟨narrow, same⟩ := letter_of_bits? readFirst
    have ⟨narrowOthers, sameOthers⟩ := ih readOthers
    exact ⟨List.forall_mem_cons.mpr ⟨narrow, narrowOthers⟩, by rw [List.map_cons, same, sameOthers]⟩

/-- Reading is strict: what is read is what writing produces. -/
theorem encode_of_decode? {form : Form} {text octets : Octets} (read : decode? form text = some octets) :
    encode form octets = text := by
  rw [decode?] at read
  split at read
  · rename_i padding
    obtain ⟨bits, readLetters, read⟩ := Option.bind_eq_some_iff.mp read
    obtain ⟨reversed, readBits, read⟩ := Option.bind_eq_some_iff.mp read
    cases read
    have ⟨narrow, letters⟩ := letters_of_mapM readLetters
    obtain ⟨plain, rfl, regroup⟩ := groups_of_octets? narrow readBits
    have size : bits.length = (text.takeWhile (· != pad)).length := by rw [← letters, List.length_map]
    calc encode form (plain.reverse ++ []).reverse
        = bits.map form.letter ++ form.padding bits.length := by simp [encode_eq, regroup]
      _ = text.takeWhile (· != pad) ++ text.dropWhile (· != pad) := by rw [letters, size, padding]
      _ = text := List.takeWhile_append_dropWhile
  · cases read

theorem encode_injective {form : Form} (lawful : form.Lawful) {octets other : Octets}
    (same : encode form octets = encode form other) : octets = other := by
  have read := decode?_encode lawful octets
  rw [same, decode?_encode lawful] at read
  exact (Option.some.inj read).symm

theorem decode?_eq_some_iff {form : Form} (lawful : form.Lawful) {text octets : Octets} :
    decode? form text = some octets ↔ text = encode form octets :=
  ⟨fun read => (encode_of_decode? read).symm, fun written => written ▸ decode?_encode lawful octets⟩

end LoginGateway.Base64
