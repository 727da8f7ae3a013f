import LoginGateway.Http.Header
import LoginGateway.Proofs.Text.Pieces

namespace LoginGateway.Http

theorem isValue_append (front back : Octets) : isValue (front ++ back) = (isValue front && isValue back) :=
  List.all_append

theorem isValue_encode_iff (text : String) :
    isValue (Text.encode text) = true ↔ ∀ c ∈ text.toList, (0x20 ≤ c.toNat ∧ c.toNat ≠ 0x7F) ∨ c.toNat = 0x09 := by
  have beyond : ∀ octet : UInt8, 0x80 ≤ octet → isValueOctet octet = true := forall_octet (by decide)
  have each : ∀ octet : UInt8, octet < 0x80 → (isValueOctet (Text.octetOf (Char.ofUInt8 octet)) = true ↔
      (0x20 ≤ (Char.ofUInt8 octet).toNat ∧ (Char.ofUInt8 octet).toNat ≠ 0x7F) ∨ (Char.ofUInt8 octet).toNat = 0x09) :=
    forall_octet (by decide)
  rw [isValue, Text.all_encode beyond, List.all_eq_true]
  refine forall₂_congr fun c _ => ?_
  split
  · rename_i ascii
    obtain ⟨octet, small, rfl⟩ := Text.eq_ofUInt8 ascii
    exact each octet small
  · rename_i large
    have beyond := Text.toNat_beyond large
    exact iff_of_true rfl (.inl (by omega))

def Readable (text : String) : Prop := ∀ c ∈ text.toList, (0x20 ≤ c.toNat ∧ c.toNat < 0x7F) ∨ c.toNat = 0x09

theorem all_readable_iff (text : String) :
    (Text.encode text).all (fun octet => (0x20 ≤ octet && octet < 0x7F) || octet == 0x09) = true ↔ Readable text := by
  have beyond : ∀ octet : UInt8, 0x80 ≤ octet → ((0x20 ≤ octet && octet < 0x7F) || octet == 0x09) = false :=
    forall_octet (by decide)
  have each : ∀ octet : UInt8, octet < 0x80 →
      (((0x20 ≤ Text.octetOf (Char.ofUInt8 octet) && Text.octetOf (Char.ofUInt8 octet) < 0x7F) ||
        Text.octetOf (Char.ofUInt8 octet) == 0x09) = true ↔
      (0x20 ≤ (Char.ofUInt8 octet).toNat ∧ (Char.ofUInt8 octet).toNat < 0x7F) ∨ (Char.ofUInt8 octet).toNat = 0x09) :=
    forall_octet (by decide)
  rw [Text.all_encode beyond, List.all_eq_true, Readable]
  refine forall₂_congr fun c _ => ?_
  split
  · rename_i ascii
    obtain ⟨octet, small, rfl⟩ := Text.eq_ofUInt8 ascii
    exact each octet small
  · rename_i large
    have beyond := Text.toNat_beyond large
    exact iff_of_false nofun (by omega)

theorem Readable.read {text : String} (readable : Readable text) : readable? (Text.encode text) = some text := by
  rw [readable?, if_pos ((all_readable_iff text).mpr readable), Text.decode?_encode]

theorem readable?_eq_none {text : String} (unreadable : ¬Readable text) : readable? (Text.encode text) = none :=
  if_neg (mt (all_readable_iff text).mp unreadable)

theorem readable_of_visible {text : String} (visible : ∀ c ∈ text.toList, 0x21 ≤ c.toNat ∧ c.toNat ≤ 0x7E) :
    Readable text := by
  intro c member
  have range := visible c member
  omega

theorem readable_append (front back : String) : Readable (front ++ back) ↔ Readable front ∧ Readable back := by
  simp [Readable, or_imp, forall_and]

theorem readable_intercalate {joint : String} (plain : Readable joint) (texts : List String) :
    Readable (joint.intercalate texts) ↔ ∀ text ∈ texts, Readable text := by
  induction texts with
  | nil => simp [Readable]
  | cons text others ih =>
    cases others with
    | nil => simp
    | cons next rest =>
      rw [String.intercalate_cons_cons, readable_append, readable_append, List.forall_mem_cons]
      exact and_congr (and_iff_left plain) ih

theorem readable?_eq_some_iff {value : Octets} {text : String} :
    readable? value = some text ↔ Readable text ∧ value = Text.encode text := by
  constructor
  · intro read
    have legible := read
    rw [readable?] at legible
    split at legible
    · rename_i plain
      have octets := Text.encode_of_decode? legible
      rw [← octets, all_readable_iff] at plain
      exact ⟨plain, octets.symm⟩
    · cases legible
  · rintro ⟨readable, rfl⟩
    exact readable.read

end LoginGateway.Http
