import LoginGateway.Proofs.Encoding.Base64
import LoginGateway.Proofs.Json.Layout
import LoginGateway.Proofs.Text.Pieces
import LoginGateway.Token.Signed

namespace LoginGateway

open Json

namespace SignedToken

theorem forall_segment {p : UInt8 → Prop} (letters : ∀ bits, p (Base64.urlSafe.letter bits)) (octets : Octets) :
    ∀ octet ∈ Base64.encode Base64.urlSafe octets, p octet := by
  intro octet member
  have unpadded : Base64.encode Base64.urlSafe octets = (Base64.groups octets).map Base64.urlSafe.letter :=
    (Base64.encode_eq _ _).trans (List.append_nil _)
  rw [unpadded] at member
  obtain ⟨bits, -, rfl⟩ := List.mem_map.mp member
  exact letters bits

theorem forall_sign {p : UInt8 → Prop} (letters : ∀ bits, p (Base64.urlSafe.letter bits)) (dotted : p dot)
    (secret claims : Octets) : ∀ octet ∈ sign secret claims, p octet := by
  intro octet member
  simp only [sign, signatureOf, List.mem_append, List.mem_cons] at member
  rcases member with (member | rfl | member) | rfl | member
  · exact forall_segment letters _ _ member
  · exact dotted
  · exact forall_segment letters _ _ member
  · exact dotted
  · exact forall_segment letters _ _ member

theorem segment_undotted (octets : Octets) : ∀ octet ∈ Base64.encode Base64.urlSafe octets, octet ≠ dot :=
  forall_segment (forall_octet (by decide)) octets

theorem stripEnd_segment (octets : Octets) :
    Text.stripEnd (· == Base64.pad) (Base64.encode Base64.urlSafe octets) = Base64.encode Base64.urlSafe octets :=
  Text.stripEnd_of_kept (forall_segment (forall_octet (by decide)) octets)

theorem encode_mint (secret claims : Octets) : Text.encode (mint secret claims) = sign secret claims :=
  Text.encode_ascii (forall_sign (forall_octet (by decide)) (by decide) secret claims)

theorem cutLast_segment (before octets : Octets) :
    Text.cutLast (· == dot) (before ++ dot :: Base64.encode Base64.urlSafe octets) =
      (Base64.encode Base64.urlSafe octets, some before) := by
  apply Text.cutLast_append
  · intro octet member
    exact beq_eq_false_iff_ne.mpr (segment_undotted _ _ member)
  · decide

theorem segment_encode (octets : Octets) : segment (Base64.encode Base64.urlSafe octets) = .ok octets := by
  rw [segment, Base64.decode?_encode Base64.urlSafe_lawful]

theorem header_ownHeader : decode header ownHeader = .ok "HS256" := by decide +kernel

def message (claims : Octets) : Octets :=
  Base64.encode Base64.urlSafe ownHeader ++ dot :: Base64.encode Base64.urlSafe claims

theorem verify_mint_eq {α : Type} (decoder : Decoder α) (secret other claims : Octets) :
    verify decoder secret (mint other claims) =
      if signatureOf other (message claims) ≠ signatureOf secret (message claims) then .error .signature
      else do
        let value ← readSegment decoder claims
        let _ ← readSegment registered claims
        return value := by
  have whole : sign other claims = message claims ++ dot :: signatureOf other (message claims) := rfl
  have signature : Text.cutLast (· == dot) (message claims ++ dot :: signatureOf other (message claims)) =
      (signatureOf other (message claims), some (message claims)) := cutLast_segment _ _
  have payload : Text.cutLast (· == dot) (message claims) =
      (Base64.encode Base64.urlSafe claims, some (Base64.encode Base64.urlSafe ownHeader)) := cutLast_segment _ _
  rw [verify, encode_mint, whole, signature]
  dsimp only
  rw [payload]
  simp [segment_encode, readSegment, header_ownHeader, Except.mapError]

theorem verify_mint_of_decode {α : Type} {decoder : Decoder α} {claims : Octets} {value : α} (secret : Octets)
    (read : decode decoder claims = .ok value) (checked : decode registered claims = .ok ()) :
    verify decoder secret (mint secret claims) = .ok value := by
  rw [verify_mint_eq, if_neg (by simp)]
  simp [readSegment, read, checked, Except.mapError]

theorem signatureOf_injective {secret other message : Octets}
    (same : signatureOf other message = signatureOf secret message) :
    Hmac.sign other message = Hmac.sign secret message :=
  Base64.encode_injective Base64.urlSafe_lawful same

theorem readUnverified_of_parts {α : Type} (decoder : Decoder α) {token : String} {head claims tail : Octets}
    (parts : Text.encode token = head ++ dot :: (Base64.encode Base64.urlSafe claims ++ dot :: tail))
    (headless : dot ∉ head) (tailless : dot ∉ tail) :
    readUnverified decoder token =
      (decode decoder claims).mapError fun error => .malformed (.claimsJson ⟨claims, error⟩) := by
  have middle : dot ∉ Base64.encode Base64.urlSafe claims := fun member => segment_undotted claims dot member rfl
  have cuts : ∀ front back, Text.split (· == dot) (front ++ dot :: back) =
      Text.split (· == dot) front ++ Text.split (· == dot) back := Text.split_append_cons (beq_self_eq_true dot)
  have split : Text.split (· == dot) (Text.encode token) = [head, Base64.encode Base64.urlSafe claims, tail] := by
    rw [parts, cuts, cuts, Text.split_whole (Text.beq_of_not_mem headless),
      Text.split_whole (Text.beq_of_not_mem middle), Text.split_whole (Text.beq_of_not_mem tailless)]
    rfl
  rw [readUnverified, split]
  simp only [stripEnd_segment, Base64.decode?_encode Base64.urlSafe_lawful]

theorem verify_mint_other {α : Type} (decoder : Decoder α) {secret other claims : Octets}
    (different : Hmac.sign other (message claims) ≠ Hmac.sign secret (message claims)) :
    verify decoder secret (mint other claims) = .error .signature := by
  rw [verify_mint_eq, if_pos (mt signatureOf_injective different)]

end SignedToken

namespace ApiClaims

def node (claims : ApiClaims) : Node :=
  .object ([memberNode "sub" (textNode claims.subject)]
    ++ (if claims.email.isEmpty then [] else [memberNode "email" (textNode claims.email)])
    ++ [memberNode "randomizer" (.number (.ofInt claims.salt.toNat))]
    ++ (match claims.expiry with
      | some second => [memberNode "exp" (.number (.ofInt second.toInt))]
      | none => [])) true

theorem printed (claims : ApiClaims) : claims.node.Text claims.json := by
  obtain ⟨subject, email, salt, expiry⟩ := claims
  have number : natural salt.toNat = integer salt.toNat := by simp [integer]
  apply text_object
  refine List.rel_append (List.rel_append (List.rel_append ?_ ?_) ?_) ?_
  · exact .cons ((text_quote _).member _) .nil
  · simp only [Claims.textMember]
    split
    · exact .nil
    · exact .cons ((text_quote _).member _) .nil
  · rw [number]
    exact .cons ((text_integer (salt.toNat : Int)).member _) .nil
  · cases expiry with
    | none => exact .nil
    | some second => exact .cons ((text_integer _).member _) .nil

theorem decoder_node (claims : ApiClaims) : decoder claims.node = .ok claims := by
  obtain ⟨subject, email, salt, expiry⟩ := claims
  by_cases unaddressed : email = "" <;> cases expiry <;>
    simp_all [decoder, node, record, objectRecord, fields, field]

theorem registered_node (claims : ApiClaims) : SignedToken.registered claims.node = .ok () := by
  obtain ⟨subject, email, salt, expiry⟩ := claims
  have text : ∀ content, SignedToken.textClaim (textNode content) = .ok () := by
    intro content
    have read := text_textNode content
    simp only [textNode] at read
    simp [textNode, SignedToken.textClaim, SignedToken.numericClaim, read]
  have number : ∀ numeral, SignedToken.numericClaim (.number numeral) = .ok () := fun _ => rfl
  have other : ∀ content, ignored (textNode content) = .ok () := fun _ => rfl
  have salted : ∀ numeral, ignored (.number numeral) = .ok () := fun _ => rfl
  by_cases unaddressed : email = "" <;> cases expiry <;>
    simp_all [SignedToken.registered, node, record, objectRecord, SignedToken.registeredFields, SignedToken.checked]

theorem verify_mint_of_node {α : Type} {decoder : Decoder α} {claims : ApiClaims} {value : α} (secret : Octets)
    (read : decoder claims.node = .ok value) :
    SignedToken.verify decoder secret (SignedToken.mint secret claims.json) = .ok value := by
  apply SignedToken.verify_mint_of_decode
  · rw [claims.printed.decode decoder, read]
  · rw [claims.printed.decode, registered_node]

theorem verify_mint (secret : Octets) (claims : ApiClaims) :
    SignedToken.verify decoder secret (SignedToken.mint secret claims.json) = .ok claims :=
  verify_mint_of_node secret claims.decoder_node

theorem mint_injective {secret : Octets} {first second : ApiClaims}
    (same : SignedToken.mint secret first.json = SignedToken.mint secret second.json) : first = second := by
  have read := verify_mint secret first
  rw [same, verify_mint] at read
  exact (Except.ok.inj read).symm

end ApiClaims

namespace StateClaims

def node (claims : StateClaims) : Node :=
  .object ((if claims.destination.isEmpty then [] else [memberNode "rd" (textNode claims.destination)])
    ++ (match claims.expiry with
      | some second => [memberNode "exp" (.number (.ofInt second.toInt))]
      | none => [])) true

theorem printed (claims : StateClaims) : claims.node.Text claims.json := by
  obtain ⟨destination, expiry⟩ := claims
  apply text_object
  refine List.rel_append ?_ ?_
  · simp only [Claims.textMember]
    split
    · exact .nil
    · exact .cons ((text_quote _).member _) .nil
  · cases expiry with
    | none => exact .nil
    | some second => exact .cons ((text_integer _).member _) .nil

theorem decoder_node (claims : StateClaims) : decoder claims.node = .ok claims := by
  obtain ⟨destination, expiry⟩ := claims
  by_cases nowhere : destination = "" <;> cases expiry <;>
    simp_all [decoder, node, record, objectRecord, fields, field]

theorem registered_node (claims : StateClaims) : SignedToken.registered claims.node = .ok () := by
  obtain ⟨destination, expiry⟩ := claims
  have number : ∀ numeral, SignedToken.numericClaim (.number numeral) = .ok () := fun _ => rfl
  have other : ∀ content, ignored (textNode content) = .ok () := fun _ => rfl
  by_cases nowhere : destination = "" <;> cases expiry <;>
    simp_all [SignedToken.registered, node, record, objectRecord, SignedToken.registeredFields, SignedToken.checked]

theorem verify_mint_of_node {α : Type} {decoder : Decoder α} {claims : StateClaims} {value : α} (secret : Octets)
    (read : decoder claims.node = .ok value) :
    SignedToken.verify decoder secret (SignedToken.mint secret claims.json) = .ok value := by
  apply SignedToken.verify_mint_of_decode
  · rw [claims.printed.decode decoder, read]
  · rw [claims.printed.decode, registered_node]

theorem verify_mint (secret : Octets) (claims : StateClaims) :
    SignedToken.verify decoder secret (SignedToken.mint secret claims.json) = .ok claims :=
  verify_mint_of_node secret claims.decoder_node

end StateClaims

end LoginGateway
