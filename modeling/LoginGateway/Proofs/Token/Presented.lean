import LoginGateway.Proofs.Http.Fields
import LoginGateway.Proofs.Token.Minted
import LoginGateway.Token.Presented

namespace LoginGateway

open Http

namespace SignedToken

theorem forall_mint {p : Char → Prop} (letters : ∀ bits, p (Char.ofUInt8 (Base64.urlSafe.letter bits))) (dotted : p '.')
    (secret claims : Octets) : ∀ c ∈ (mint secret claims).toList, p c := by
  intro c member
  rw [mint, Text.ascii, String.toList_ofList] at member
  obtain ⟨octet, signed, rfl⟩ := List.mem_map.mp member
  have each : ∀ octet ∈ sign secret claims, p (Char.ofUInt8 octet) := forall_sign letters dotted secret claims
  exact each octet signed

theorem mint_chars (secret claims : Octets) :
    ∀ c ∈ (mint secret claims).toList, 0x21 ≤ c.toNat ∧ c.toNat ≤ 0x7E :=
  forall_mint (forall_octet (by decide)) (by decide) secret claims

theorem mint_unquoted (secret claims : Octets) : ∀ c ∈ (mint secret claims).toList, c ≠ ';' ∧ c ≠ '\x22' :=
  forall_mint (forall_octet (by decide)) (by decide) secret claims

theorem mint_unspaced (secret claims : Octets) :
    ∀ c ∈ (mint secret claims).toList, Text.isBlank c = false := by
  intro c member
  obtain ⟨least, most⟩ := mint_chars secret claims c member
  exact Text.not_isBlank least most

theorem readable_mint (secret claims : Octets) : Readable (mint secret claims) :=
  readable_of_visible (mint_chars secret claims)

theorem isValue_mint (secret claims : Octets) : isValue (Text.encode (mint secret claims)) = true := by
  rw [isValue_encode_iff]
  intro c member
  have range := mint_chars secret claims c member
  omega

theorem isEmpty_mint (secret claims : Octets) : (mint secret claims).isEmpty = false := by
  rw [String.isEmpty_eq_false_iff]
  intro empty
  have none := encode_mint secret claims
  rw [empty] at none
  simp [sign, Text.encode] at none

end SignedToken

namespace PresentedToken

theorem bearer_missing {headers : Headers} (bare : headers.first? "authorization" = none) :
    bearer headers = .error .missing := by
  rw [bearer, bare]

theorem bearer_mint (secret claims : Octets) (headers : Headers) :
    bearer (("authorization", Text.encode ("Bearer " ++ SignedToken.mint secret claims)) :: headers) =
      .ok (SignedToken.mint secret claims) := by
  have readable : Readable ("Bearer " ++ SignedToken.mint secret claims) := by
    have scheme : Readable "Bearer " := by simp [Readable]
    exact (readable_append _ _).mpr ⟨scheme, SignedToken.readable_mint secret claims⟩
  have parts : Text.cut (· == ' ') ("Bearer " ++ SignedToken.mint secret claims).toList =
      ("Bearer".toList, some (SignedToken.mint secret claims).toList) := by
    have unspaced : ∀ c ∈ "Bearer".toList, (c == ' ') = false := by simp
    rw [String.toList_append]
    exact Text.cut_append unspaced (beq_self_eq_true ' ')
  have trimmed : Text.trim (String.ofList (SignedToken.mint secret claims).toList) = SignedToken.mint secret claims := by
    rw [Text.trim, String.toList_ofList, Text.strip_of_kept (SignedToken.mint_unspaced secret claims),
      String.ofList_toList]
  rw [bearer, Headers.first?, List.lookup_cons, beq_self_eq_true]
  simp only [readable.read, ofBearer, parts, trimmed, SignedToken.isEmpty_mint]
  rw [if_neg (by decide +kernel)]
  rfl

theorem ofRequest_mint (secret claims : Octets) (headers : Headers) (cookieName : String) :
    ofRequest (("authorization", Text.encode ("Bearer " ++ SignedToken.mint secret claims)) :: headers) cookieName =
      .ok (SignedToken.mint secret claims) := by
  rw [ofRequest, bearer_mint]

end PresentedToken

end LoginGateway
