import LoginGateway.Proofs.Token.Minted

namespace LoginGateway.SignedToken

open Json

theorem mint_inj {secret other claims claims' : Octets} (same : mint secret claims = mint other claims') :
    claims = claims' := by
  have octets := congrArg Text.encode same
  rw [encode_mint, encode_mint] at octets
  have messages := congrArg (Text.cutLast (· == dot)) octets
  rw [sign, sign, signatureOf, signatureOf, cutLast_segment, cutLast_segment] at messages
  have payloads := congrArg (Text.cutLast (· == dot)) (Option.some.inj (Prod.mk.inj messages).2)
  rw [cutLast_segment, cutLast_segment] at payloads
  exact Base64.encode_injective Base64.urlSafe_lawful (Prod.mk.inj payloads).1

structure Carries {γ : Type} (json : γ → Octets) (decoder : Decoder γ) : Prop where
  read : ∀ secret claims, verify decoder secret (mint secret (json claims)) = .ok claims
  distinct : ∀ secret other claims claims', mint secret (json claims) = mint other (json claims') → claims = claims'
  foreign : ∀ secret other claims,
    Hmac.sign other (message (json claims)) ≠ Hmac.sign secret (message (json claims)) →
    ∀ {β : Type} (reader : Decoder β), verify reader secret (mint other (json claims)) = .error .signature

theorem Carries.of_node {γ : Type} {json : γ → Octets} {decoder : Decoder γ} {node : γ → Node}
    (printed : ∀ claims, (node claims).Text (json claims)) (read : ∀ claims, decoder (node claims) = .ok claims)
    (checked : ∀ claims, registered (node claims) = .ok ()) : Carries json decoder := by
  have decoded : ∀ claims, decode decoder (json claims) = .ok claims := by
    intro claims
    rw [(printed claims).decode decoder, read]
  refine ⟨?_, ?_, ?_⟩
  · intro secret claims
    apply verify_mint_of_decode secret (decoded claims)
    rw [(printed claims).decode registered, checked]
  · intro secret other claims claims' same
    have again := decoded claims
    rw [mint_inj same, decoded claims'] at again
    exact (Except.ok.inj again).symm
  · intro secret other claims different β reader
    exact verify_mint_other reader different

/-- For session and API tokens and for state tokens alike, and whatever the claims: under the secret that signed it a
token is read as just the claims that it was minted for, be they expired or not; different claims have different
tokens; and under a secret for which the authentication code differs, the answer is that the signature is invalid. -/
theorem minted_claims_carried :
    Carries ApiClaims.json ApiClaims.decoder ∧ Carries StateClaims.json StateClaims.decoder :=
  ⟨.of_node ApiClaims.printed ApiClaims.decoder_node ApiClaims.registered_node,
    .of_node StateClaims.printed StateClaims.decoder_node StateClaims.registered_node⟩

theorem minted_claims_carried_foreign :
    let claims : ApiClaims := ⟨"é", "", 0xFFFFFFFFFFFFFFFF, some (-1)⟩
    let token := mint [0x6B] claims.json
    verify ApiClaims.decoder [0x6B] token = .ok claims ∧
    Hmac.sign [0x6B] (message claims.json) ≠ Hmac.sign [0x6C] (message claims.json) ∧
    verify ApiClaims.decoder [0x6C] token = .error .signature := by
  intro claims token
  have different : Hmac.sign [0x6B] (message claims.json) ≠ Hmac.sign [0x6C] (message claims.json) := by
    decide +kernel
  obtain ⟨carried, -⟩ := minted_claims_carried
  exact ⟨carried.read _ _, different, carried.foreign _ _ _ different ApiClaims.decoder⟩

end LoginGateway.SignedToken
