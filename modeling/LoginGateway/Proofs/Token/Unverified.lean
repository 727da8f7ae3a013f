import LoginGateway.Proofs.Token.Verification

namespace LoginGateway.SignedToken

open Json

/-- A text of three parts without dots. -/
structure Segments (token head payload tail : String) : Prop extends Parts token head payload tail where
  head : '.' ∉ head.toList

def unpadded (payload : String) : String := String.ofList (Text.stripEnd (· == '=') payload.toList)

def pads (n : Nat) : String := String.ofList (List.replicate n '=')

variable {α : Type} {token head payload tail : String}

theorem split_message (front back : String) : Text.split (· == dot) (Text.encode (front ++ "." ++ back)) =
    Text.split (· == dot) (Text.encode front) ++ Text.split (· == dot) (Text.encode back) := by
  have cuts : ∀ front back, Text.split (· == dot) (front ++ dot :: back) =
      Text.split (· == dot) front ++ Text.split (· == dot) back := Text.split_append_cons (beq_self_eq_true dot)
  rw [encode_message, cuts]

theorem split_undotted {text : String} (dotless : '.' ∉ text.toList) :
    Text.split (· == dot) (Text.encode text) = [Text.encode text] :=
  Text.split_whole (dotless_octets dotless)

theorem Segments.split (segments : Segments token head payload tail) :
    Text.split (· == dot) (Text.encode token) = [Text.encode head, Text.encode payload, Text.encode tail] := by
  rw [segments.whole, split_message, split_message, split_undotted segments.head, split_undotted segments.payload,
    split_undotted segments.signature]
  rfl

theorem length_split_ne (other : ∀ head payload tail, ¬Segments token head payload tail) :
    (Text.split (· == dot) (Text.encode token)).length ≠ 3 := by
  -- A text that its dots do not cut into three has too few of them, or more of them before the last two.
  rcases few_or_parts token with few | ⟨head, payload, tail, parts⟩
  · by_cases dotted : '.' ∈ token.toList
    · obtain ⟨front, back, rfl, dotless⟩ := exists_message dotted
      rw [toList_message, List.count_append, List.count_cons_self] at few
      have single : '.' ∉ front.toList := List.count_eq_zero.mp (by omega)
      rw [split_message, split_undotted single, split_undotted dotless]
      exact nofun
    · rw [split_undotted dotted]
      exact nofun
  · have dotted : '.' ∈ head.toList := Decidable.byContradiction fun dotless => other _ _ _ ⟨parts, dotless⟩
    obtain ⟨front, back, rfl, dotless⟩ := exists_message dotted
    have more := List.length_pos_of_ne_nil (Text.split_ne_nil (· == dot) (Text.encode front))
    rw [parts.whole, split_message, split_message, split_message, split_undotted dotless,
      split_undotted parts.payload, split_undotted parts.signature]
    simp only [List.length_append, List.length_singleton]
    omega

theorem stripEnd_pad (payload : String) :
    Text.stripEnd (· == Base64.pad) (Text.encode payload) = Text.encode (unpadded payload) :=
  Text.stripEnd_encode (c := '=') (by decide) payload

theorem encode_pads (n : Nat) : Text.encode (pads n) = List.replicate n Base64.pad := by
  have ascii : ∀ c ∈ List.replicate n '=', c.val < 0x80 := by
    intro c member
    rw [List.eq_of_mem_replicate member]
    decide
  rw [pads, Text.encode_ofList_ascii ascii, List.map_replicate]
  rfl

theorem encode_padded (octets : Octets) (n : Nat) :
    Text.encode (Text.ascii (Base64.encode Base64.urlSafe octets) ++ pads n) =
      Base64.encode Base64.urlSafe octets ++ List.replicate n Base64.pad := by
  have ascii : ∀ octet ∈ Base64.encode Base64.urlSafe octets, octet < 0x80 :=
    forall_segment (forall_octet (by decide)) octets
  rw [Text.encode_append, encode_pads, Text.encode_ascii ascii]

theorem encode_unpadded (octets : Octets) (n : Nat) :
    Text.encode (unpadded (Text.ascii (Base64.encode Base64.urlSafe octets) ++ pads n)) =
      Base64.encode Base64.urlSafe octets := by
  rw [← stripEnd_pad, encode_padded, Text.stripEnd_append (by simp), stripEnd_segment]

theorem padded_undotted (octets : Octets) (n : Nat) :
    '.' ∉ (Text.ascii (Base64.encode Base64.urlSafe octets) ++ pads n).toList := by
  rw [← dot_mem_iff, encode_padded, List.mem_append, not_or]
  constructor
  · intro member
    exact segment_undotted octets dot member rfl
  · intro member
    cases List.eq_of_mem_replicate member

theorem Segments.readUnverified_of_written (segments : Segments token head payload tail) (decoder : Decoder α)
    {octets : Octets} (written : Text.encode (unpadded payload) = Base64.encode Base64.urlSafe octets) :
    readUnverified decoder token =
      (decode decoder octets).mapError fun error => .malformed (.claimsJson ⟨octets, error⟩) := by
  rw [readUnverified, segments.split]
  simp only [stripEnd_pad, written, Base64.decode?_encode Base64.urlSafe_lawful]

theorem Segments.readUnverified_unwritten (segments : Segments token head payload tail) (decoder : Decoder α)
    (unwritten : ∀ octets, Text.encode (unpadded payload) ≠ Base64.encode Base64.urlSafe octets) :
    readUnverified decoder token = .error (.malformed .claimsBase64) := by
  have unread : Base64.decode? Base64.urlSafe (Text.encode (unpadded payload)) = none := by
    cases read : Base64.decode? Base64.urlSafe (Text.encode (unpadded payload)) with
    | none => rfl
    | some octets => exact absurd ((Base64.decode?_eq_some_iff Base64.urlSafe_lawful).mp read) (unwritten octets)
  rw [readUnverified, segments.split]
  simp only [stripEnd_pad, unread]

theorem Segments.readUnverified_congr (segments : Segments token head payload tail) (decoder : Decoder α)
    {token' head' payload' tail' : String} (segments' : Segments token' head' payload' tail')
    (same : unpadded payload' = unpadded payload) : readUnverified decoder token' = readUnverified decoder token := by
  rw [readUnverified, readUnverified, segments.split, segments'.split]
  simp only [stripEnd_pad, same]

theorem readUnverified_notThree_iff (decoder : Decoder α) :
    readUnverified decoder token = .error (.malformed .notThreeSegments) ↔
      ∀ head payload tail, ¬Segments token head payload tail := by
  constructor
  · intro refused head payload tail segments
    rcases segment_cases (Text.encode (unpadded payload)) with ⟨octets, written, -⟩ | ⟨-, unwritten⟩
    · rw [segments.readUnverified_of_written decoder written] at refused
      cases read : decode decoder octets <;> rw [read] at refused <;> cases refused
    · rw [segments.readUnverified_unwritten decoder unwritten] at refused
      cases refused
  · intro other
    have length := length_split_ne other
    unfold readUnverified
    split
    · rename_i split
      rw [split] at length
      exact absurd rfl length
    · rfl

theorem readUnverified_of_verify {decoder : Decoder α} {secret : Octets} {claims : α}
    (verified : verify decoder secret token = .ok claims) : readUnverified decoder token = .ok claims := by
  obtain ⟨head, payload, signature, parts, dotless, -, -, octets, written, read, -⟩ := verify_ok_iff.mp verified
  have segments : Segments token head payload signature := ⟨parts, dotless⟩
  have whole : Text.encode (unpadded payload) = Base64.encode Base64.urlSafe octets := by
    rw [← stripEnd_pad, written, stripEnd_segment]
  rw [segments.readUnverified_of_written decoder whole, read]
  rfl

/-- Whatever claims are read, and under whatever secret: what verification takes from a token is read from it without
the secret as well. Of a token with three segments only the claims count, and of these not the padding, so the claims
are read as the data that they are the base64 text of, with any number of pad letters. Any other text is refused for its
segments. -/
theorem unverified_agrees (decoder : Decoder α) :
    (∀ secret token claims, verify decoder secret token = .ok claims → readUnverified decoder token = .ok claims) ∧
    (∀ token head payload tail token' head' payload' tail',
      Segments token head payload tail → Segments token' head' payload' tail' → unpadded payload' = unpadded payload →
        readUnverified decoder token' = readUnverified decoder token) ∧
    (∀ head tail, '.' ∉ head.toList → '.' ∉ tail.toList → ∀ octets n,
      readUnverified decoder
          (head ++ "." ++ (Text.ascii (Base64.encode Base64.urlSafe octets) ++ pads n) ++ "." ++ tail) =
        (decode decoder octets).mapError fun error => .malformed (.claimsJson ⟨octets, error⟩)) ∧
    ∀ token, readUnverified decoder token = .error (.malformed .notThreeSegments) ↔
      ∀ head payload tail, ¬Segments token head payload tail := by
  refine ⟨fun secret token claims => readUnverified_of_verify, ?_, ?_, fun token => readUnverified_notThree_iff decoder⟩
  · intro token head payload tail token' head' payload' tail' segments segments' same
    exact segments.readUnverified_congr decoder segments' same
  · intro head tail headless tailless octets n
    have segments : Segments (head ++ "." ++ (Text.ascii (Base64.encode Base64.urlSafe octets) ++ pads n) ++ "." ++ tail)
        head (Text.ascii (Base64.encode Base64.urlSafe octets) ++ pads n) tail :=
      ⟨⟨rfl, padded_undotted octets n, tailless⟩, headless⟩
    exact segments.readUnverified_of_written decoder (encode_unpadded octets n)

theorem unverified_agrees_padded :
    let claims := Json.object [("sub", Json.quote "alice")]
    readUnverified IdClaims.decoder
      ("h" ++ "." ++ (Text.ascii (Base64.encode Base64.urlSafe claims) ++ pads 4) ++ "." ++ "") =
        .ok ⟨some "alice", none⟩ := by
  intro claims
  obtain ⟨-, -, padded, -⟩ := unverified_agrees IdClaims.decoder
  rw [padded "h" "" (by decide) (by decide) claims 4]
  decide +kernel

end LoginGateway.SignedToken
