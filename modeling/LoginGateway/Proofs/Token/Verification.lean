import LoginGateway.Proofs.Token.Minted

namespace LoginGateway.SignedToken

open Json

/-- A text of three parts, cut at its last two dots. -/
structure Parts (token head payload signature : String) : Prop where
  whole : token = head ++ "." ++ payload ++ "." ++ signature
  payload : '.' ∉ payload.toList
  signature : '.' ∉ signature.toList

def Names (head algorithm : String) : Prop :=
  ∃ octets, Text.encode head = Base64.encode Base64.urlSafe octets ∧ decode header octets = .ok algorithm

def Signs (secret : Octets) (message signature : String) : Prop :=
  Text.encode signature = signatureOf secret (Text.encode message)

/-- A segment holds these claims, and those with registered names are what they should be. -/
def Tells {α : Type} (decoder : Decoder α) (payload : String) (claims : α) : Prop :=
  ∃ octets, Text.encode payload = Base64.encode Base64.urlSafe octets ∧ decode decoder octets = .ok claims ∧
    decode registered octets = .ok ()

theorem dot_mem_iff {text : String} : dot ∈ Text.encode text ↔ '.' ∈ text.toList :=
  Text.octetOf_mem_encode_iff (c := '.') (by decide)

theorem dotless_octets {text : String} (dotless : '.' ∉ text.toList) :
    ∀ octet ∈ Text.encode text, (octet == dot) = false :=
  Text.beq_of_not_mem (mt dot_mem_iff.mp dotless)

theorem toList_message (front back : String) : (front ++ "." ++ back).toList = front.toList ++ '.' :: back.toList := by
  rw [String.toList_append, String.toList_append, List.append_assoc]
  rfl

theorem encode_message (front back : String) :
    Text.encode (front ++ "." ++ back) = Text.encode front ++ dot :: Text.encode back := by
  rw [Text.encode_append, Text.encode_append, List.append_assoc]
  rfl

theorem cutLast_message {front back : String} (dotless : '.' ∉ back.toList) :
    Text.cutLast (· == dot) (Text.encode (front ++ "." ++ back)) = (Text.encode back, some (Text.encode front)) := by
  rw [encode_message]
  exact Text.cutLast_append (dotless_octets dotless) (beq_self_eq_true dot)

theorem exists_message {text : String} (dotted : '.' ∈ text.toList) :
    ∃ front back, text = front ++ "." ++ back ∧ '.' ∉ back.toList := by
  obtain ⟨front, back, same, dotless⟩ := Text.split_last dotted
  refine ⟨String.ofList front, String.ofList back, ?_, by rwa [String.toList_ofList]⟩
  apply String.toList_inj.mp
  rw [toList_message, String.toList_ofList, String.toList_ofList, same]

theorem message_inj {front back front' back' : String} (dotless : '.' ∉ back.toList) (dotless' : '.' ∉ back'.toList)
    (same : front ++ "." ++ back = front' ++ "." ++ back') : front = front' ∧ back = back' := by
  have octets := congrArg Text.encode same
  have cut := congrArg (Text.cutLast (· == dot)) octets
  rw [cutLast_message dotless, cutLast_message dotless'] at cut
  obtain ⟨backs, fronts⟩ := Prod.mk.inj cut
  exact ⟨Text.encode_injective (Option.some.inj fronts), Text.encode_injective backs⟩

variable {α : Type} {decoder : Decoder α} {secret : Octets} {token head payload signature : String}

theorem few_or_parts (token : String) :
    token.toList.count '.' < 2 ∨ ∃ head payload signature, Parts token head payload signature := by
  by_cases dotted : '.' ∈ token.toList
  · obtain ⟨message, signature, rfl, dotless⟩ := exists_message dotted
    by_cases dottedMessage : '.' ∈ message.toList
    · obtain ⟨head, payload, rfl, dotlessPayload⟩ := exists_message dottedMessage
      exact .inr ⟨head, payload, signature, rfl, dotlessPayload, dotless⟩
    · left
      rw [toList_message, List.count_append, List.count_cons_self, List.count_eq_zero.mpr dottedMessage,
        List.count_eq_zero.mpr dotless]
      decide
  · left
    rw [List.count_eq_zero.mpr dotted]
    decide

theorem Parts.count (parts : Parts token head payload signature) :
    token.toList.count '.' = head.toList.count '.' + 2 := by
  rw [parts.whole, toList_message, toList_message, List.count_append, List.count_append, List.count_cons_self,
    List.count_cons_self, List.count_eq_zero.mpr parts.payload, List.count_eq_zero.mpr parts.signature]

theorem Names.dotless {algorithm : String} (names : Names head algorithm) : '.' ∉ head.toList := by
  obtain ⟨octets, written, -⟩ := names
  intro member
  rw [← dot_mem_iff, written] at member
  exact segment_undotted octets dot member rfl

theorem Signs.unique {message other : String} (signs : Signs secret message signature)
    (signs' : Signs secret message other) : other = signature :=
  Text.encode_injective (signs'.trans signs.symm)

theorem segment_cases (text : Octets) :
    (∃ octets, text = Base64.encode Base64.urlSafe octets ∧ segment text = .ok octets) ∨
    segment text = .error (.malformed .base64) ∧ ∀ octets, text ≠ Base64.encode Base64.urlSafe octets := by
  rw [segment]
  cases read : Base64.decode? Base64.urlSafe text with
  | some octets => exact .inl ⟨octets, (Base64.decode?_eq_some_iff Base64.urlSafe_lawful).mp read, rfl⟩
  | none =>
    refine .inr ⟨rfl, fun octets written => ?_⟩
    cases read.symm.trans ((Base64.decode?_eq_some_iff Base64.urlSafe_lawful).mpr written)

theorem verify_few (few : token.toList.count '.' < 2) :
    verify decoder secret token = .error (.malformed .tooFewSegments) := by
  by_cases dotted : '.' ∈ token.toList
  · obtain ⟨front, back, rfl, dotless⟩ := exists_message dotted
    rw [toList_message, List.count_append, List.count_cons_self] at few
    have single : '.' ∉ front.toList := List.count_eq_zero.mp (by omega)
    rw [verify, cutLast_message dotless]
    dsimp only
    rw [Text.cutLast_whole (dotless_octets single)]
  · rw [verify, Text.cutLast_whole (dotless_octets dotted)]

theorem Parts.verify_eq (parts : Parts token head payload signature) :
    verify decoder secret token = (do
      let algorithm ← readSegment header (← segment (Text.encode head))
      if algorithm ≠ "HS256" ∨ Text.encode signature ≠ signatureOf secret (Text.encode (head ++ "." ++ payload)) then
        .error .signature
      else
        let claims ← segment (Text.encode payload)
        let value ← readSegment decoder claims
        let _ ← readSegment registered claims
        return value) := by
  rw [verify, parts.whole, cutLast_message parts.signature]
  dsimp only
  rw [cutLast_message parts.payload]

theorem verify_unheaded (secret : Octets) (unheaded : ∀ algorithm, ¬Names head algorithm) :
    ∃ malformation, ∀ {β : Type} (reader : Decoder β) {token payload signature : String},
      Parts token head payload signature → verify reader secret token = .error (.malformed malformation) := by
  rcases segment_cases (Text.encode head) with ⟨octets, written, read⟩ | ⟨unread, -⟩
  · cases decoded : decode header octets with
    | ok algorithm => exact absurd ⟨octets, written, decoded⟩ (unheaded algorithm)
    | error error =>
      refine ⟨.json ⟨octets, error⟩, ?_⟩
      intro β reader token payload signature parts
      rw [parts.verify_eq, read, ok_bind, readSegment, decoded]
      rfl
  · refine ⟨.base64, ?_⟩
    intro β reader token payload signature parts
    rw [parts.verify_eq, unread]
    rfl

theorem Parts.verify_unsigned {algorithm : String} (parts : Parts token head payload signature)
    (names : Names head algorithm)
    (unsigned : algorithm ≠ "HS256" ∨ ¬Signs secret (head ++ "." ++ payload) signature) :
    verify decoder secret token = .error .signature := by
  obtain ⟨octets, written, decoded⟩ := names
  rw [parts.verify_eq, written, segment_encode, ok_bind, readSegment, decoded]
  exact if_pos unsigned

theorem Parts.verify_signed (parts : Parts token head payload signature) (names : Names head "HS256")
    (signs : Signs secret (head ++ "." ++ payload) signature) :
    verify decoder secret token = (do
      let claims ← segment (Text.encode payload)
      let value ← readSegment decoder claims
      let _ ← readSegment registered claims
      return value) := by
  obtain ⟨octets, written, decoded⟩ := names
  rw [parts.verify_eq, written, segment_encode, ok_bind, readSegment, decoded]
  exact if_neg (not_or.mpr ⟨fun other => other rfl, fun unsigned => unsigned signs⟩)

theorem Parts.verify_told {claims : α} (parts : Parts token head payload signature) (names : Names head "HS256")
    (signs : Signs secret (head ++ "." ++ payload) signature) (tells : Tells decoder payload claims) :
    verify decoder secret token = .ok claims := by
  obtain ⟨octets, written, read, checked⟩ := tells
  rw [parts.verify_signed names signs, written, segment_encode, ok_bind, readSegment, read, readSegment, checked]
  rfl

theorem Parts.verify_untold (parts : Parts token head payload signature) (names : Names head "HS256")
    (signs : Signs secret (head ++ "." ++ payload) signature) (untold : ∀ claims, ¬Tells decoder payload claims) :
    ∃ malformation, verify decoder secret token = .error (.malformed malformation) := by
  rw [parts.verify_signed names signs]
  rcases segment_cases (Text.encode payload) with ⟨octets, written, read⟩ | ⟨unread, -⟩
  · rw [read, ok_bind, readSegment, readSegment]
    cases decoded : decode decoder octets with
    | error error => exact ⟨.json ⟨octets, error⟩, rfl⟩
    | ok claims =>
      cases checked : decode registered octets with
      | error error => exact ⟨.json ⟨octets, error⟩, rfl⟩
      | ok _ => exact absurd ⟨octets, written, decoded, checked⟩ (untold claims)
  · rw [unread]
    exact ⟨.base64, rfl⟩

/-- All that a text can be, and what is answered to it. -/
inductive Verdict {α : Type} (decoder : Decoder α) (secret : Octets) (token : String) : Except TokenError α → Prop where
  | few (few : token.toList.count '.' < 2) : Verdict decoder secret token (.error (.malformed .tooFewSegments))
  | unheaded {head payload signature : String} (parts : Parts token head payload signature)
      (unheaded : ∀ algorithm, ¬Names head algorithm) (malformation : Malformation) :
      Verdict decoder secret token (.error (.malformed malformation))
  | unsigned {head payload signature algorithm : String} (parts : Parts token head payload signature)
      (names : Names head algorithm)
      (unsigned : algorithm ≠ "HS256" ∨ ¬Signs secret (head ++ "." ++ payload) signature) :
      Verdict decoder secret token (.error .signature)
  | untold {head payload signature : String} (parts : Parts token head payload signature) (names : Names head "HS256")
      (signs : Signs secret (head ++ "." ++ payload) signature) (untold : ∀ claims, ¬Tells decoder payload claims)
      (malformation : Malformation) : Verdict decoder secret token (.error (.malformed malformation))
  | told {head payload signature : String} {claims : α} (parts : Parts token head payload signature)
      (names : Names head "HS256") (signs : Signs secret (head ++ "." ++ payload) signature)
      (tells : Tells decoder payload claims) : Verdict decoder secret token (.ok claims)

theorem verdict (decoder : Decoder α) (secret : Octets) (token : String) :
    Verdict decoder secret token (verify decoder secret token) := by
  rcases few_or_parts token with few | ⟨head, payload, signature, parts⟩
  · rw [verify_few few]
    exact .few few
  by_cases headed : ∃ algorithm, Names head algorithm
  · obtain ⟨algorithm, names⟩ := headed
    by_cases signed : algorithm = "HS256" ∧ Signs secret (head ++ "." ++ payload) signature
    · obtain ⟨rfl, signs⟩ := signed
      by_cases told : ∃ claims, Tells decoder payload claims
      · obtain ⟨claims, tells⟩ := told
        rw [parts.verify_told names signs tells]
        exact .told parts names signs tells
      · obtain ⟨malformation, answer⟩ := parts.verify_untold names signs (not_exists.mp told)
        rw [answer]
        exact .untold parts names signs (not_exists.mp told) malformation
    · have unsigned := Classical.not_and_iff_not_or_not.mp signed
      rw [parts.verify_unsigned names unsigned]
      exact .unsigned parts names unsigned
  · obtain ⟨malformation, answer⟩ := verify_unheaded secret (not_exists.mp headed)
    rw [answer decoder parts]
    exact .unheaded parts (not_exists.mp headed) malformation

theorem verify_ok_iff {claims : α} :
    verify decoder secret token = .ok claims ↔ ∃ head payload signature,
      Parts token head payload signature ∧ '.' ∉ head.toList ∧ Names head "HS256" ∧
        Signs secret (head ++ "." ++ payload) signature ∧ Tells decoder payload claims := by
  constructor
  · intro accepted
    have verdict := verdict decoder secret token
    rw [accepted] at verdict
    cases verdict with
    | told parts names signs tells => exact ⟨_, _, _, parts, names.dotless, names, signs, tells⟩
  · rintro ⟨head, payload, signature, parts, -, names, signs, tells⟩
    exact parts.verify_told names signs tells

theorem verify_signature_iff :
    verify decoder secret token = .error .signature ↔ ∃ head payload signature algorithm,
      Parts token head payload signature ∧ Names head algorithm ∧
        (algorithm ≠ "HS256" ∨ ¬Signs secret (head ++ "." ++ payload) signature) := by
  constructor
  · intro refused
    have verdict := verdict decoder secret token
    rw [refused] at verdict
    cases verdict with
    | unsigned parts names unsigned => exact ⟨_, _, _, _, parts, names, unsigned⟩
  · rintro ⟨head, payload, signature, algorithm, parts, names, unsigned⟩
    exact parts.verify_unsigned names unsigned

theorem verify_malformed_iff :
    (∃ malformation, verify decoder secret token = .error (.malformed malformation)) ↔
      token.toList.count '.' < 2 ∨ ∃ head payload signature, Parts token head payload signature ∧
        ((∀ algorithm, ¬Names head algorithm) ∨
          Names head "HS256" ∧ Signs secret (head ++ "." ++ payload) signature ∧
            ∀ claims, ¬Tells decoder payload claims) := by
  constructor
  · rintro ⟨malformation, refused⟩
    have verdict := verdict decoder secret token
    rw [refused] at verdict
    cases verdict with
    | few few => exact .inl few
    | unheaded parts unheaded => exact .inr ⟨_, _, _, parts, .inl unheaded⟩
    | untold parts names signs untold => exact .inr ⟨_, _, _, parts, .inr ⟨names, signs, untold⟩⟩
  · rintro (few | ⟨head, payload, signature, parts, unheaded | ⟨names, signs, untold⟩⟩)
    · exact ⟨_, verify_few few⟩
    · obtain ⟨malformation, answer⟩ := verify_unheaded secret unheaded
      exact ⟨malformation, answer decoder parts⟩
    · exact parts.verify_untold names signs untold

theorem rejected_of_changed {β : Type} {claims : α} {front signature other : String} (dotless : '.' ∉ signature.toList)
    (accepted : verify decoder secret (front ++ "." ++ signature) = .ok claims) (changed : other ≠ signature)
    (reader : Decoder β) : ∃ error, verify reader secret (front ++ "." ++ other) = .error error := by
  obtain ⟨head, payload, last, parts, dotlessHead, -, signs, -⟩ := verify_ok_iff.mp accepted
  obtain ⟨rfl, rfl⟩ := message_inj dotless parts.signature parts.whole
  cases again : verify reader secret (head ++ "." ++ payload ++ "." ++ other) with
  | error error => exact ⟨error, rfl⟩
  | ok told =>
    obtain ⟨head', payload', other', parts', dotlessHead', -, signs', -⟩ := verify_ok_iff.mp again
    -- Both texts have two dots, and both have these two, so there is none in the other signature.
    have dots := parts'.count
    rw [toList_message, toList_message, List.count_append, List.count_append, List.count_cons_self,
      List.count_cons_self, List.count_eq_zero.mpr dotlessHead'] at dots
    have dotlessOther : '.' ∉ other.toList := List.count_eq_zero.mp (by omega)
    obtain ⟨same, rfl⟩ := message_inj dotlessOther parts'.signature parts'.whole
    rw [← same] at signs'
    exact absurd (signs.unique signs') changed

theorem unsigned_judged_by_head (secret : Octets) (head : String) :
    ∃ error, ∀ {β : Type} (reader : Decoder β) {token payload signature : String},
      Parts token head payload signature → ¬Signs secret (head ++ "." ++ payload) signature →
      verify reader secret token = .error error := by
  by_cases headed : ∃ algorithm, Names head algorithm
  · obtain ⟨algorithm, names⟩ := headed
    exact ⟨.signature, fun reader _ _ _ parts unsigned => parts.verify_unsigned names (.inr unsigned)⟩
  · obtain ⟨malformation, answer⟩ := verify_unheaded secret (not_exists.mp headed)
    exact ⟨.malformed malformation, fun reader _ _ _ parts _ => answer reader parts⟩

/-- For every text and whatever claims are read: it is accepted with claims just if it has three segments without dots,
a header for HS256, the signature of the first two under the secret, and these claims in the middle. It has no valid
signature just if its header is read and names another algorithm or the last part is another text. It is malformed just
if it has fewer than two dots, or no header, or a valid signature on what cannot be read. With any other signature in
the place of its own an accepted text is rejected, and where the signature does not match, the claims have no part in
the answer. -/
theorem verify_decides (decoder : Decoder α) (secret : Octets) (token : String) :
    (∀ claims, verify decoder secret token = .ok claims ↔ ∃ head payload signature,
      Parts token head payload signature ∧ '.' ∉ head.toList ∧ Names head "HS256" ∧
        Signs secret (head ++ "." ++ payload) signature ∧ Tells decoder payload claims) ∧
    (verify decoder secret token = .error .signature ↔ ∃ head payload signature algorithm,
      Parts token head payload signature ∧ Names head algorithm ∧
        (algorithm ≠ "HS256" ∨ ¬Signs secret (head ++ "." ++ payload) signature)) ∧
    ((∃ malformation, verify decoder secret token = .error (.malformed malformation)) ↔
      token.toList.count '.' < 2 ∨ ∃ head payload signature, Parts token head payload signature ∧
        ((∀ algorithm, ¬Names head algorithm) ∨
          Names head "HS256" ∧ Signs secret (head ++ "." ++ payload) signature ∧
            ∀ claims, ¬Tells decoder payload claims)) ∧
    (∀ front signature claims, token = front ++ "." ++ signature → '.' ∉ signature.toList →
      verify decoder secret token = .ok claims → ∀ other, other ≠ signature → ∀ {β : Type} (reader : Decoder β),
        ∃ error, verify reader secret (front ++ "." ++ other) = .error error) ∧
    ∀ head, ∃ error, ∀ {β : Type} (reader : Decoder β) {text payload signature : String},
      Parts text head payload signature → ¬Signs secret (head ++ "." ++ payload) signature →
        verify reader secret text = .error error := by
  refine ⟨fun claims => verify_ok_iff, verify_signature_iff, verify_malformed_iff, ?_, unsigned_judged_by_head secret⟩
  rintro front signature claims rfl dotless accepted other changed β reader
  exact rejected_of_changed dotless accepted changed reader

end LoginGateway.SignedToken
