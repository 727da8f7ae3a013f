import LoginGateway.Proofs.Backend.SecretObjects
import LoginGateway.Proofs.Http.Fields
import LoginGateway.Proofs.Url.Extension

namespace LoginGateway.ClusterSecret

open Http

def isNameChar (c : Char) : Bool := c.isLower || c.isDigit || c == '-' || c == '.'

/-- The name of a namespace or a secret: small letters, digits, hyphens and dots, the first and the last a letter or
digit. -/
structure LegalName (name : String) : Prop where
  nonempty : name ≠ ""
  chars : ∀ c ∈ name.toList, isNameChar c = true
  bare : Text.Bare (fun c => c == '-' || c == '.') name.toList

theorem isNameChar_plain {c : Char} (legal : isNameChar c = true) :
    Url.isPathChar c = true ∧ c ≠ '/' ∧ c ≠ '\\' ∧ c ≠ '%' := by
  have ascii : c.val < 0x80 := by
    unfold isNameChar Char.isLower Char.isDigit at legal
    simp only [Bool.or_eq_true, Bool.and_eq_true, decide_eq_true_eq, beq_iff_eq] at legal
    rcases legal with ((⟨-, most⟩ | ⟨-, most⟩) | rfl) | rfl
    · exact UInt32.lt_of_le_of_lt most (by decide)
    · exact UInt32.lt_of_le_of_lt most (by decide)
    · decide
    · decide
  have each : ∀ octet : UInt8, octet < 0x80 → isNameChar (Char.ofUInt8 octet) = true →
      Url.isPathChar (Char.ofUInt8 octet) = true ∧ Char.ofUInt8 octet ≠ '/' ∧ Char.ofUInt8 octet ≠ '\\' ∧
        Char.ofUInt8 octet ≠ '%' := forall_octet (by decide)
  obtain ⟨octet, small, rfl⟩ := Text.eq_ofUInt8 ascii
  exact each octet small legal

theorem named_of_first {first : Char} (dot : first ≠ '.') (percent : first ≠ '%') (rest : List Char) :
    Url.isDot (first :: rest) = false ∧ Url.isDoubleDot (first :: rest) = false := by
  unfold Url.isDot Url.isDoubleDot
  constructor <;> split <;> simp_all

theorem LegalName.segment {name : String} (legal : LegalName name) : Url.Segment name where
  kept c member := (isNameChar_plain (legal.chars c member)).1
  single c member := ⟨(isNameChar_plain (legal.chars c member)).2.1, (isNameChar_plain (legal.chars c member)).2.2.1⟩
  named := by
    cases letters : name.toList with
    | nil => exact absurd (String.toList_eq_nil_iff.mp letters) legal.nonempty
    | cons first rest =>
      have begins := legal.bare.1 first (by rw [letters]; rfl)
      have plain := isNameChar_plain (legal.chars first (by rw [letters]; exact List.mem_cons_self))
      simp only [Bool.or_eq_false_iff, beq_eq_false_iff_ne] at begins
      exact named_of_first begins.2 plain.2.2.2 rest

def collectionOf (server space : String) : String := server ++ Url.below ["api", "v1", "namespaces", space, "secrets"]

def addressOf (server space name : String) : String :=
  server ++ Url.below ["api", "v1", "namespaces", space, "secrets", name]

theorem collectionUrl_eq (secret : ClusterSecret) : secret.collectionUrl = collectionOf secret.server secret.space := by
  rw [← String.toList_inj]
  simp [collectionUrl, collectionOf, Url.below_cons]

theorem url_eq (secret : ClusterSecret) : secret.url = addressOf secret.server secret.space secret.name := by
  rw [← String.toList_inj]
  simp [url, collectionUrl, addressOf, Url.below_cons]

def LeadsTo (text : String) (url : Url) : Prop :=
  Url.parse? text = some url ∧ (url.scheme = "http" ∨ url.scheme = "https")

/-- Requests for the secret can be sent: to a server of the web, with a token that can stand in a field, and by names
that are legal. -/
structure Addressable (secret : ClusterSecret) : Prop where
  server : ∃ origin, LeadsTo secret.server origin
  plain : ∀ c ∈ secret.server.toList, 0x20 < c.val ∧ c ≠ '?' ∧ c ≠ '#'
  bearer : isValue (Text.encode secret.bearer) = true
  space : LegalName secret.space
  name : LegalName secret.name

theorem collection_segments {space : String} (legal : LegalName space) :
    ∀ segment ∈ ["api", "v1", "namespaces", space, "secrets"], Url.Segment segment := by
  have fixed : ∀ segment ∈ ["api", "v1", "namespaces", "secrets"], LegalName segment := by
    simp only [List.forall_mem_cons]
    refine ⟨?_, ?_, ?_, ?_, nofun⟩ <;> exact ⟨by simp, by simp; decide, by simp, by simp⟩
  simp only [List.forall_mem_cons] at fixed ⊢
  obtain ⟨api, version, spaces, secrets, -⟩ := fixed
  exact ⟨api.segment, version.segment, spaces.segment, legal.segment, secrets.segment, nofun⟩

theorem address_segments {space name : String} (legal : LegalName space ∧ LegalName name) :
    ∀ segment ∈ ["api", "v1", "namespaces", space, "secrets", name], Url.Segment segment := by
  intro segment member
  have parts : segment ∈ ["api", "v1", "namespaces", space, "secrets"] ++ [name] := member
  rcases List.mem_append.mp parts with inner | last
  · exact collection_segments legal.1 segment inner
  · rw [List.mem_singleton.mp last]
    exact legal.2.segment

def sending (secret : ClusterSecret) (method : String) (url : Url) (body : Option Octets) : Request :=
  ⟨method, url,
    [("accept", Text.encode "*/*"), ("authorization", Text.encode ("Bearer " ++ secret.bearer))] ++
      (if body.isSome then [("content-type", Text.encode "application/json")] else []), body.getD []⟩

def asked (secret : ClusterSecret) (method : String) (url : Url) (body : Option Octets) : Request :=
  (secret.sending method url body).received

def answer : Reaction → Option Response
  | .dropped => none
  | .answered response => some response

def having (secret : ClusterSecret) (sent : List Request) : ClusterSecret :=
  { secret with wire := { secret.wire with sent := sent } }

def after (secret : ClusterSecret) (request : Request) : ClusterSecret :=
  secret.having (request :: secret.wire.sent)

theorem Addressable.having {secret : ClusterSecret} (addressable : Addressable secret) (sent : List Request) :
    Addressable (secret.having sent) :=
  ⟨addressable.server, addressable.plain, addressable.bearer, addressable.space, addressable.name⟩

theorem Addressable.exchange_eq {secret : ClusterSecret} (addressable : Addressable secret) (method : String)
    {text : String} {url : Url} (located : LeadsTo text url) (body : Option Octets) :
    secret.exchange method text body =
      (answer (secret.wire.react (secret.asked method url body :: secret.wire.sent)),
        secret.after (secret.asked method url body)) := by
  have value : isValue (Text.encode ("Bearer " ++ secret.bearer)) = true := by
    rw [Text.encode_append, isValue_append, addressable.bearer, Bool.and_true]
    rfl
  have sends : secret.request? method text body = some (secret.sending method url body) := by
    rw [request?, located.1]
    exact if_pos ⟨value, located.2⟩
  have arrives : secret.wire.send (secret.sending method url body) =
      (secret.wire.react (secret.asked method url body :: secret.wire.sent),
        ⟨secret.wire.react, secret.asked method url body :: secret.wire.sent⟩) := rfl
  simp only [exchange, sends, arrives]
  cases secret.wire.react (secret.asked method url body :: secret.wire.sent) <;> rfl

theorem Addressable.located {secret : ClusterSecret} (addressable : Addressable secret) :
    ∃ own collection, LeadsTo secret.url own ∧ LeadsTo secret.collectionUrl collection := by
  obtain ⟨origin, found, web⟩ := addressable.server
  obtain ⟨root, leads⟩ := Url.parse?_below found web addressable.plain
  have own := leads _ (List.cons_ne_nil _ _) (address_segments ⟨addressable.space, addressable.name⟩)
  have collection := leads _ (List.cons_ne_nil _ _) (collection_segments addressable.space)
  exact ⟨_, _, ⟨(congrArg Url.parse? secret.url_eq).trans own, web⟩,
    (congrArg Url.parse? secret.collectionUrl_eq).trans collection, web⟩

def succeeds : Reaction → Bool
  | .dropped => false
  | .answered response => isSuccess response.status

def failure : Reaction → BackendError
  | .dropped => .unreachable
  | .answered response => .status response.status response.complaint

theorem changed_answer (reaction : Reaction) :
    changed (answer reaction) = if succeeds reaction then .ok () else .error (failure reaction) := by
  cases reaction <;> rfl

section Exchanges

variable {secret : ClusterSecret} {own collection : Url}

theorem Addressable.load_eq (addressable : Addressable secret) (leads : LeadsTo secret.url own) :
    Backend.load secret =
      (loaded (answer (secret.wire.react (secret.asked "GET" own none :: secret.wire.sent))),
        secret.after (secret.asked "GET" own none)) := by
  simp only [Backend.load, addressable.exchange_eq "GET" leads]

theorem Addressable.save_eq (addressable : Addressable secret) (leads : LeadsTo secret.url own)
    (leadsToAll : LeadsTo secret.collectionUrl collection) (data : Octets) :
    let put := secret.asked "PUT" own (some (secret.body data))
    let post := secret.asked "POST" collection (some (secret.body data))
    Backend.save secret data =
      if succeeds (secret.wire.react (put :: secret.wire.sent)) then (.ok (), secret.after put)
      else (changed (answer (secret.wire.react (post :: put :: secret.wire.sent))), (secret.after put).after post) := by
  intro put post
  have next : Addressable (secret.after put) := addressable.having _
  have same : LeadsTo (secret.after put).collectionUrl collection := leadsToAll
  simp only [Backend.save, addressable.exchange_eq "PUT" leads, changed_answer]
  by_cases done : succeeds (secret.wire.react (put :: secret.wire.sent)) = true
  · simp only [put, done, if_true]
  · simp only [put, done, next.exchange_eq "POST" same, changed_answer]
    rfl

structure Loads (secret : ClusterSecret) (get : Request) : Prop where
  sends : (Backend.load secret).2.wire.sent = get :: secret.wire.sent
  absent : (Backend.load secret).1 = .ok none ↔
    ∃ response, secret.wire.react (get :: secret.wire.sent) = .answered response ∧ response.status = 404
  present : ∀ blob, (Backend.load secret).1 = .ok (some blob) →
    succeeds (secret.wire.react (get :: secret.wire.sent)) = true
  shown : ∀ response body data, secret.wire.react (get :: secret.wire.sent) = .answered response →
    isSuccess response.status = true → response.body = some body → shownData? body = some data →
      (data.find? dataKey = none → (Backend.load secret).1 = .error (.missingKey dataKey)) ∧
      ∀ encoded, data.find? dataKey = some encoded →
        (∀ blob, Text.encode encoded = Base64.encode Base64.standard blob →
          (Backend.load secret).1 = .ok (some blob)) ∧
        ((∀ blob, Text.encode encoded ≠ Base64.encode Base64.standard blob) →
          (Backend.load secret).1 = .error .notBase64)

structure Saves (secret : ClusterSecret) (data : Octets) (put post : Request) : Prop where
  sends : (Backend.save secret data).2.wire.sent =
    (if succeeds (secret.wire.react (put :: secret.wire.sent)) then [put] else [post, put]) ++ secret.wire.sent
  done : (Backend.save secret data).1 = .ok () ↔
    succeeds (secret.wire.react (put :: secret.wire.sent)) = true ∨
      succeeds (secret.wire.react (post :: put :: secret.wire.sent)) = true
  fails : succeeds (secret.wire.react (put :: secret.wire.sent)) = false →
    succeeds (secret.wire.react (post :: put :: secret.wire.sent)) = false →
      (Backend.save secret data).1 = .error (failure (secret.wire.react (post :: put :: secret.wire.sent)))

theorem ne_404_of_isSuccess {status : Nat} (success : isSuccess status = true) : status ≠ 404 := by
  rintro rfl
  cases success

theorem loaded_eq_none_iff {response : Response} : loaded (some response) = .ok none ↔ response.status = 404 := by
  unfold loaded
  dsimp only
  split
  · rename_i absent
    exact iff_of_true rfl absent
  · rename_i other
    refine iff_of_false ?_ other
    split
    · simp
    · split
      · simp
      · rename_i body _
        cases blobOf body <;> simp [Except.map]

theorem isSuccess_of_loaded {response : Response} {blob : Octets} (found : loaded (some response) = .ok (some blob)) :
    isSuccess response.status = true := by
  unfold loaded at found
  dsimp only at found
  split at found
  · cases found
  · split at found
    · cases found
    · rename_i success
      simpa using success

theorem loaded_shown {response : Response} {body : Octets} (success : isSuccess response.status = true)
    (complete : response.body = some body) : loaded (some response) = (blobOf body).map some := by
  rw [loaded, if_neg (ne_404_of_isSuccess success), success]
  simp only [complete]
  rfl

theorem Addressable.loads (addressable : Addressable secret) (leads : LeadsTo secret.url own) :
    Loads secret (secret.asked "GET" own none) where
  sends := by
    rw [addressable.load_eq leads]
    rfl
  absent := by
    rw [addressable.load_eq leads]
    cases secret.wire.react (secret.asked "GET" own none :: secret.wire.sent) with
    | dropped => simp [answer, loaded]
    | answered response => simp [answer, loaded_eq_none_iff]
  present := by
    rw [addressable.load_eq leads]
    intro blob found
    cases reaction : secret.wire.react (secret.asked "GET" own none :: secret.wire.sent) with
    | dropped =>
      rw [reaction] at found
      cases found
    | answered response =>
      rw [reaction] at found
      exact isSuccess_of_loaded found
  shown := by
    intro response body data answered success complete shown
    rw [addressable.load_eq leads, answered]
    simp only [answer, loaded_shown success complete, blobOf_shown shown]
    refine ⟨fun missing => by rw [missing]; rfl, fun encoded found => ⟨fun blob valid => ?_, fun invalid => ?_⟩⟩
    · simp only [found, (Base64.decode?_eq_some_iff Base64.standard_lawful).mpr valid]
      rfl
    · have refused : Base64.decode? Base64.standard (Text.encode encoded) = none := by
        rw [Option.eq_none_iff_forall_ne_some]
        exact fun blob read => invalid blob ((Base64.decode?_eq_some_iff Base64.standard_lawful).mp read)
      simp only [found, refused]
      rfl

theorem Addressable.saves (addressable : Addressable secret) (leads : LeadsTo secret.url own)
    (leadsToAll : LeadsTo secret.collectionUrl collection) (data : Octets) :
    Saves secret data (secret.asked "PUT" own (some (secret.body data)))
      (secret.asked "POST" collection (some (secret.body data))) where
  sends := by
    rw [addressable.save_eq leads leadsToAll]
    split <;> rfl
  done := by
    rw [addressable.save_eq leads leadsToAll]
    split
    · rename_i first
      simp [first]
    · rename_i first
      simp [first, changed_answer]
  fails := by
    intro first second
    rw [addressable.save_eq leads leadsToAll, if_neg (by simp [first]), changed_answer, if_neg (by simp [second])]

end Exchanges

end LoginGateway.ClusterSecret
