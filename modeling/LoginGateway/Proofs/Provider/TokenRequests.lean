import LoginGateway.Proofs.Encoding.Form
import LoginGateway.Proofs.Provider.TokenAnswers

namespace LoginGateway

open Http Json

theorem Expires.unique {now : Instant} {expiresIn : Option Int64} {expiry other : Option Instant}
    (expires : Expires now expiresIn expiry) (expires' : Expires now expiresIn other) : expiry = other := by
  cases expires <;> cases expires' <;> first | rfl | omega

structure Http.Request.Posts (request : Request) (url : Url) (pairs : List (String × String)) : Prop where
  method : request.method = "POST"
  url : request.url = url
  contentType : request.headers.first? "content-type" = some (Text.encode "application/x-www-form-urlencoded")
  body : Form.decode request.body = pairs

namespace ProviderClient

variable {α : Type} {client : ProviderClient} {url : Url} {request : Request} {now : Instant} {wire : Wire}
  {form : List (String × String)} {made : TokenResponse → Option Instant → α} {reaction : Reaction}
  {outcome : Except (Failure ProviderError) α}

theorem request?_posts (reachable : reachable? client.tokenEndpoint = some url) (form : List (String × String)) :
    ∃ request, client.request? form = some request ∧ request.received.Posts url form := by
  have untrimmed : Http.received (Text.encode "application/x-www-form-urlencoded") =
      Text.encode "application/x-www-form-urlencoded" := by decide
  unfold request?
  rw [reachable]
  exact ⟨_, rfl, rfl, rfl, congrArg some untrimmed, Form.decode_encode form⟩

theorem requestToken_unreachable (unreachable : reachable? client.tokenEndpoint = none) (now : Instant)
    (form : List (String × String)) (wire : Wire) :
    client.requestToken now form wire = (.error (.error .unreachable), wire) := by
  have unasked : client.request? form = none := by rw [request?, unreachable, Option.map_none]
  rw [requestToken, unasked, fetch]

inductive Obtains (now : Instant) (made : TokenResponse → Option Instant → α) :
    Reaction → Except (Failure ProviderError) α → Prop where
  | dropped : Obtains now made .dropped (.error (.error .unreachable))
  | refused {response : Response} (undone : ¬(200 ≤ response.status ∧ response.status < 300)) :
      Obtains now made (.answered response)
        (.error (.error (.status response.status (response.text?.getD "Unknown error"))))
  | bare {reaction : Reaction} {error : AnswerError} (bare : reaction.Bare TokenResponse.decoder) :
      Obtains now made reaction (.error (.error (.tokenResponse error)))
  | granted {reaction : Reaction} {answer : TokenResponse} {expiry : Option Instant}
      (bears : reaction.Bears TokenResponse.decoder answer) (bounded : ¬Endless now answer.expiresIn)
      (expires : Expires now answer.expiresIn expiry) : Obtains now made reaction (.ok (made answer expiry))
  | endless {reaction : Reaction} {answer : TokenResponse} (bears : reaction.Bears TokenResponse.decoder answer)
      (endless : Endless now answer.expiresIn) : Obtains now made reaction (.error .crash)

theorem Ends.obtains (ends : Ends client now form wire made outcome) (asked : client.request? form = some request) :
    Obtains now made (wire.send request).1 outcome := by
  have read := answer_send asked wire
  generalize (wire.send request).1 = reaction at read ⊢
  cases ends with
  | refused unanswered =>
    have told := Reaction.told_read .tokenResponse TokenResponse.decoder reaction
    rw [← read, unanswered] at told
    cases told with
    | dropped => exact .dropped
    | refused undone => exact .refused undone
    | bare bare => exact .bare bare
  | granted answered bounded expires => exact .granted (Reaction.read_ok_iff.mp (read ▸ answered)) bounded expires
  | crash answered endless => exact .endless (Reaction.read_ok_iff.mp (read ▸ answered)) endless

structure Classified (now : Instant) (made : TokenResponse → Option Instant → α) (reaction : Reaction)
    (outcome : Except (Failure ProviderError) α) : Prop where
  unreachable : outcome = .error (.error .unreachable) ↔ reaction = .dropped
  refused : ∀ code text, outcome = .error (.error (.status code text)) ↔ ∃ response, reaction = .answered response ∧
    ¬(200 ≤ response.status ∧ response.status < 300) ∧ code = response.status ∧
    text = response.text?.getD "Unknown error"
  unusable : (∃ error, outcome = .error (.error (.tokenResponse error))) ↔ reaction.Bare TokenResponse.decoder
  granted : ∀ tokens, outcome = .ok tokens ↔ ∃ answer expiry, reaction.Bears TokenResponse.decoder answer ∧
    ¬Endless now answer.expiresIn ∧ Expires now answer.expiresIn expiry ∧ tokens = made answer expiry
  endless : outcome = .error .crash ↔ ∃ answer, reaction.Bears TokenResponse.decoder answer ∧
    Endless now answer.expiresIn
  others : ∀ error, outcome = .error (.error error) → error = .unreachable ∨
    (∃ code text, error = .status code text) ∨ ∃ cause, error = .tokenResponse cause

theorem Obtains.classified (obtains : Obtains now made reaction outcome) : Classified now made reaction outcome := by
  cases obtains with
  | dropped => constructor <;> simp [Reaction.Bare, Reaction.Bears]
  | refused undone =>
    have unsuccessful := fun least => Nat.not_lt.mp fun greatest => undone ⟨least, greatest⟩
    constructor <;> simp [Reaction.Bare, Reaction.Bears, undone, eq_comm]
    exact unsuccessful
  | bare bare =>
    have unborne answer : ¬reaction.Bears TokenResponse.decoder answer := fun bears => bears.not_bare bare
    obtain ⟨response, rfl, done, -⟩ := id bare
    constructor <;> simp [bare, done, Nat.not_le.mpr done.2, unborne]
  | granted bears bounded expires =>
    have once expiry : Expires now _ expiry ↔ expiry = _ :=
      ⟨fun expires' => expires'.unique expires, fun same => same ▸ expires⟩
    have full := bears.not_bare
    have only := bears.eq_iff
    obtain ⟨response, body, rfl, done, -⟩ := id bears
    constructor <;> simp [full, done, Nat.not_le.mpr done.2, only, once, bounded, eq_comm]
  | endless bears endless =>
    have full := bears.not_bare
    have only := bears.eq_iff
    obtain ⟨response, body, rfl, done, -⟩ := id bears
    constructor <;> simp [full, done, Nat.not_le.mpr done.2, only, endless]

theorem exchangeCode_obtains (current : Instant.InRange now.seconds) {code : String}
    (asked : client.request? (client.codeForm code) = some request) (wire : Wire) :
    Obtains now TokenResponse.exchange (wire.send request).1 (client.exchangeCode now code wire).1 ∧
      (client.exchangeCode now code wire).2 = (wire.send request).2 := by
  have ends := client.obtained_ends current (client.codeForm code) wire TokenResponse.exchange
  rw [← requestToken_eq] at ends
  exact ⟨ends.obtains asked, by rw [exchangeCode, requestToken_send asked]⟩

theorem refresh_obtains (current : Instant.InRange now.seconds) {credential : Credential} {token : String}
    (usable : credential.usableRefreshToken = some token)
    (asked : client.request? (client.refreshForm token) = some request) (wire : Wire) :
    Obtains now (TokenResponse.refreshed token) (wire.send request).1 (client.refresh now credential wire).1 ∧
      (client.refresh now credential wire).2 = (wire.send request).2 := by
  have ends := client.obtained_ends current (client.refreshForm token) wire (TokenResponse.refreshed token)
  rw [← refresh_eq now wire usable] at ends
  exact ⟨ends.obtains asked, by rw [refresh_requested usable, requestToken_send asked]⟩

/-- For all texts: an exchange of a code and a refresh with a refresh token that is not empty post one request to the
token endpoint, and its form is read as the pairs of just these texts. The reaction tells what comes of it. Nothing is
sent, which is told as well, if there is no way to reach the endpoint's URL. -/
theorem token_requests_classified (client : ProviderClient) (now : Instant) (current : Instant.InRange now.seconds)
    (wire : Wire) :
    (∀ url, reachable? client.tokenEndpoint = some url →
      (∀ code, ∃ request, request.Posts url [("grant_type", "authorization_code"), ("code", code),
          ("redirect_uri", client.redirectUri), ("client_id", client.clientId),
          ("client_secret", client.clientSecret)] ∧
        (client.exchangeCode now code wire).2 = { wire with sent := request :: wire.sent } ∧
        Classified now TokenResponse.exchange (wire.react (request :: wire.sent))
          (client.exchangeCode now code wire).1) ∧
      ∀ credential token, credential.refreshToken = some token → token ≠ "" →
        ∃ request, request.Posts url [("grant_type", "refresh_token"), ("refresh_token", token),
            ("client_id", client.clientId), ("client_secret", client.clientSecret)] ∧
          (client.refresh now credential wire).2 = { wire with sent := request :: wire.sent } ∧
          Classified now (TokenResponse.refreshed token) (wire.react (request :: wire.sent))
            (client.refresh now credential wire).1) ∧
    (reachable? client.tokenEndpoint = none →
      (∀ code, client.exchangeCode now code wire = (.error (.error .unreachable), wire)) ∧
      ∀ credential token, credential.refreshToken = some token → token ≠ "" →
        client.refresh now credential wire = (.error (.error .unreachable), wire)) := by
  refine ⟨fun url reachable => ⟨fun code => ?_, fun credential token held filled => ?_⟩,
    fun unreachable => ⟨fun code => ?_, fun credential token held filled => ?_⟩⟩
  · obtain ⟨request, asked, posts⟩ := request?_posts reachable (client.codeForm code)
    obtain ⟨obtains, after⟩ := exchangeCode_obtains current asked wire
    exact ⟨request.received, posts, after, obtains.classified⟩
  · have usable := Credential.usableRefreshToken_eq_some_iff.mpr ⟨held, filled⟩
    obtain ⟨request, asked, posts⟩ := request?_posts reachable (client.refreshForm token)
    obtain ⟨obtains, after⟩ := refresh_obtains current usable asked wire
    exact ⟨request.received, posts, after, obtains.classified⟩
  · rw [exchangeCode, requestToken_unreachable unreachable]
  · have usable := Credential.usableRefreshToken_eq_some_iff.mpr ⟨held, filled⟩
    rw [refresh_requested usable, requestToken_unreachable unreachable]
    rfl

theorem token_requests_classified_signs :
    let client : ProviderClient := ⟨"http://idp/auth", "http://idp/token", "a&b", "x=1&code=ü%", "http://gate/callback"⟩
    let answer := Json.object [("access_token", Json.quote "new"), ("refresh_token", Json.quote ""),
      ("id_token", Json.quote "")]
    let wire : Wire := ⟨fun _ => .answered ⟨200, some answer⟩, []⟩
    Instant.InRange 1000 ∧ ∃ url request, reachable? client.tokenEndpoint = some url ∧
      request.Posts url [("grant_type", "authorization_code"), ("code", "c+d&client_id=e"),
        ("redirect_uri", "http://gate/callback"), ("client_id", "a&b"), ("client_secret", "x=1&code=ü%")] ∧
      (client.exchangeCode ⟨1000, 5⟩ "c+d&client_id=e" wire).2.sent = [request] ∧
      (client.exchangeCode ⟨1000, 5⟩ "c+d&client_id=e" wire).1 = .ok ⟨⟨"new", "", none, none⟩, none⟩ := by
  intro client answer wire
  have current : Instant.InRange 1000 := by decide
  obtain ⟨url, reachable⟩ : ∃ url, reachable? client.tokenEndpoint = some url :=
    Option.isSome_iff_exists.mp (by decide +kernel)
  have answered : decode TokenResponse.decoder answer = .ok ⟨"new", none, some "", none, some ""⟩ := by decide +kernel
  have bears := fun sent : List Request => (⟨⟨200, some answer⟩, answer, rfl, by decide, rfl, answered⟩ :
    (wire.react sent).Bears TokenResponse.decoder ⟨"new", none, some "", none, some ""⟩)
  obtain ⟨request, posts, after, classified⟩ :=
    ((token_requests_classified client ⟨1000, 5⟩ current wire).1 url reachable).1 "c+d&client_id=e"
  refine ⟨current, url, request, reachable, posts, congrArg Wire.sent after, ?_⟩
  exact (classified.granted _).mpr ⟨_, none, bears _, (fun ⟨_, told, _⟩ => nomatch told), .untold, rfl⟩

end ProviderClient

end LoginGateway
