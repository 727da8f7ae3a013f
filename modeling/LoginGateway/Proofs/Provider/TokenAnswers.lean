import LoginGateway.Proofs.Provider.Answers

namespace LoginGateway

open Http Json

inductive Expires (now : Instant) : Option Int64 → Option Instant → Prop where
  | untold : Expires now none none
  | spent {seconds : Int64} (spent : seconds.toInt ≤ 0) : Expires now (some seconds) none
  | after {seconds : Int64} (positive : 0 < seconds.toInt) :
      Expires now (some seconds) (some ⟨now.seconds + seconds.toInt, now.nanos⟩)

theorem Expires.not_before {now expiry : Instant} {expiresIn : Option Int64}
    (expires : Expires now expiresIn (some expiry)) : ¬expiry.Before now := by
  cases expires with
  | after positive =>
    simp only [Instant.Before]
    omega

/-- So many seconds are told that no instant is that late. -/
def Endless (now : Instant) (expiresIn : Option Int64) : Prop :=
  ∃ seconds, expiresIn = some seconds ∧ Instant.greatestSecond < now.seconds + seconds.toInt

theorem Instant.eq_of_after? {now later : Instant} {span : Int} (moved : now.after? span = some later) :
    later = ⟨now.seconds + span, now.nanos⟩ := by
  unfold after? at moved
  split at moved
  · exact (Option.some.inj moved).symm
  · cases moved

/-- Between any two instants there are fewer seconds than a span may have. -/
theorem Instant.after?_eq_none_iff {now : Instant} (current : InRange now.seconds) {span : Int} (positive : 0 < span) :
    now.after? span = none ↔ greatestSecond < now.seconds + span := by
  have spans : greatestSecond - leastSecond ≤ greatestSpan := by decide
  obtain ⟨least, greatest⟩ := current
  unfold after? InRange
  simp only [ite_eq_right_iff, reduceCtorEq, imp_false]
  omega

namespace TokenResponse

variable {now : Instant} {expiresIn : Option Int64}

theorem expiryOf_cases (now : Instant) (expiresIn : Option Int64) :
    (∃ expiry, expiryOf now expiresIn = .ok expiry ∧ Expires now expiresIn expiry) ∨
    expiryOf now expiresIn = .error .crash ∧
      ∃ seconds, expiresIn = some seconds ∧ 0 < seconds.toInt ∧ now.after? seconds.toInt = none := by
  cases expiresIn with
  | none => exact .inl ⟨none, rfl, .untold⟩
  | some seconds =>
    simp only [expiryOf]
    by_cases positive : 0 < seconds.toInt
    · rw [if_pos positive]
      cases moved : now.after? seconds.toInt with
      | none => exact .inr ⟨rfl, seconds, rfl, positive, moved⟩
      | some expiry =>
        rw [Instant.eq_of_after? moved]
        exact .inl ⟨_, rfl, .after positive⟩
    · rw [if_neg positive]
      exact .inl ⟨none, rfl, .spent (by omega)⟩

theorem expires_of_expiryOf {expiry : Option Instant} (made : expiryOf now expiresIn = .ok expiry) :
    Expires now expiresIn expiry := by
  rcases expiryOf_cases now expiresIn with ⟨other, made', expires⟩ | ⟨crashed, -⟩
  · cases made.symm.trans made'
    exact expires
  · cases made.symm.trans crashed

theorem expiryOf_ne {error : ProviderError} : expiryOf now expiresIn ≠ .error (.error error) := by
  intro failed
  rcases expiryOf_cases now expiresIn with ⟨expiry, made, -⟩ | ⟨crashed, -⟩
  · cases failed.symm.trans made
  · cases failed.symm.trans crashed

theorem expiryOf_crash_iff : expiryOf now expiresIn = .error .crash ↔
    ∃ seconds, expiresIn = some seconds ∧ 0 < seconds.toInt ∧ now.after? seconds.toInt = none := by
  constructor
  · intro crashed
    rcases expiryOf_cases now expiresIn with ⟨expiry, made, -⟩ | ⟨-, endless⟩
    · cases crashed.symm.trans made
    · exact endless
  · rintro ⟨seconds, rfl, positive, unmoved⟩
    simp only [expiryOf, positive, if_true, unmoved]

theorem endless_iff (current : Instant.InRange now.seconds) :
    Endless now expiresIn ↔ expiryOf now expiresIn = .error .crash := by
  rw [expiryOf_crash_iff]
  constructor
  · rintro ⟨seconds, told, late⟩
    have greatest := current.2
    have positive : 0 < seconds.toInt := by omega
    exact ⟨seconds, told, positive, (Instant.after?_eq_none_iff current positive).mpr late⟩
  · rintro ⟨seconds, told, positive, unmoved⟩
    exact ⟨seconds, told, (Instant.after?_eq_none_iff current positive).mp unmoved⟩

end TokenResponse

def TokenResponse.credential (response : TokenResponse) (expiry : Option Instant) : Credential :=
  ⟨response.accessToken, response.tokenType.getD "", nonempty response.refreshToken, expiry⟩

def TokenResponse.exchange (response : TokenResponse) (expiry : Option Instant) : Exchanged :=
  ⟨response.credential expiry, nonempty response.idToken⟩

def TokenResponse.refreshed (refreshToken : String) (response : TokenResponse) (expiry : Option Instant) : Credential :=
  { response.credential expiry with refreshToken := some ((nonempty response.refreshToken).getD refreshToken) }

theorem TokenResponse.exchanged_eq (response : TokenResponse) (now : Instant) :
    response.exchanged now = (expiryOf now response.expiresIn).map response.exchange := by
  unfold exchanged
  cases expiryOf now response.expiresIn <;> rfl

namespace ProviderClient

def answer (client : ProviderClient) (form : List (String × String)) (wire : Wire) : Except ProviderError TokenResponse :=
  (fetch wire (client.request? form) .tokenResponse TokenResponse.decoder).1

theorem answer_send {client : ProviderClient} {form : List (String × String)} {request : Request}
    (asked : client.request? form = some request) (wire : Wire) :
    client.answer form wire = (wire.send request).1.read .tokenResponse TokenResponse.decoder := by
  rw [answer, asked, fetch_send]

def obtained {α : Type} (client : ProviderClient) (now : Instant) (form : List (String × String)) (wire : Wire)
    (made : TokenResponse → Option Instant → α) : Except (Failure ProviderError) α := do
  let response ← (client.answer form wire).mapError .error
  (TokenResponse.expiryOf now response.expiresIn).map (made response)

variable {client : ProviderClient} {now : Instant} {wire : Wire}

theorem requestToken_eq (client : ProviderClient) (now : Instant) (form : List (String × String)) (wire : Wire) :
    (client.requestToken now form wire).1 = client.obtained now form wire TokenResponse.exchange := by
  unfold requestToken obtained answer
  rcases fetch wire (client.request? form) .tokenResponse TokenResponse.decoder with ⟨error | response, after⟩
  · rfl
  · exact TokenResponse.exchanged_eq response now

theorem refresh_unusable {credential : Credential} (unusable : credential.usableRefreshToken = none) :
    client.refresh now credential wire = (.error (.error .noRefreshToken), wire) := by
  unfold refresh
  rw [unusable]

theorem obtained_map {α β : Type} (form : List (String × String)) (made : TokenResponse → Option Instant → α)
    (f : α → β) :
    (client.obtained now form wire made).map f =
      client.obtained now form wire fun answer expiry => f (made answer expiry) := by
  unfold obtained
  cases client.answer form wire with
  | error error => rfl
  | ok response =>
    rw [Except.mapError, ok_bind, ok_bind]
    cases TokenResponse.expiryOf now response.expiresIn <;> rfl

theorem refresh_eq (now : Instant) (wire : Wire) {credential : Credential} {token : String}
    (usable : credential.usableRefreshToken = some token) :
    (client.refresh now credential wire).1 =
      client.obtained now (client.refreshForm token) wire (TokenResponse.refreshed token) := by
  rw [refresh_requested usable, requestToken_eq, obtained_map]
  rfl

theorem obtained_crash_iff {α : Type} {form : List (String × String)} {made : TokenResponse → Option Instant → α} :
    client.obtained now form wire made = .error .crash ↔ ∃ response seconds, client.answer form wire = .ok response ∧
      response.expiresIn = some seconds ∧ 0 < seconds.toInt ∧ now.after? seconds.toInt = none := by
  unfold obtained
  cases client.answer form wire with
  | error error => simp [Except.mapError]
  | ok response =>
    have crash : TokenResponse.expiryOf now response.expiresIn = .error .crash ↔ _ := TokenResponse.expiryOf_crash_iff
    rw [Except.mapError, ok_bind]
    simp only [Except.ok.injEq, exists_and_left, exists_eq_left', ← crash]
    cases TokenResponse.expiryOf now response.expiresIn <;> simp [Except.map]

inductive Ends {α : Type} (client : ProviderClient) (now : Instant) (form : List (String × String)) (wire : Wire)
    (made : TokenResponse → Option Instant → α) : Except (Failure ProviderError) α → Prop where
  | refused {error : ProviderError} (unanswered : client.answer form wire = .error error) :
      Ends client now form wire made (.error (.error error))
  | granted {response : TokenResponse} {expiry : Option Instant} (answered : client.answer form wire = .ok response)
      (bounded : ¬Endless now response.expiresIn) (expires : Expires now response.expiresIn expiry) :
      Ends client now form wire made (.ok (made response expiry))
  | crash {response : TokenResponse} (answered : client.answer form wire = .ok response)
      (endless : Endless now response.expiresIn) : Ends client now form wire made (.error .crash)

theorem obtained_ends {α : Type} (client : ProviderClient) (current : Instant.InRange now.seconds)
    (form : List (String × String)) (wire : Wire) (made : TokenResponse → Option Instant → α) :
    Ends client now form wire made (client.obtained now form wire made) := by
  unfold obtained
  cases answered : client.answer form wire with
  | error error => exact .refused answered
  | ok response =>
    rw [Except.mapError, ok_bind]
    have endless : Endless now response.expiresIn ↔ _ := TokenResponse.endless_iff current
    rcases TokenResponse.expiryOf_cases now response.expiresIn with ⟨expiry, ends, expires⟩ | ⟨ends, -⟩
    · rw [ends] at endless ⊢
      exact .granted answered (mt endless.mp nofun) expires
    · rw [ends]
      exact .crash answered (endless.mpr ends)

/-- At every time and for every answer, of whatever status and body: an exchange of a code and a refresh either tell an
error, or have a credential that expires as many seconds from now as the answer says if that is a positive number, and
never if it is not or if there is no number. They crash if no instant is that late, and then only. -/
theorem token_requests_end (client : ProviderClient) (now : Instant) (current : Instant.InRange now.seconds)
    (wire : Wire) :
    (∀ code, Ends client now (client.codeForm code) wire TokenResponse.exchange
      (client.exchangeCode now code wire).1) ∧
    ∀ credential,
      (credential.usableRefreshToken = none →
        client.refresh now credential wire = (.error (.error .noRefreshToken), wire)) ∧
      ∀ token, credential.usableRefreshToken = some token →
        Ends client now (client.refreshForm token) wire (TokenResponse.refreshed token)
          (client.refresh now credential wire).1 := by
  refine ⟨fun code => ?_, fun credential => ⟨refresh_unusable, fun token usable => ?_⟩⟩
  · rw [exchangeCode, requestToken_eq]
    exact client.obtained_ends current (client.codeForm code) wire TokenResponse.exchange
  · rw [refresh_eq now wire usable]
    exact client.obtained_ends current (client.refreshForm token) wire (TokenResponse.refreshed token)

theorem token_requests_end_last :
    let client : ProviderClient := ⟨"http://idp/auth", "http://idp/token", "gateway", "s3cret", "http://gate/callback"⟩
    let lifetime := Instant.greatestSecond - 1000
    let answer := Json.object [("access_token", Json.quote "new"), ("expires_in", Json.integer lifetime)]
    let wire : Wire := ⟨fun _ => .answered ⟨200, some answer⟩, []⟩
    Instant.InRange 1000 ∧
      (client.refresh ⟨1000, 5⟩ ⟨"old", "Bearer", some "refresh", none⟩ wire).1 =
        .ok ⟨"new", "", some "refresh", some ⟨Instant.greatestSecond, 5⟩⟩ := by
  intro client lifetime answer wire
  have current : Instant.InRange 1000 := by decide
  have answered : client.answer (client.refreshForm "refresh") wire =
      .ok ⟨"new", none, none, some (Int64.ofInt lifetime), none⟩ := by decide +kernel
  obtain ⟨-, refreshes⟩ := token_requests_end client ⟨1000, 5⟩ current wire
  have ends := (refreshes ⟨"old", "Bearer", some "refresh", none⟩).2 "refresh" rfl
  refine ⟨current, ?_⟩
  generalize (client.refresh ⟨1000, 5⟩ ⟨"old", "Bearer", some "refresh", none⟩ wire).1 = outcome at ends
  cases ends with
  | refused unanswered => cases answered.symm.trans unanswered
  | granted granted bounded expires =>
    cases answered.symm.trans granted
    cases expires with
    | spent spent => exact absurd spent (by decide)
    | after positive => decide +kernel
  | crash granted endless =>
    cases answered.symm.trans granted
    obtain ⟨_, told, later⟩ := endless
    cases told
    exact absurd later (by decide)

/-- An answer that is good for 2⁶³ - 1 seconds leaves neither a credential nor an error. -/
theorem token_requests_end_never :
    let client : ProviderClient := ⟨"http://idp/auth", "http://idp/token", "gateway", "s3cret", "http://gate/callback"⟩
    let answer := Json.object [("access_token", Json.quote "new"), ("expires_in", Json.integer 0x7FFFFFFFFFFFFFFF)]
    let wire : Wire := ⟨fun _ => .answered ⟨200, some answer⟩, []⟩
    let exchanged := (client.exchangeCode ⟨1000, 0⟩ "code" wire).1
    let refreshed := (client.refresh ⟨1000, 0⟩ ⟨"old", "Bearer", some "refresh", none⟩ wire).1
    ¬((∃ tokens, exchanged = .ok tokens) ∨ ∃ error, exchanged = .error (.error error)) ∧
      ¬((∃ credential, refreshed = .ok credential) ∨ ∃ error, refreshed = .error (.error error)) := by
  intro client answer wire exchanged refreshed
  have crashed : exchanged = .error .crash := by decide +kernel
  have crashed' : refreshed = .error .crash := by decide +kernel
  rw [crashed, crashed']
  constructor <;> rintro (⟨_, other⟩ | ⟨_, other⟩) <;> cases other

end ProviderClient

theorem TokenResponse.nonempty_eq_some_iff {text : Option String} {content : String} :
    nonempty text = some content ↔ text = some content ∧ content ≠ "" := by
  simp [nonempty, Option.filter_eq_some_iff]

def Credential.Refreshable (credential : Credential) : Prop :=
  ∃ token, credential.refreshToken = some token ∧ token ≠ ""

theorem Credential.usableRefreshToken_eq_some_iff {credential : Credential} {token : String} :
    credential.usableRefreshToken = some token ↔ credential.refreshToken = some token ∧ token ≠ "" :=
  TokenResponse.nonempty_eq_some_iff

theorem Credential.usableRefreshToken_eq_none_iff {credential : Credential} :
    credential.usableRefreshToken = none ↔ ¬credential.Refreshable := by
  rw [Option.eq_none_iff_forall_ne_some, Refreshable, not_exists]
  exact forall_congr' fun token => not_congr usableRefreshToken_eq_some_iff

namespace ProviderClient

/-- What a refresh makes of a credential: all is taken from the answer, and the old refresh token is carried over if the
answer has none that is not empty. -/
inductive Renewal (client : ProviderClient) (now : Instant) (wire : Wire) (old : Credential) : Credential → Prop where
  | rotated {token new : String} {response : TokenResponse} {expiry : Option Instant}
      (held : old.refreshToken = some token ∧ token ≠ "")
      (answered : client.answer (client.refreshForm token) wire = .ok response)
      (sent : response.refreshToken = some new ∧ new ≠ "") (expires : Expires now response.expiresIn expiry) :
      Renewal client now wire old ⟨response.accessToken, response.tokenType.getD "", some new, expiry⟩
  | carried {token : String} {response : TokenResponse} {expiry : Option Instant}
      (held : old.refreshToken = some token ∧ token ≠ "")
      (answered : client.answer (client.refreshForm token) wire = .ok response)
      (unsent : ∀ new, response.refreshToken = some new → new = "") (expires : Expires now response.expiresIn expiry) :
      Renewal client now wire old ⟨response.accessToken, response.tokenType.getD "", some token, expiry⟩

variable {client : ProviderClient} {now : Instant} {wire : Wire} {credential refreshed : Credential}

theorem Renewal.refreshable (renewal : client.Renewal now wire credential refreshed) : refreshed.Refreshable := by
  cases renewal with
  | rotated held answered sent expires => exact ⟨_, rfl, sent.2⟩
  | carried held answered unsent expires => exact ⟨_, rfl, held.2⟩

theorem refresh_renews (succeeded : (client.refresh now credential wire).1 = .ok refreshed) :
    client.Renewal now wire credential refreshed := by
  cases usable : credential.usableRefreshToken with
  | none =>
    rw [refresh_unusable usable] at succeeded
    cases succeeded
  | some token =>
    rw [refresh_eq now wire usable] at succeeded
    obtain ⟨response, answered, made⟩ := of_bind_ok succeeded
    obtain ⟨expiry, expires, rfl⟩ := of_map_ok made
    have held := Credential.usableRefreshToken_eq_some_iff.mp usable
    have answered := of_mapError_ok answered
    have expires := TokenResponse.expires_of_expiryOf expires
    cases sent : TokenResponse.nonempty response.refreshToken with
    | some new =>
      rw [TokenResponse.refreshed, sent]
      exact .rotated held answered (TokenResponse.nonempty_eq_some_iff.mp sent) expires
    | none =>
      rw [TokenResponse.refreshed, sent]
      refine .carried held answered (fun new told => ?_) expires
      by_contra there
      cases sent.symm.trans (TokenResponse.nonempty_eq_some_iff.mpr ⟨told, there⟩)

theorem answer_ne (form : List (String × String)) (wire : Wire) : client.answer form wire ≠ .error .noRefreshToken := by
  intro failed
  cases asked : client.request? form with
  | none =>
    rw [answer, asked] at failed
    cases failed
  | some request =>
    rw [answer_send asked] at failed
    have told := Reaction.told_read .tokenResponse TokenResponse.decoder (wire.send request).1
    rw [failed] at told
    generalize (wire.send request).1 = reaction at told
    cases told

theorem refresh_noRefreshToken_iff :
    (client.refresh now credential wire).1 = .error (.error .noRefreshToken) ↔ ¬credential.Refreshable := by
  rw [← Credential.usableRefreshToken_eq_none_iff]
  constructor
  · intro failed
    cases usable : credential.usableRefreshToken with
    | none => rfl
    | some token =>
      rw [refresh_eq now wire usable, obtained] at failed
      cases answered : client.answer (client.refreshForm token) wire with
      | error error =>
        rw [answered] at failed
        cases failed
        exact absurd answered (answer_ne _ wire)
      | ok response =>
        rw [answered, Except.mapError, ok_bind] at failed
        cases expires : TokenResponse.expiryOf now response.expiresIn with
        | error failure =>
          rw [expires] at failed
          cases failed
          exact absurd expires TokenResponse.expiryOf_ne
        | ok expiry =>
          rw [expires] at failed
          cases failed
  · intro unusable
    rw [refresh_unusable unusable]

end ProviderClient

end LoginGateway
