import LoginGateway.Proofs.Gateway.Standing
import LoginGateway.Proofs.Provider.TokenAnswers
import LoginGateway.Proofs.Token.Presented

namespace LoginGateway

open Http

/-- An expiry is named, and the instant is after it. -/
def Credential.Past (credential : Credential) (now : Instant) : Prop :=
  ∃ expiry, credential.expiry = some expiry ∧ expiry.Before now

theorem Credential.expired_iff {credential : Credential} {now : Instant} :
    credential.expired now = true ↔ credential.Past now := by
  unfold expired Past
  cases credential.expiry <;> simp

theorem expiredAt_iff {expiry : Option Int64} {now : Instant} :
    expiredAt expiry now = true ↔ ∃ second, expiry = some second ∧ second.toInt < now.seconds := by
  unfold expiredAt
  cases expiry <;> simp

theorem Http.fetch_wire {α : Type} (wire : Wire) (request : Option Request)
    (useless : AnswerError → ProviderError) (decoder : Json.Decoder α) :
    (fetch wire request useless decoder).2 = match request with
      | some request => (wire.send request).2
      | none => wire := by
  cases request with
  | none => rfl
  | some request => rw [fetch_send]

namespace ProviderClient

def refreshRequest? (client : ProviderClient) (credential : Credential) : Option Request :=
  credential.usableRefreshToken.bind fun token => client.request? (client.refreshForm token)

theorem requestToken_wire (client : ProviderClient) (now : Instant) (form : List (String × String)) (wire : Wire) :
    (client.requestToken now form wire).2 = match client.request? form with
      | some request => (wire.send request).2
      | none => wire := by
  rw [← fetch_wire wire (client.request? form) .tokenResponse TokenResponse.decoder]
  unfold requestToken
  split <;> rename_i fetched <;> rw [fetched]

theorem refresh_wire (client : ProviderClient) (now : Instant) (credential : Credential) (wire : Wire) :
    (client.refresh now credential wire).2 = match client.refreshRequest? credential with
      | some request => (wire.send request).2
      | none => wire := by
  unfold refresh refreshRequest?
  cases credential.usableRefreshToken with
  | none => rfl
  | some token =>
    rw [Option.bind_some, ← client.requestToken_wire now (client.refreshForm token) wire]
    simp only
    split <;> rename_i requested <;> rw [requested]

theorem refreshRequest?_of_ok {client : ProviderClient} {now : Instant} {credential refreshed : Credential}
    {wire : Wire} (succeeded : (client.refresh now credential wire).1 = .ok refreshed) :
    ∃ request, client.refreshRequest? credential = some request := by
  unfold refresh at succeeded
  unfold refreshRequest?
  cases usable : credential.usableRefreshToken with
  | none =>
    rw [usable] at succeeded
    cases succeeded
  | some token =>
    rw [usable] at succeeded
    rw [Option.bind_some]
    cases reachable : client.request? (client.refreshForm token) with
    | some request => exact ⟨request, rfl⟩
    | none =>
      simp only [requestToken, reachable, fetch] at succeeded
      cases succeeded

/-- The provider refreshes the credential for so many seconds that no instant stands for its expiry. -/
def Overlong (client : ProviderClient) (now : Instant) (credential : Credential) (wire : Wire) : Prop :=
  ∃ request response seconds, client.refreshRequest? credential = some request ∧
    (fetch wire (some request) .tokenResponse TokenResponse.decoder).1 = .ok response ∧
    response.expiresIn = some seconds ∧ 0 < seconds.toInt ∧ now.after? seconds.toInt = none

theorem refresh_crash_iff (client : ProviderClient) (now : Instant) (credential : Credential) (wire : Wire) :
    (client.refresh now credential wire).1 = .error .crash ↔ client.Overlong now credential wire := by
  unfold Overlong refreshRequest?
  cases usable : credential.usableRefreshToken with
  | none => simp [refresh_unusable usable]
  | some token =>
    rw [refresh_eq now wire usable, obtained_crash_iff, Option.bind_some, answer]
    cases client.request? (client.refreshForm token) <;> simp [fetch]

end ProviderClient

namespace Gateway

open SnapshotStore (state)

structure Claimed (settings : Settings) (headers : Headers) (token : String) (claims : ApiClaims) : Prop where
  presented : PresentedToken.ofRequest headers settings.tokenCookie = .ok token
  verified : SignedToken.verify ApiClaims.decoder settings.secret token = .ok claims

def Lapsed (claims : ApiClaims) (now : Instant) : Prop :=
  ∃ second, claims.expiry = some second ∧ second.toInt < now.seconds

/-- The request stands for this user, who has this credential. -/
inductive Recognized (settings : Settings) (now : Instant) (headers : Headers) (known : Snapshot) :
    Identity → Credential → Prop where
  | user {token : String} {claims : ApiClaims} {user : String} {credential : Credential}
      (claimed : Claimed settings headers token claims) (current : ¬Lapsed claims now)
      (registered : known.index.userOf? token = some user) (stored : known.users.find? user = some credential) :
      Recognized settings now headers known ⟨user, claims.email⟩ credential

/-- What a request lacks first, of what it takes to stand for a user with a credential. -/
inductive Refused (settings : Settings) (now : Instant) (headers : Headers) (known : Snapshot) : Denial → Prop where
  | noToken {error : PresentedError}
      (absent : PresentedToken.ofRequest headers settings.tokenCookie = .error error) :
      Refused settings now headers known (.noToken error)
  | malformed {token : String} {error : TokenError}
      (presented : PresentedToken.ofRequest headers settings.tokenCookie = .ok token)
      (rejected : SignedToken.verify ApiClaims.decoder settings.secret token = .error error) :
      Refused settings now headers known (.malformed error)
  | expired {token : String} {claims : ApiClaims} (claimed : Claimed settings headers token claims)
      (lapsed : Lapsed claims now) : Refused settings now headers known .expired
  | unknownToken {token : String} {claims : ApiClaims} (claimed : Claimed settings headers token claims)
      (current : ¬Lapsed claims now) (unregistered : known.index.userOf? token = none) :
      Refused settings now headers known .unknownToken
  | noCredential {token : String} {claims : ApiClaims} {user : String}
      (claimed : Claimed settings headers token claims) (current : ¬Lapsed claims now)
      (registered : known.index.userOf? token = some user) (missing : known.users.find? user = none) :
      Refused settings now headers known (.noCredential user)

theorem recognized_or_refused (settings : Settings) (now : Instant) (headers : Headers) (known : Snapshot) :
    (∃ identity credential, Recognized settings now headers known identity credential) ∨
      ∃ denial, Refused settings now headers known denial := by
  cases presented : PresentedToken.ofRequest headers settings.tokenCookie with
  | error error => exact .inr ⟨_, .noToken presented⟩
  | ok token =>
    cases verified : SignedToken.verify ApiClaims.decoder settings.secret token with
    | error error => exact .inr ⟨_, .malformed presented verified⟩
    | ok claims =>
      have claimed : Claimed settings headers token claims := ⟨presented, verified⟩
      by_cases current : Lapsed claims now
      · exact .inr ⟨_, .expired claimed current⟩
      cases registered : known.index.userOf? token with
      | none => exact .inr ⟨_, .unknownToken claimed current registered⟩
      | some user =>
        cases stored : known.users.find? user with
        | none => exact .inr ⟨_, .noCredential claimed current registered stored⟩
        | some credential => exact .inl ⟨_, _, .user claimed current registered stored⟩

variable {σ : Type} [TokenStore σ] [SnapshotStore σ] {settings : Settings} {now : Instant} {headers : Headers}
  {store : σ} {wire : Wire} {identity : Identity} {credential : Credential} {denial : Denial}

theorem Claimed.identify {token : String} {claims : ApiClaims} (claimed : Claimed settings headers token claims) :
    identify settings now headers store =
      if expiredAt claims.expiry now then .error .expired
      else match (state store).index.userOf? token with
        | none => .error .unknownToken
        | some user => match (state store).users.find? user with
          | none => .error (.noCredential user)
          | some credential => .ok (⟨user, claims.email⟩, credential) := by
  unfold Gateway.identify
  simp only [claimed.presented, claimed.verified, Except.mapError, ok_bind]
  split
  · rfl
  · rw [SnapshotStore.userOf, Snapshot.userOf]
    cases (state store).index.userOf? token with
    | none => rfl
    | some user =>
      simp only [ok_bind, SnapshotStore.hasCredential, SnapshotStore.credentialOf, Snapshot.hasCredential,
        Snapshot.credentialOf, Dict.contains]
      cases (state store).users.find? user <;> rfl

theorem Recognized.identify (recognized : Recognized settings now headers (state store) identity credential) :
    identify settings now headers store = .ok (identity, credential) := by
  cases recognized with
  | user claimed current registered stored =>
    have good := mt expiredAt_iff.mp current
    simp only [claimed.identify, good, registered, stored]
    rfl

theorem Refused.identify (refused : Refused settings now headers (state store) denial) :
    identify settings now headers store = .error denial := by
  cases refused with
  | noToken absent =>
    unfold Gateway.identify
    rw [absent]
    rfl
  | malformed presented rejected =>
    unfold Gateway.identify
    rw [presented, Except.mapError, ok_bind, rejected]
    rfl
  | expired claimed lapsed => rw [claimed.identify, if_pos (expiredAt_iff.mpr lapsed)]
  | unknownToken claimed current unregistered =>
    have good := mt expiredAt_iff.mp current
    rw [claimed.identify, if_neg good, unregistered]
  | noCredential claimed current registered missing =>
    have good := mt expiredAt_iff.mp current
    simp only [claimed.identify, good, registered, missing]
    rfl

theorem Recognized.unique {other : Identity} {another : Credential}
    (one : Recognized settings now headers (state store) identity credential)
    (two : Recognized settings now headers (state store) other another) :
    other = identity ∧ another = credential :=
  Prod.mk.inj (Except.ok.inj (two.identify.symm.trans one.identify))

theorem Recognized.not_refused (recognized : Recognized settings now headers (state store) identity credential) :
    ¬Refused settings now headers (state store) denial := fun refused => by
  cases recognized.identify.symm.trans refused.identify

theorem Refused.authorize (refused : Refused settings now headers (state store) denial) :
    authorize settings now headers store wire = (.error (.error denial), store, wire) := by
  unfold Gateway.authorize
  rw [refused.identify]

theorem Recognized.authorize_current
    (recognized : Recognized settings now headers (state store) identity credential) (current : ¬credential.Past now) :
    authorize settings now headers store wire = (.ok identity, store, wire) := by
  have good := mt Credential.expired_iff.mp current
  unfold Gateway.authorize
  simp only [recognized.identify, good]
  rfl

theorem Recognized.authorize_past (recognized : Recognized settings now headers (state store) identity credential)
    (past : credential.Past now) :
    authorize settings now headers store wire =
      ((renew settings now identity.user credential store wire).1.map fun _ => identity,
        (renew settings now identity.user credential store wire).2) := by
  unfold Gateway.authorize
  simp only [recognized.identify, Credential.expired_iff.mpr past, Bool.not_true, Bool.false_eq_true, if_false]
  split <;> rename_i renewed <;> rw [renewed] <;> rfl

omit [SnapshotStore σ] in
theorem renew_store (kept : settings.invalidateOnRefreshFailure = false)
    (failed : ∀ refreshed, (settings.client.refresh now credential wire).1 ≠ .ok refreshed) (user : String) :
    (renew settings now user credential store wire).2.1 = store := by
  unfold renew
  rcases refreshed : settings.client.refresh now credential wire with ⟨(error | _) | refreshed, after⟩
  · simp only [kept]
    rfl
  · rfl
  · rw [refreshed] at failed
    exact absurd rfl (failed _)

theorem renewed_others {user other : String} (different : other ≠ user) (known : Snapshot)
    (result : Except (Failure ProviderError) Credential) :
    (renewed settings user known result).users.find? other = known.users.find? other := by
  unfold renewed
  split
  · exact known.find?_storeCredential_of_ne different _
  · split
    · rw [Snapshot.invalidate, Dict.find?_erase, if_neg different]
    · rfl
  · rfl

theorem renew_sent (user : String) (store : σ) :
    (∃ request, settings.client.refreshRequest? credential = some request ∧
      (renew settings now user credential store wire).2.2.sent = request.received :: wire.sent) ∨
    (renew settings now user credential store wire).2.2 = wire ∧
      ∀ refreshed, (settings.client.refresh now credential wire).1 ≠ .ok refreshed := by
  rw [(renew_spec settings now user credential store wire).2.2, ProviderClient.refresh_wire]
  cases asked : settings.client.refreshRequest? credential with
  | some request => exact .inl ⟨request, rfl, rfl⟩
  | none =>
    refine .inr ⟨rfl, fun refreshed succeeded => ?_⟩
    obtain ⟨request, found⟩ := ProviderClient.refreshRequest?_of_ok succeeded
    cases asked.symm.trans found

/-- What comes of a request for authorization: the result, the store and the wire. -/
structure Decision (settings : Settings) (now : Instant) (headers : Headers) (store : σ) (wire : Wire)
    (outcome : Except (Failure Denial) Identity × σ × Wire) : Prop where
  accepts : ∀ identity, outcome.1 = .ok identity ↔
    ∃ credential, Recognized settings now headers (state store) identity credential ∧
      (credential.Past now → ∃ refreshed, (settings.client.refresh now credential wire).1 = .ok refreshed)
  exhaustive : (∃ denial, Refused settings now headers (state store) denial) ∨
    ∃ identity credential, Recognized settings now headers (state store) identity credential
  refused : ∀ denial, Refused settings now headers (state store) denial →
    outcome = (.error (.error denial), store, wire)
  current : ∀ identity credential, Recognized settings now headers (state store) identity credential →
    ¬credential.Past now → outcome = (.ok identity, store, wire)
  past : ∀ identity credential, Recognized settings now headers (state store) identity credential →
    credential.Past now →
      (outcome.1 = match (settings.client.refresh now credential wire).1 with
        | .ok _ => .ok identity
        | .error (.error error) => .error (.error (.refreshFailed error))
        | .error .crash => .error .crash) ∧
      state outcome.2.1 = renewed settings identity.user (state store)
        (settings.client.refresh now credential wire).1 ∧
      outcome.2.2 = (settings.client.refresh now credential wire).2
  /-- A refresh that fails leaves the store untouched, unless it is set to forget the credential. -/
  untouched : (∀ identity, outcome.1 ≠ .ok identity) → settings.invalidateOnRefreshFailure = false →
    outcome.2.1 = store
  /-- At most one request is sent, with the refresh token of the credential, and not before all else is in order. -/
  sends : outcome.2.2 = wire ∨
    ∃ identity credential request, Recognized settings now headers (state store) identity credential ∧
      credential.Past now ∧ settings.client.refreshRequest? credential = some request ∧
      outcome.2.2.sent = request.received :: wire.sent
  /-- Only an answer with an expiry that no instant stands for leaves the request without a decision. -/
  crashes : outcome.1 = .error .crash ↔
    ∃ identity credential, Recognized settings now headers (state store) identity credential ∧
      credential.Past now ∧ settings.client.Overlong now credential wire
  index : (state outcome.2.1).index = (state store).index
  others : ∀ user, (∀ identity credential, Recognized settings now headers (state store) identity credential →
    user ≠ identity.user) → (state outcome.2.1).users.find? user = (state store).users.find? user

theorem Decision.ofRefused (refused : Refused settings now headers (state store) denial) :
    Decision settings now headers store wire (.error (.error denial), store, wire) where
  accepts identity := by
    refine ⟨nofun, ?_⟩
    rintro ⟨credential, recognized, -⟩
    exact absurd refused recognized.not_refused
  exhaustive := .inl ⟨denial, refused⟩
  refused other refused' := by rw [Except.error.inj (refused.identify.symm.trans refused'.identify)]
  current _ _ recognized := absurd refused recognized.not_refused
  past _ _ recognized := absurd refused recognized.not_refused
  untouched _ _ := rfl
  sends := .inl rfl
  crashes := by
    refine ⟨nofun, ?_⟩
    rintro ⟨identity, credential, recognized, -⟩
    exact absurd refused recognized.not_refused
  index := rfl
  others _ _ := rfl

theorem Decision.ofCurrent (recognized : Recognized settings now headers (state store) identity credential)
    (current : ¬credential.Past now) : Decision settings now headers store wire (.ok identity, store, wire) where
  accepts other := by
    constructor
    · intro same
      cases same
      exact ⟨credential, recognized, fun past => absurd past current⟩
    · rintro ⟨another, recognized', -⟩
      rw [(recognized.unique recognized').1]
  exhaustive := .inr ⟨identity, credential, recognized⟩
  refused _ refused := absurd refused recognized.not_refused
  current other another recognized' _ := by rw [(recognized.unique recognized').1]
  past other another recognized' past := absurd ((recognized.unique recognized').2 ▸ past) current
  untouched _ _ := rfl
  sends := .inl rfl
  crashes := by
    refine ⟨nofun, ?_⟩
    rintro ⟨other, another, recognized', past, -⟩
    exact absurd ((recognized.unique recognized').2 ▸ past) current
  index := rfl
  others _ _ := rfl

theorem Decision.ofPast (recognized : Recognized settings now headers (state store) identity credential)
    (past : credential.Past now) :
    Decision settings now headers store wire
      ((renew settings now identity.user credential store wire).1.map fun _ => identity,
        (renew settings now identity.user credential store wire).2) := by
  obtain ⟨result, left, after⟩ := renew_spec settings now identity.user credential store wire
  have accepted : ∀ other, (renew settings now identity.user credential store wire).1.map (fun _ => identity) =
      .ok other ↔ other = identity ∧ ∃ refreshed, (settings.client.refresh now credential wire).1 = .ok refreshed := by
    intro other
    rw [result]
    rcases (settings.client.refresh now credential wire).1 with (error | _) | refreshed <;>
      simp [Except.map, eq_comm]
  have crashed : (renew settings now identity.user credential store wire).1.map (fun _ => identity) =
      .error .crash ↔ settings.client.Overlong now credential wire := by
    rw [result, ← ProviderClient.refresh_crash_iff]
    rcases (settings.client.refresh now credential wire).1 with (error | _) | refreshed <;> simp [Except.map]
  exact {
    accepts := fun other => by
      rw [accepted]
      constructor
      · rintro ⟨rfl, succeeded⟩
        exact ⟨credential, recognized, fun _ => succeeded⟩
      · rintro ⟨another, recognized', succeeds⟩
        obtain ⟨rfl, rfl⟩ := recognized.unique recognized'
        exact ⟨rfl, succeeds past⟩
    exhaustive := .inr ⟨identity, credential, recognized⟩
    refused := fun _ refused => absurd refused recognized.not_refused
    current := fun other another recognized' current => absurd ((recognized.unique recognized').2 ▸ past) current
    past := fun other another recognized' _ => by
      obtain ⟨rfl, rfl⟩ := recognized.unique recognized'
      refine ⟨?_, left, after⟩
      rw [result]
      rcases (settings.client.refresh now another wire).1 with (error | _) | refreshed <;> rfl
    untouched := fun failed kept => by
      refine renew_store kept (fun refreshed succeeded => ?_) identity.user
      exact failed identity ((accepted identity).mpr ⟨rfl, refreshed, succeeded⟩)
    sends := by
      rcases renew_sent identity.user store with ⟨request, asked, sent⟩ | ⟨unsent, -⟩
      · exact .inr ⟨identity, credential, request, recognized, past, asked, sent⟩
      · exact .inl unsent
    crashes := by
      rw [crashed]
      constructor
      · intro overlong
        exact ⟨identity, credential, recognized, past, overlong⟩
      · rintro ⟨other, another, recognized', -, overlong⟩
        obtain ⟨rfl, rfl⟩ := recognized.unique recognized'
        exact overlong
    index := by rw [left, renewed_index]
    others := fun user other => by rw [left, renewed_others (other identity credential recognized)] }

/-- In every state of a store and for every provider: a request is let in, as the user that the store has for its
token and with the email that the token tells, exactly if nothing is lacking. What is lacking first decides the error.
A refresh is tried only where nothing but a current credential is lacking, once, and the change that it leads to
is in that user's credential. A crash of the refresh is the one thing that is neither a result nor an error. -/
theorem authorize_decides (settings : Settings) (now : Instant) (headers : Headers) (store : σ) (wire : Wire) :
    Decision settings now headers store wire (authorize settings now headers store wire) := by
  rcases recognized_or_refused settings now headers (state store) with ⟨identity, credential, recognized⟩ |
    ⟨denial, refused⟩
  · by_cases past : credential.Past now
    · rw [recognized.authorize_past past]
      exact .ofPast recognized past
    · rw [recognized.authorize_current past]
      exact .ofCurrent recognized past
  · rw [refused.authorize]
    exact .ofRefused refused

/-- The provider refreshes the credential, but says that it is good for 2⁶³ - 1 seconds. -/
theorem authorize_undecided_overlong :
    let now : Instant := ⟨1000, 0⟩
    let store : MemoryStore := ⟨TokenIndex.empty.insert "laptop" Visit.token "alice",
      Dict.empty.insert "alice" ⟨"old", "Bearer", some "refresh", some ⟨999, 0⟩⟩⟩
    let answer := Json.object [("access_token", Json.quote "new"), ("expires_in", Json.integer 0x7FFFFFFFFFFFFFFF)]
    let wire : Wire := ⟨fun _ => .answered ⟨200, some answer⟩, []⟩
    let headers := [("authorization", Text.encode ("Bearer " ++ Visit.token))]
    (∃ credential, Recognized Visit.settings now headers (state store) ⟨"alice", "a@b"⟩ credential ∧
        credential.Past now) ∧
      (∀ identity, (authorize Visit.settings now headers store wire).1 ≠ .ok identity) ∧
      ∀ denial, (authorize Visit.settings now headers store wire).1 ≠ .error (.error denial) := by
  intro now store answer wire headers
  have claimed : Claimed Visit.settings headers Visit.token ⟨"alice", "a@b", 7, some 4600⟩ := by
    constructor
    · rw [show headers = [("authorization", Text.encode ("Bearer " ++ Visit.token))] from rfl, Visit.token_minted,
        PresentedToken.ofRequest_mint]
    · rw [Visit.token_minted, ApiClaims.verify_mint]
  have current : ¬Lapsed ⟨"alice", "a@b", 7, some 4600⟩ now := by
    rw [Lapsed, ← expiredAt_iff]
    decide
  have recognized : Recognized Visit.settings now headers (state store) ⟨"alice", "a@b"⟩
      ⟨"old", "Bearer", some "refresh", some ⟨999, 0⟩⟩ :=
    .user claimed current (by decide +kernel) (by decide +kernel)
  have past : Credential.Past ⟨"old", "Bearer", some "refresh", some ⟨999, 0⟩⟩ now := by
    rw [← Credential.expired_iff]
    decide
  have failed : (Visit.settings.client.refresh now ⟨"old", "Bearer", some "refresh", some ⟨999, 0⟩⟩ wire).1 =
      .error .crash := by decide +kernel
  have crashed : (authorize Visit.settings now headers store wire).1 = .error .crash := by
    rw [recognized.authorize_past past]
    simp only [(renew_spec Visit.settings now "alice" _ store wire).1, failed]
    rfl
  rw [crashed]
  exact ⟨⟨_, recognized, past⟩, nofun, nofun⟩

end Gateway

end LoginGateway
