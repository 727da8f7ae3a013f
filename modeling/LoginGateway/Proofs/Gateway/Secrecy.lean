import LoginGateway.Proofs.Gateway.Decision
import LoginGateway.Proofs.Gateway.Lasting
import LoginGateway.Proofs.Provider.Redaction

namespace LoginGateway

open Http

theorem Credential.past_of_redacted {credential other : Credential} (same : credential.redacted = other.redacted)
    (now : Instant) : credential.Past now ↔ other.Past now := iff_of_eq (congrArg (·.Past now) same)

/-- The same registrations, and the same credentials apart from their access tokens. -/
structure Snapshot.SameButAccess (known other : Snapshot) : Prop where
  index : known.index = other.index
  users : ∀ user, (known.users.find? user).map Credential.redacted = (other.users.find? user).map Credential.redacted

namespace Snapshot.SameButAccess

variable {known other : Snapshot}

theorem storeToken (alike : known.SameButAccess other) (name token user : String) :
    (known.storeToken name token user).SameButAccess (other.storeToken name token user) where
  index := congrArg (·.insert name token user) alike.index
  users := alike.users

theorem deleteToken (alike : known.SameButAccess other) (name : String) :
    (known.deleteToken name).SameButAccess (other.deleteToken name) where
  index := congrArg (·.remove name) alike.index
  users := alike.users

theorem invalidate (alike : known.SameButAccess other) (user : String) :
    (known.invalidate user).SameButAccess (other.invalidate user) where
  index := alike.index
  users another := by
    simp only [Snapshot.invalidate, Dict.find?_erase]
    split
    · rfl
    · exact alike.users another

theorem storeCredential (alike : known.SameButAccess other) {credential credential' : Credential}
    (same : credential.redacted = credential'.redacted) (user : String) :
    (known.storeCredential user credential).SameButAccess (other.storeCredential user credential') where
  index := alike.index
  users another := by
    rw [find?_storeCredential, find?_storeCredential]
    split
    · exact congrArg some same
    · exact alike.users another

theorem find?_eq_none (alike : known.SameButAccess other) {user : String} (missing : known.users.find? user = none) :
    other.users.find? user = none := by
  have same := alike.users user
  rw [missing] at same
  exact Option.map_eq_none_iff.mp same.symm

theorem find?_eq_some (alike : known.SameButAccess other) {user : String} {credential : Credential}
    (stored : known.users.find? user = some credential) :
    ∃ credential', other.users.find? user = some credential' ∧ credential.redacted = credential'.redacted := by
  have same := alike.users user
  rw [stored] at same
  obtain ⟨credential', stored', rest⟩ := Option.map_eq_some_iff.mp same.symm
  exact ⟨credential', stored', rest.symm⟩

end Snapshot.SameButAccess

inductive Denial.Alike : Denial → Denial → Prop where
  | same (denial : Denial) : Alike denial denial
  | refreshFailed {error other : ProviderError} (same : error.Alike other) :
      Alike (.refreshFailed error) (.refreshFailed other)

def TokenResponse.unread (remark : Json.Remark) : String :=
  "invalid identity provider response: token response: error decoding response body: " ++ remark.text

/-- The replies are the same, or both tell of a token response that cannot be read, and are the same but for the place
that they tell at the end. -/
inductive Http.Reply.SameButPlace : Option Reply → Option Reply → Prop where
  | same (reply : Option Reply) : SameButPlace reply reply
  | exchange {remark other : Json.Remark} (rule : remark.rule = other.rule) :
      SameButPlace
        (some (.badRequest ("Failed to exchange authorization code: " ++ TokenResponse.unread remark)))
        (some (.badRequest ("Failed to exchange authorization code: " ++ TokenResponse.unread other)))
  | refresh {remark other : Json.Remark} (rule : remark.rule = other.rule) :
      SameButPlace (some (.unauthorized ("failed to refresh credentials: " ++ TokenResponse.unread remark)))
        (some (.unauthorized ("failed to refresh credentials: " ++ TokenResponse.unread other)))

/-- The rule that a token response breaks is told in the same words whatever its access tokens are. -/
def Json.Wording.Overlooks (wording : Wording) : Prop :=
  ∀ body other error, TokenResponse.SameButAccess body other → decode TokenResponse.decoder body = .error error →
    (wording body error).rule = (wording other error).rule

namespace Gateway

open SnapshotStore (state)

section

variable {settings : Settings} {now : Instant} {headers : Headers} {known other : Snapshot}

theorem exchangeFailed_alike (overlooks : (settings.wording .tokenResponse).Overlooks) {error error' : ProviderError}
    (alike : error.Alike error') :
    Reply.SameButPlace (some (exchangeFailed settings error)) (some (exchangeFailed settings error')) := by
  cases alike with
  | same => exact .same _
  | unread alike unread => exact .exchange (overlooks _ _ _ alike unread)

theorem denied_alike (overlooks : (settings.wording .tokenResponse).Overlooks) {denial denial' : Denial}
    (alike : denial.Alike denial') :
    Reply.SameButPlace (some (denial.reply settings.wording)) (some (denial'.reply settings.wording)) := by
  cases alike with
  | same => exact .same _
  | refreshFailed same =>
    cases same with
    | same => exact .same _
    | unread alike unread => exact .refresh (overlooks _ _ _ alike unread)

theorem Recognized.alike {identity : Identity} {credential : Credential}
    (recognized : Recognized settings now headers known identity credential) (alike : known.SameButAccess other) :
    ∃ credential', Recognized settings now headers other identity credential' ∧
      credential.redacted = credential'.redacted := by
  cases recognized with
  | user claimed current registered stored =>
    obtain ⟨credential', stored', same⟩ := alike.find?_eq_some stored
    rw [alike.index] at registered
    exact ⟨credential', .user claimed current registered stored', same⟩

theorem Refused.alike {denial : Denial} (refused : Refused settings now headers known denial)
    (alike : known.SameButAccess other) : Refused settings now headers other denial := by
  cases refused with
  | noToken absent => exact .noToken absent
  | malformed presented rejected => exact .malformed presented rejected
  | expired claimed lapsed => exact .expired claimed lapsed
  | unknownToken claimed current unregistered =>
    rw [alike.index] at unregistered
    exact .unknownToken claimed current unregistered
  | noCredential claimed current registered missing =>
    rw [alike.index] at registered
    exact .noCredential claimed current registered (alike.find?_eq_none missing)

theorem renewed_alike (alike : known.SameButAccess other) (user : String)
    {result result' : Except (Failure ProviderError) Credential}
    (refreshed : Agree (Failure.Alike ProviderError.Alike) Credential.redacted result result') :
    (renewed settings user known result).SameButAccess (renewed settings user other result') := by
  cases refreshed with
  | error failed =>
    cases failed with
    | error same =>
      simp only [renewed]
      split
      · exact alike.invalidate user
      · exact alike
    | crash => exact alike
  | ok same => exact alike.storeCredential same user

variable {σ τ : Type} [TokenStore σ] [TokenStore τ] [SnapshotStore σ] [SnapshotStore τ] {store : σ} {store' : τ}
  {wire wire' : Wire}

theorem authorize_alike (alike : (state store).SameButAccess (state store'))
    (beside : wire.Beside wire' (authorize settings now headers store wire).2.2) :
    Agree (Failure.Alike Denial.Alike) id (authorize settings now headers store wire).1
        (authorize settings now headers store' wire').1 ∧
      (state (authorize settings now headers store wire).2.1).SameButAccess
        (state (authorize settings now headers store' wire').2.1) ∧
      (authorize settings now headers store wire).2.2.sent = (authorize settings now headers store' wire').2.2.sent := by
  rcases recognized_or_refused settings now headers (state store) with ⟨identity, credential, recognized⟩ |
    ⟨denial, refused⟩
  · obtain ⟨credential', recognized', same⟩ := recognized.alike alike
    have lapses := Credential.past_of_redacted same now
    by_cases past : credential.Past now
    · rw [recognized.authorize_past past] at beside ⊢
      rw [recognized'.authorize_past (lapses.mp past)]
      obtain ⟨result, left, after⟩ := renew_spec settings now identity.user credential store wire
      obtain ⟨result', left', after'⟩ := renew_spec settings now identity.user credential' store' wire'
      rw [after] at beside
      obtain ⟨refreshed, sent⟩ := settings.client.refresh_alike now same beside
      refine ⟨?_, ?_, ?_⟩
      · rw [result, result']
        generalize (settings.client.refresh now credential wire).1 = outcome at refreshed ⊢
        generalize (settings.client.refresh now credential' wire').1 = outcome' at refreshed ⊢
        cases refreshed with
        | error failed =>
          cases failed with
          | error same => exact .error (.error (.refreshFailed same))
          | crash => exact .error .crash
        | ok => exact .ok rfl
      · rw [left, left']
        exact renewed_alike alike identity.user refreshed
      · rw [after, after', sent]
    · rw [recognized.authorize_current past] at beside ⊢
      rw [recognized'.authorize_current (mt lapses.mpr past)]
      exact ⟨.ok rfl, alike, beside.sent⟩
  · rw [refused.authorize] at beside ⊢
    rw [(refused.alike alike).authorize]
    exact ⟨.error (.error (.same denial)), alike, beside.sent⟩

/-- The replies are the same but for a place in an unread token response, minted tokens and what has been sent are the
same, and the stores are the same apart from access tokens. -/
structure Served.Alike (served : Served σ) (served' : Served τ) : Prop where
  reply : Reply.SameButPlace served.reply served'.reply
  minted : served.minted = served'.minted
  sent : served.wire.sent = served'.wire.sent
  store : (state served.store).SameButAccess (state served'.store)

theorem generate_alike (alike : (state store).SameButAccess (state store')) (signer : Signer) (kind : TokenKind)
    (user email : String) :
    TokenStore.generate store signer kind user email = TokenStore.generate store' signer kind user email := by
  rw [SnapshotStore.generate, SnapshotStore.generate, Snapshot.generate, Snapshot.generate, alike.index]

theorem startSession_alike (moment : Moment) (destination user email : String)
    {credential credential' : Credential} (same : credential.redacted = credential'.redacted)
    (alike : (state store).SameButAccess (state store')) (sent : wire.sent = wire'.sent) :
    (startSession settings moment destination user email credential store wire).Alike
      (startSession settings moment destination user email credential' store' wire') := by
  have generates := generate_alike alike (settings.signer moment) .session user email
  cases generated : (TokenStore.generate store (settings.signer moment) .session user email).1 with
  | error error =>
    rw [startSession_failed generated, startSession_failed (generates ▸ generated)]
    exact ⟨.same _, rfl, sent, alike⟩
  | ok token =>
    obtain ⟨next, started, left⟩ := startSession_started generated destination credential wire
    rw [generates] at generated
    obtain ⟨next', started', left'⟩ := startSession_started generated destination credential' wire'
    rw [started, started']
    refine ⟨.same _, rfl, sent, ?_⟩
    rw [left, left']
    exact (alike.storeToken (sessionName user) token user).storeCredential same user

theorem userOf_of_redacted {exchanged exchanged' : Exchanged} (same : exchanged.redacted = exchanged'.redacted) :
    userOf exchanged = userOf exchanged' := by
  have tokens := congrArg Exchanged.idToken same
  simp only [Exchanged.redacted] at tokens
  unfold userOf
  rw [tokens]

theorem callback_alike (overlooks : (settings.wording .tokenResponse).Overlooks) (moment : Moment) (params : Params)
    (alike : (state store).SameButAccess (state store'))
    (beside : wire.Beside wire' (callback settings moment params store wire).wire) :
    (callback settings moment params store wire).Alike (callback settings moment params store' wire') := by
  cases accepted : accept settings moment.now params with
  | error reply =>
    rw [callback_refused accepted, callback_refused accepted]
    exact ⟨.same _, rfl, beside.sent, alike⟩
  | ok admitted =>
    obtain ⟨code, destination⟩ := admitted
    rw [callback_wire accepted] at beside
    obtain ⟨traded, sent⟩ := settings.client.exchangeCode_alike moment.now code beside
    unfold callback
    rw [accepted]
    dsimp only
    generalize settings.client.exchangeCode moment.now code wire = outcome at traded sent ⊢
    generalize settings.client.exchangeCode moment.now code wire' = outcome' at traded sent ⊢
    obtain ⟨result, after⟩ := outcome
    obtain ⟨result', after'⟩ := outcome'
    cases traded with
    | error failed =>
      cases failed with
      | error same => exact ⟨exchangeFailed_alike overlooks same, rfl, sent, alike⟩
      | crash => exact ⟨.same _, rfl, sent, alike⟩
    | ok same =>
      dsimp only
      rw [userOf_of_redacted same]
      split
      · exact ⟨.same _, rfl, sent, alike⟩
      · rename_i user email _
        exact startSession_alike moment destination user email (congrArg Exchanged.credential same) alike sent

theorem grantToken_alike (moment : Moment) (name : String) (identity : Identity)
    (alike : (state store).SameButAccess (state store')) (sent : wire.sent = wire'.sent) :
    (grantToken settings moment name identity store wire).Alike
      (grantToken settings moment name identity store' wire') := by
  have generates := generate_alike alike (settings.signer moment) .api identity.user identity.email
  cases generated : (TokenStore.generate store (settings.signer moment) .api identity.user identity.email).1 with
  | error error =>
    rw [grantToken_failed generated, grantToken_failed (generates ▸ generated)]
    exact ⟨.same _, rfl, sent, alike⟩
  | ok token =>
    obtain ⟨next, granted, left⟩ := grantToken_granted generated name wire
    rw [generates] at generated
    obtain ⟨next', granted', left'⟩ := grantToken_granted generated name wire'
    rw [granted, granted']
    refine ⟨.same _, rfl, sent, ?_⟩
    rw [left, left']
    exact alike.storeToken name token identity.user

theorem createToken_wire (moment : Moment) {requested : String} (named : (Text.trim requested).isEmpty = false)
    (free : TokenStore.containsName store (Text.trim requested) = false) :
    (createToken settings moment headers requested store wire).wire =
      (authorize settings moment.now headers store wire).2.2 := by
  simp only [createToken, named, free, Bool.false_eq_true, if_false]
  split <;> rename_i authorized <;> rw [authorized]
  rename_i identity middle after
  rcases grantToken_cases settings moment (Text.trim requested) identity middle after with
    ⟨error, failed⟩ | ⟨token, next, -, granted⟩
  · rw [failed]
  · rw [granted]

theorem createToken_alike (overlooks : (settings.wording .tokenResponse).Overlooks) (moment : Moment)
    (requested : String) (alike : (state store).SameButAccess (state store'))
    (beside : wire.Beside wire' (createToken settings moment headers requested store wire).wire) :
    (createToken settings moment headers requested store wire).Alike
      (createToken settings moment headers requested store' wire') := by
  have holds : TokenStore.containsName store (Text.trim requested) =
      TokenStore.containsName store' (Text.trim requested) := by
    rw [SnapshotStore.containsName, SnapshotStore.containsName, alike.index]
  cases named : (Text.trim requested).isEmpty with
  | true =>
    simp only [createToken, named]
    exact ⟨.same _, rfl, beside.sent, alike⟩
  | false =>
    cases free : TokenStore.containsName store (Text.trim requested) with
    | true =>
      simp only [createToken, named, free, ← holds]
      exact ⟨.same _, rfl, beside.sent, alike⟩
    | false =>
      rw [createToken_wire moment named free] at beside
      obtain ⟨decided, left, sent⟩ := authorize_alike alike beside
      simp only [createToken, named, free, ← holds, Bool.false_eq_true, if_false]
      generalize authorize settings moment.now headers store wire = outcome at decided left sent ⊢
      generalize authorize settings moment.now headers store' wire' = outcome' at decided left sent ⊢
      obtain ⟨result, next, after⟩ := outcome
      obtain ⟨result', next', after'⟩ := outcome'
      cases decided with
      | error failed =>
        cases failed with
        | error same => exact ⟨denied_alike overlooks same, rfl, sent, left⟩
        | crash => exact ⟨.same _, rfl, sent, left⟩
      | @ok identity _ same =>
        cases same
        exact grantToken_alike moment (Text.trim requested) identity left sent

theorem verify_alike (alike : (state store).SameButAccess (state store'))
    (beside : wire.Beside wire' (verify settings now headers store wire).wire) :
    (verify settings now headers store wire).Alike (verify settings now headers store' wire') := by
  rw [(verify_left settings now headers store wire).2] at beside
  obtain ⟨decided, left, sent⟩ := authorize_alike alike beside
  unfold verify
  generalize authorize settings now headers store wire = outcome at decided left sent ⊢
  generalize authorize settings now headers store' wire' = outcome' at decided left sent ⊢
  obtain ⟨result, next, after⟩ := outcome
  obtain ⟨result', next', after'⟩ := outcome'
  cases decided with
  | error failed => cases failed <;> exact ⟨.same _, rfl, sent, left⟩
  | ok => exact ⟨.same _, rfl, sent, left⟩

theorem listTokens_alike (alike : (state store).SameButAccess (state store')) :
    listTokens store = listTokens store' := by
  rw [listTokens, listTokens, SnapshotStore.nameList, SnapshotStore.nameList, alike.index]

theorem deleteToken_alike (settings : Settings) (alike : (state store).SameButAccess (state store')) (name : String) :
    (deleteToken settings name store).1 = (deleteToken settings name store').1 ∧
      (state (deleteToken settings name store).2).SameButAccess (state (deleteToken settings name store').2) := by
  obtain ⟨told, left⟩ := deleteToken_spec settings name store
  obtain ⟨told', left'⟩ := deleteToken_spec settings name store'
  rw [told, told', left, left']
  refine ⟨rfl, ?_⟩
  split
  · exact alike
  · exact alike.deleteToken name

theorem serveGet_alike {request : Incoming} {served : Served σ} {served' : Served τ}
    (serves : wire.Beside wire' served.wire → served.Alike served') (alike : (state store).SameButAccess (state store'))
    (beside : wire.Beside wire' (serveGet request store wire served).wire) :
    (serveGet request store wire served).Alike (serveGet request store' wire' served') := by
  unfold serveGet at beside ⊢
  by_cases reads : request.method = "GET" ∨ request.method = "HEAD"
  · rw [if_pos reads] at beside ⊢
    rw [if_pos reads]
    exact serves beside
  · rw [if_neg reads, if_neg reads]
    exact ⟨.same _, rfl, beside.sent, alike⟩

theorem withQuery_alike {request : Incoming} {names : List String} {serve : Params → Served σ}
    {serve' : Params → Served τ}
    (serves : ∀ params, wire.Beside wire' (serve params).wire → (serve params).Alike (serve' params))
    (alike : (state store).SameButAccess (state store'))
    (beside : wire.Beside wire' (withQuery request names store wire serve).wire) :
    (withQuery request names store wire serve).Alike (withQuery request names store' wire' serve') := by
  unfold withQuery at beside ⊢
  by_cases clear : unambiguous request.target.params names
  · simp only [clear, if_true] at beside ⊢
    exact serves request.target.params beside
  · simp only [clear]
    exact ⟨.same _, rfl, beside.sent, alike⟩

theorem serveTokens_alike (overlooks : (settings.wording .tokenResponse).Overlooks) (moment : Moment)
    (request : Incoming) (alike : (state store).SameButAccess (state store'))
    (beside : wire.Beside wire' (serveTokens settings moment request store wire).wire) :
    (serveTokens settings moment request store wire).Alike (serveTokens settings moment request store' wire') := by
  revert beside
  unfold serveTokens
  split <;> intro beside
  · rw [listTokens_alike alike]
    exact ⟨.same _, rfl, beside.sent, alike⟩
  · rw [listTokens_alike alike]
    exact ⟨.same _, rfl, beside.sent, alike⟩
  · exact withQuery_alike (fun query => createToken_alike overlooks moment (nameIn request query) alike) alike beside
  · refine withQuery_alike (fun query queried => ?_) alike beside
    obtain ⟨told, left⟩ := deleteToken_alike settings alike (nameIn request query)
    generalize deleteToken settings (nameIn request query) store = outcome at told left queried ⊢
    generalize deleteToken settings (nameIn request query) store' = outcome' at told left ⊢
    dsimp only
    rw [told]
    exact ⟨.same _, rfl, queried.sent, left⟩
  · exact ⟨.same _, rfl, beside.sent, alike⟩

theorem route_alike (overlooks : (settings.wording .tokenResponse).Overlooks) (moment : Moment) (request : Incoming)
    (alike : (state store).SameButAccess (state store'))
    (beside : wire.Beside wire' (route settings moment request store wire).wire) :
    (route settings moment request store wire).Alike (route settings moment request store' wire') := by
  revert beside
  unfold route
  split <;> intro beside
  · refine serveGet_alike (fun read => withQuery_alike (fun params queried => ?_) alike read) alike beside
    exact ⟨.same _, rfl, queried.sent, alike⟩
  · exact serveGet_alike (withQuery_alike (fun params => callback_alike overlooks moment params alike) alike) alike beside
  · exact serveTokens_alike overlooks moment request alike beside
  · exact verify_alike alike beside

theorem headless_alike {reply reply' : Option Reply} (alike : Reply.SameButPlace reply reply') :
    Reply.SameButPlace (reply.map fun reply => { reply with body := none })
      (reply'.map fun reply => { reply with body := none }) := by
  cases alike <;> exact .same _

theorem serve_alike (overlooks : (settings.wording .tokenResponse).Overlooks) (moment : Moment) (request : Incoming)
    (alike : (state store).SameButAccess (state store'))
    (beside : wire.Beside wire' (serve settings moment request store wire).wire) :
    (serve settings moment request store wire).Alike (serve settings moment request store' wire') := by
  by_cases head : request.method = "HEAD"
  · simp only [serve, head, if_true] at beside ⊢
    obtain ⟨reply, minted, sent, left⟩ := route_alike overlooks moment request alike beside
    exact ⟨headless_alike reply, minted, sent, left⟩
  · simp only [serve, head, if_false] at beside ⊢
    exact route_alike overlooks moment request alike beside

end

section

variable {σ τ : Type} [TokenStore σ] [TokenStore τ] [SnapshotStore σ] [SnapshotStore τ] {settings : Settings}

/-- A run of a gateway and its provider: the turns that are served from a store on, with what the provider has been sent
before and after. Between two turns the store may do whatever leaves its state as it is. -/
inductive Serves (settings : Settings) : σ → List Request → List (Turn σ) → σ → List Request → Prop where
  | done (store : σ) (sent : List Request) : Serves settings store sent [] store sent
  | idle {store next last : σ} {sent after : List Request} {turns : List (Turn σ)} (same : state next = state store)
      (run : Serves settings next sent turns last after) : Serves settings store sent turns last after
  | serve {last : σ} {after : List Request} {turns : List (Turn σ)} (turn : Turn σ)
      (run : Serves settings (turn.served settings).store (turn.served settings).wire.sent turns last after) :
      Serves settings turn.store turn.wire.sent (turn :: turns) last after

theorem Serves.single (settings : Settings) (turn : Turn σ) :
    Serves settings turn.store turn.wire.sent [turn] (turn.served settings).store (turn.served settings).wire.sent :=
  .serve turn (.done _ _)

theorem Serves.nil {store last : σ} {sent after : List Request} (run : Serves settings store sent [] last after) :
    state last = state store ∧ after = sent := by
  generalize none : ([] : List (Turn σ)) = turns at run
  induction run with
  | done => exact ⟨rfl, rfl⟩
  | idle same run ih =>
    obtain ⟨left, sent⟩ := ih none
    exact ⟨left.trans same, sent⟩
  | serve turn run => cases none

theorem Serves.cons {store last : σ} {sent after : List Request} {turn : Turn σ} {turns : List (Turn σ)}
    (run : Serves settings store sent (turn :: turns) last after) :
    state turn.store = state store ∧ turn.wire.sent = sent ∧
      Serves settings (turn.served settings).store (turn.served settings).wire.sent turns last after := by
  generalize more : turn :: turns = all at run
  induction run with
  | done => cases more
  | idle same run ih =>
    obtain ⟨left, sent, rest⟩ := ih more
    exact ⟨left.trans same, sent, rest⟩
  | serve first run =>
    cases more
    exact ⟨rfl, rfl, run⟩

/-- The same request at the same moment, with the same random numbers; and if the provider is sent anything, what comes
of it is the same, or an answer of success that differs in the access token only. -/
structure Turn.Beside (settings : Settings) (turn : Turn σ) (other : Turn τ) : Prop where
  moment : turn.moment = other.moment
  request : turn.request = other.request
  reactions : (turn.served settings).wire.sent ≠ turn.wire.sent →
    (turn.wire.react (turn.served settings).wire.sent).SameButAccess
      (other.wire.react (turn.served settings).wire.sent)

theorem Turn.Beside.served {turn : Turn σ} {other : Turn τ} (beside : turn.Beside settings other)
    (overlooks : (settings.wording .tokenResponse).Overlooks)
    (alike : (state turn.store).SameButAccess (state other.store)) (sent : turn.wire.sent = other.wire.sent) :
    (turn.served settings).Alike (other.served settings) := by
  obtain ⟨moment, request, reactions⟩ := beside
  have asked : other.served settings = serve settings turn.moment turn.request other.store other.wire := by
    rw [moment, request]
    rfl
  rw [asked]
  exact serve_alike overlooks turn.moment turn.request alike ⟨sent, reactions⟩

/-- Two gateways are set up alike and hold the same but for the access tokens of their credentials, and each serves the
same requests at the same moments. If the answers of success that their providers give differ in the access tokens at
most, then every reply and everything that the providers are sent is the same, and what the gateways hold still differs
in the access tokens at most. -/
theorem access_tokens_stay_inside {start last : σ} {start' last' : τ} {sent after after' : List Request}
    {turns : List (Turn σ)} {turns' : List (Turn τ)} (overlooks : (settings.wording .tokenResponse).Overlooks)
    (alike : (state start).SameButAccess (state start'))
    (run : Serves settings start sent turns last after) (run' : Serves settings start' sent turns' last' after')
    (beside : List.Forall₂ (Turn.Beside settings) turns turns') :
    List.Forall₂ (fun turn other => (turn.served settings).Alike (other.served settings)) turns turns' ∧
      after = after' ∧ (state last).SameButAccess (state last') := by
  induction beside generalizing start start' sent with
  | nil =>
    obtain ⟨left, rfl⟩ := run.nil
    obtain ⟨left', rfl⟩ := run'.nil
    rw [left, left']
    exact ⟨.nil, rfl, alike⟩
  | @cons turn other turns turns' first _ ih =>
    obtain ⟨found, asked, rest⟩ := run.cons
    obtain ⟨found', asked', rest'⟩ := run'.cons
    rw [← found, ← found'] at alike
    have served := first.served overlooks alike (asked.trans asked'.symm)
    -- The rest of both runs starts from stores that are still alike, and with the same requests sent.
    rw [← served.sent] at rest'
    obtain ⟨others, sent, left⟩ := ih served.store rest rest'
    exact ⟨.cons served others, sent, left⟩

end

theorem Turn.served_past {σ : Type} [TokenStore σ] [SnapshotStore σ] {settings : Settings} {turn : Turn σ}
    {identity : Identity} {credential : Credential} (asks : turn.AsksVerification)
    (recognized : Recognized settings turn.moment.now turn.request.headers (state turn.store) identity credential)
    (past : credential.Past turn.moment.now) :
    state (turn.served settings).store = renewed settings identity.user (state turn.store)
        (settings.client.refresh turn.moment.now credential turn.wire).1 ∧
      (turn.served settings).wire = (settings.client.refresh turn.moment.now credential turn.wire).2 := by
  obtain ⟨left, after⟩ := verify_left settings turn.moment.now turn.request.headers turn.store turn.wire
  obtain ⟨-, refreshed, sent⟩ := renew_spec settings turn.moment.now identity.user credential turn.store turn.wire
  rw [recognized.authorize_past past] at left after
  rw [(served_routed settings turn).1, served_wire, routed_verify asks, left, after]
  exact ⟨refreshed, sent⟩

namespace Visit

def lapsed (access : String) : Credential := ⟨access, "Bearer", some "refresh", some ⟨999, 0⟩⟩

def lapsedStore (access : String) : MemoryStore :=
  ⟨TokenIndex.empty.insert "laptop" (tokenOf "alice" "a@b" 7) "alice", Dict.empty.insert "alice" (lapsed access)⟩

theorem lapsed_past (access : String) : (lapsed access).Past ⟨1000, 0⟩ := ⟨⟨999, 0⟩, rfl, by decide⟩

theorem lapsedStore_registered (access : String) :
    (state (lapsedStore access)).index.userOf? (tokenOf "alice" "a@b" 7) = some "alice" :=
  (TokenIndex.tokens_insert _ _ _ _ _).trans (if_pos rfl)

theorem lapsedStore_stored (access : String) :
    (state (lapsedStore access)).users.find? "alice" = some (lapsed access) :=
  (Dict.find?_insert _ _ _ _).trans (if_pos rfl)

def answerBody (access key value : String) : Octets :=
  Json.object [("access_token", Json.quote access), (key, Json.quote value)]

theorem readable (access : String) : TokenResponse.Readable (Json.escape (Text.encode access)) :=
  ⟨Json.body_escape _, access, Json.readText?_escape access⟩

theorem answerBody_alike (access other key value : String) :
    TokenResponse.SameButAccess (answerBody access key value) (answerBody other key value) := by
  have written (access : String) : answerBody access key value =
      0x7B :: (Json.quote "access_token" ++ [0x3A]) ++ 0x22 :: (Json.escape (Text.encode access) ++
        0x22 :: (0x2C :: (Json.quote key ++ 0x3A :: Json.quote value) ++ [0x7D])) := by
    simp [answerBody, Json.object, Json.joined, Json.quote]
  rw [written, written]
  exact .single (.member ⟨_, _, rfl, rfl⟩ (Json.readText?_escape "access_token") (readable access) (readable other))

def renewalBody (access : String) : Octets := answerBody access "token_type" "Bearer"

def renewal (held given : String) : Turn MemoryStore :=
  ⟨⟨⟨1000, 0⟩, []⟩,
    ⟨"GET", ⟨"/", none⟩, [("authorization", Text.encode ("Bearer " ++ tokenOf "alice" "a@b" 7))], []⟩,
    lapsedStore held, ⟨fun _ => .answered ⟨200, some (renewalBody given)⟩, []⟩⟩

theorem overlooks : (settings.wording .tokenResponse).Overlooks := fun _ _ _ _ _ => rfl

theorem renewal_alike (held given held' given' : String) :
    (state (renewal held given).store).SameButAccess (state (renewal held' given').store) where
  index := rfl
  users user := by
    simp only [renewal, lapsedStore, SnapshotStore.state, Dict.find?_insert]
    split <;> rfl

theorem renewal_beside (held given held' given' : String) :
    (renewal held given).Beside settings (renewal held' given') :=
  ⟨rfl, rfl, fun _ => .success rfl (answerBody_alike given given' "token_type" "Bearer")⟩

theorem renewal_served (held given : String)
    (refreshed : (settings.client.refresh ⟨1000, 0⟩ (lapsed held) (renewal held given).wire).1 =
      .ok ⟨given, "Bearer", some "refresh", none⟩) :
    (state ((renewal held given).served settings).store).users.find? "alice" =
        some ⟨given, "Bearer", some "refresh", none⟩ ∧
      ((renewal held given).served settings).wire =
        (settings.client.refresh ⟨1000, 0⟩ (lapsed held) (renewal held given).wire).2 := by
  have path : (renewal held given).request.target.path = "/" := rfl
  have asks : (renewal held given).AsksVerification := by
    rw [Turn.AsksVerification, path]
    decide
  obtain ⟨left, sent⟩ :=
    Turn.served_past asks (recognized (lapsedStore_registered held) (lapsedStore_stored held)) (lapsed_past held)
  have moment : (renewal held given).moment.now = ⟨1000, 0⟩ := rfl
  rw [moment] at left sent
  refine ⟨?_, sent⟩
  rw [left, refreshed]
  exact Snapshot.find?_storeCredential_self _ _ _

end Visit

open Visit in
theorem access_tokens_stay_inside_renewal :
    ∃ turn other : Turn MemoryStore, (state turn.store).SameButAccess (state other.store) ∧
      Serves settings turn.store turn.wire.sent [turn] (turn.served settings).store (turn.served settings).wire.sent ∧
      Serves settings other.store other.wire.sent [other] (other.served settings).store (other.served settings).wire.sent ∧
      List.Forall₂ (Turn.Beside settings) [turn] [other] ∧
      (state (turn.served settings).store).users.find? "alice" = some ⟨"new", "Bearer", some "refresh", none⟩ ∧
      (state (other.served settings).store).users.find? "alice" = some ⟨"fresh", "Bearer", some "refresh", none⟩ ∧
      (turn.served settings).wire.sent.length = 1 ∧ (turn.served settings).Alike (other.served settings) := by
  have alike := renewal_alike "old" "new" "stale" "fresh"
  have run := Serves.single settings (renewal "old" "new")
  have run' := Serves.single settings (renewal "stale" "fresh")
  have beside : List.Forall₂ (Turn.Beside settings) [renewal "old" "new"] [renewal "stale" "fresh"] :=
    .cons (renewal_beside "old" "new" "stale" "fresh") .nil
  obtain ⟨left, sent⟩ := renewal_served "old" "new" (by decide +kernel)
  obtain ⟨left', -⟩ := renewal_served "stale" "fresh" (by decide +kernel)
  obtain ⟨served, -⟩ := access_tokens_stay_inside overlooks alike run run' beside
  have outside := (List.forall₂_cons.mp served).1
  refine ⟨renewal "old" "new", renewal "stale" "fresh", alike, run, run', beside, left, left', ?_, outside⟩
  rw [sent]
  decide +kernel

namespace Visit

def spoiled (access : String) : Turn MemoryStore :=
  ⟨⟨⟨1000, 0⟩, []⟩, loginTurn.request, .empty,
    ⟨fun _ => .answered ⟨200, some (answerBody access "expires_in" "3600")⟩, []⟩⟩

theorem spoiled_beside (access other : String) : (spoiled access).Beside settings (spoiled other) :=
  ⟨rfl, rfl, fun _ => .success rfl (answerBody_alike access other "expires_in" "3600")⟩

theorem spoiled_served {access : String}
    (unread : (settings.client.exchangeCode ⟨1000, 0⟩ "c" (spoiled access).wire).1 =
      .error (.error (.tokenResponse (.unreadable ⟨answerBody access "expires_in" "3600", .malformed⟩)))) :
    ((spoiled access).served settings).reply = some (exchangeFailed settings
      (.tokenResponse (.unreadable ⟨answerBody access "expires_in" "3600", .malformed⟩))) := by
  have path : (spoiled access).request.target.path = "/callback" := rfl
  have method : (spoiled access).request.method = "GET" := rfl
  have served : (spoiled access).served settings = _ := (Turn.served_callback path method).trans (if_pos clear)
  have known : accept settings (spoiled access).moment.now (spoiled access).request.target.params = .ok ("c", "/") :=
    accepted
  rw [served]
  unfold callback
  rw [known]
  dsimp only
  split <;> rename_i exchanged <;> cases (congrArg Prod.fst exchanged).symm.trans unread
  rfl

end Visit

open Visit in
/-- What is said of an answer that cannot be read tells how long the access token in it is. -/
theorem unread_answer_tells_length :
    (state (spoiled "a").store).SameButAccess (state (spoiled "ab").store) ∧
      Serves settings (spoiled "a").store (spoiled "a").wire.sent [spoiled "a"]
        ((spoiled "a").served settings).store ((spoiled "a").served settings).wire.sent ∧
      Serves settings (spoiled "ab").store (spoiled "ab").wire.sent [spoiled "ab"]
        ((spoiled "ab").served settings).store ((spoiled "ab").served settings).wire.sent ∧
      List.Forall₂ (Turn.Beside settings) [spoiled "a"] [spoiled "ab"] ∧
      ((spoiled "a").served settings).reply ≠ ((spoiled "ab").served settings).reply := by
  refine ⟨⟨rfl, fun _ => rfl⟩, .single _ _, .single _ _, .cons (spoiled_beside "a" "ab") .nil, ?_⟩
  rw [@spoiled_served "a" (by decide +kernel), @spoiled_served "ab" (by decide +kernel)]
  decide +kernel

end Gateway

end LoginGateway
