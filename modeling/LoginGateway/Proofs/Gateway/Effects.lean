import LoginGateway.Proofs.Gateway.Turns
import LoginGateway.Proofs.Store.Registrations
import LoginGateway.Proofs.Store.SnapshotStore

namespace LoginGateway.Gateway

open Http
open SnapshotStore (state)

variable {σ : Type} [TokenStore σ] [SnapshotStore σ]

def renewed (settings : Settings) (user : String) (known : Snapshot) :
    Except (Failure ProviderError) Credential → Snapshot
  | .ok refreshed => known.storeCredential user refreshed
  | .error (.error _) => if settings.invalidateOnRefreshFailure then known.invalidate user else known
  | .error .crash => known

theorem renew_spec (settings : Settings) (now : Instant) (user : String) (credential : Credential) (store : σ)
    (wire : Wire) :
    (renew settings now user credential store wire).1 =
      (match (settings.client.refresh now credential wire).1 with
        | .ok _ => .ok ()
        | .error (.error error) => .error (.error (.refreshFailed error))
        | .error .crash => .error .crash) ∧
    state (renew settings now user credential store wire).2.1 =
      renewed settings user (state store) (settings.client.refresh now credential wire).1 ∧
    (renew settings now user credential store wire).2.2 = (settings.client.refresh now credential wire).2 := by
  unfold renew
  rcases settings.client.refresh now credential wire with ⟨(error | _) | refreshed, after⟩
  · obtain ⟨next, done, left⟩ := SnapshotStore.done store (.invalidate user)
    simp only [Mutation.call] at done
    refine ⟨rfl, ?_, rfl⟩
    simp only [renewed, done]
    split
    · exact left
    · rfl
  · exact ⟨rfl, rfl, rfl⟩
  · obtain ⟨next, done, left⟩ := SnapshotStore.done store (.storeCredential user refreshed)
    simp only [Mutation.call] at done
    simp only [done]
    exact ⟨trivial, left, trivial⟩

theorem renewed_index (settings : Settings) (user : String) (known : Snapshot)
    (result : Except (Failure ProviderError) Credential) : (renewed settings user known result).index = known.index := by
  unfold renewed
  split
  · rfl
  · split <;> rfl
  · rfl

theorem renew_index (settings : Settings) (now : Instant) (user : String) (credential : Credential) (store : σ)
    (wire : Wire) : (state (renew settings now user credential store wire).2.1).index = (state store).index := by
  rw [(renew_spec settings now user credential store wire).2.1, renewed_index]

theorem authorize_index (settings : Settings) (now : Instant) (headers : Headers) (store : σ) (wire : Wire) :
    (state (authorize settings now headers store wire).2.1).index = (state store).index := by
  unfold authorize
  split
  · rfl
  · rename_i identity credential _
    have renewed := renew_index settings now identity.user credential store wire
    split
    · rfl
    · split <;> rename_i result <;> simpa only [result] using renewed

structure Rejects (reply : Reply) : Prop where
  status : 400 ≤ reply.status ∧ reply.status < 600
  location : reply.location = none
  cookies : reply.cookies = []

theorem complaint_rejects {status : Nat} (error : 400 ≤ status ∧ status < 600) (message : String) :
    Rejects (.complaint status message) := ⟨error, rfl, rfl⟩

theorem badRequest_rejects (message : String) : Rejects (.badRequest message) := complaint_rejects (by decide) message

theorem serverError_rejects (message : String) : Rejects (.serverError message) := complaint_rejects (by decide) message

theorem denial_rejects (denial : Denial) (wording : Parsed → Json.Wording) : Rejects (denial.reply wording) := by
  unfold Denial.reply
  split
  · exact serverError_rejects _
  · exact complaint_rejects (by decide) _

/-- What a callback has to bring: a code and a state token that verifies, is current and leads somewhere. -/
structure Admitted (settings : Settings) (now : Instant) (params : Params) (code destination : String) : Prop where
  unrefused : params.get? "error" = none
  code : params.get? "code" = some code ∧ code ≠ ""
  ticket : ∃ token claims, params.get? "state" = some token ∧
    SignedToken.verify StateClaims.decoder settings.secret token = .ok claims ∧
    expiredAt claims.expiry now = false ∧ claims.destination = destination
  destination : destination ≠ "" ∧ isValue (Text.encode destination) = true

theorem accept_cases (settings : Settings) (now : Instant) (params : Params) :
    (∃ message, accept settings now params = .error (.badRequest message)) ∨
    ∃ code destination, accept settings now params = .ok (code, destination) ∧
      Admitted settings now params code destination := by
  unfold accept
  cases unrefused : params.get? "error" with
  | some error => exact .inl ⟨_, error_bind _ _⟩
  | none =>
    dsimp only
    split
    · rename_i code given
      split
      · rename_i token presented
        cases verified : SignedToken.verify StateClaims.decoder settings.secret token with
        | error error => exact .inl ⟨_, rfl⟩
        | ok claims =>
          simp only [Except.mapError, ok_bind]
          split
          · exact .inl ⟨_, rfl⟩
          · rename_i current
            split
            · exact .inl ⟨_, rfl⟩
            · rename_i leads
              split
              · exact .inl ⟨_, rfl⟩
              · rename_i legal
                rw [Bool.not_eq_true] at current
                rw [Bool.not_eq_true, Bool.not_eq_false'] at legal
                obtain ⟨brought, there⟩ := Option.filter_eq_some_iff.mp given
                refine .inr ⟨code, claims.destination, rfl, unrefused, ⟨brought, by simpa using there⟩, ?_,
                  by simpa using leads, legal⟩
                exact ⟨token, claims, (Option.filter_eq_some_iff.mp presented).1, verified, current, rfl⟩
      · exact .inl ⟨_, rfl⟩
    · exact .inl ⟨_, rfl⟩

theorem admitted_of_accept {settings : Settings} {now : Instant} {params : Params} {code destination : String}
    (accepted : accept settings now params = .ok (code, destination)) :
    Admitted settings now params code destination := by
  rcases accept_cases settings now params with ⟨message, refused⟩ | ⟨code', destination', accepted', admitted⟩
  · cases accepted.symm.trans refused
  · cases accepted.symm.trans accepted'
    exact admitted

theorem Admitted.accept {settings : Settings} {now : Instant} {params : Params} {code destination : String}
    (admitted : Admitted settings now params code destination) :
    accept settings now params = .ok (code, destination) := by
  obtain ⟨unrefused, ⟨brought, there⟩, ⟨token, claims, presented, verified, current, rfl⟩, leads, legal⟩ := admitted
  have signed : token ≠ "" := by
    rintro rfl
    cases verified
  have given : (params.get? "code").filter (fun code => !code.isEmpty) = some code := by
    rw [brought, Option.filter_eq_some_iff]
    exact ⟨rfl, by simpa using there⟩
  have ticket : (params.get? "state").filter (fun token => !token.isEmpty) = some token := by
    rw [presented, Option.filter_eq_some_iff]
    exact ⟨rfl, by simpa using signed⟩
  unfold Gateway.accept
  rw [unrefused, given, ticket]
  simp [verified, current, leads, legal, Except.mapError]

theorem userOf_cases (exchanged : Exchanged) :
    (∃ error, userOf exchanged = .error error) ∨
    ∃ user email, userOf exchanged = .ok (user, email) := by
  unfold userOf
  split
  · rename_i idToken _
    cases SignedToken.readUnverified IdClaims.decoder idToken with
    | error error => exact .inl ⟨_, rfl⟩
    | ok claims =>
      simp only [Except.mapError, ok_bind]
      split
      · split
        · exact .inr ⟨_, _, rfl⟩
        · exact .inl ⟨_, rfl⟩
      · exact .inl ⟨_, rfl⟩
  · exact .inl ⟨_, rfl⟩

theorem userOf_ok {exchanged : Exchanged} {idToken user email : String} (present : exchanged.idToken = some idToken)
    (read : SignedToken.readUnverified IdClaims.decoder idToken = .ok ⟨some user, some email⟩) (named : user ≠ "") :
    userOf exchanged = .ok (user, email) := by
  have there : (some user).filter (fun user => !user.isEmpty) = some user := by
    rw [Option.filter_eq_some_iff]
    exact ⟨rfl, by simpa using named⟩
  unfold userOf
  rw [present]
  simp only [read, Except.mapError, ok_bind, there]
  rfl

theorem welcome_status (settings : Settings) (destination token user : String) :
    (welcome settings destination token user).status = 303 := by
  dsimp only [welcome]
  split <;> rfl

omit [SnapshotStore σ] in
theorem startSession_failed {settings : Settings} {moment : Moment} {user email : String} {store : σ}
    {error : StoreError}
    (failed : (TokenStore.generate store (settings.signer moment) .session user email).1 = .error error)
    (destination : String) (credential : Credential) (wire : Wire) :
    startSession settings moment destination user email credential store wire =
      ⟨some (.serverError ("Error generating session token: " ++ error.message (settings.wording .apiToken))), store,
        wire, none⟩ := by
  unfold startSession
  rw [failed]

theorem startSession_started {settings : Settings} {moment : Moment} {user email token : String} {store : σ}
    (generated : (TokenStore.generate store (settings.signer moment) .session user email).1 = .ok token)
    (destination : String) (credential : Credential) (wire : Wire) :
    ∃ next, startSession settings moment destination user email credential store wire =
        ⟨some (welcome settings destination token user), next, wire, some token⟩ ∧
      state next = ((state store).storeToken (sessionName user) token user).storeCredential user credential := by
  obtain ⟨next, stored, after⟩ := SnapshotStore.done store (.storeToken (sessionName user) token user)
  obtain ⟨last, kept, final⟩ := SnapshotStore.done next (.storeCredential user credential)
  simp only [Mutation.call] at stored kept
  refine ⟨last, ?_, by rw [final, after]; rfl⟩
  unfold startSession
  rw [generated]
  simp only [register, stored, kept]

theorem startSession_cases (settings : Settings) (moment : Moment) (destination user email : String)
    (credential : Credential) (store : σ) (wire : Wire) :
    (∃ message, startSession settings moment destination user email credential store wire =
        ⟨some (.serverError message), store, wire, none⟩) ∨
    ∃ token next, (TokenStore.generate store (settings.signer moment) .session user email).1 = .ok token ∧
      startSession settings moment destination user email credential store wire =
        ⟨some (welcome settings destination token user), next, wire, some token⟩ := by
  cases generated : (TokenStore.generate store (settings.signer moment) .session user email).1 with
  | error error => exact .inl ⟨_, startSession_failed generated destination credential wire⟩
  | ok token =>
    obtain ⟨next, started, -⟩ := startSession_started generated destination credential wire
    exact .inr ⟨token, next, rfl, started⟩

omit [SnapshotStore σ] in
theorem callback_refused {settings : Settings} {moment : Moment} {params : Params} {reply : Reply}
    (refused : accept settings moment.now params = .error reply) (store : σ) (wire : Wire) :
    callback settings moment params store wire = ⟨some reply, store, wire, none⟩ := by
  unfold callback
  rw [refused]

theorem callback_wire {settings : Settings} {moment : Moment} {params : Params} {code destination : String}
    (accepted : accept settings moment.now params = .ok (code, destination)) (store : σ) (wire : Wire) :
    (callback settings moment params store wire).wire = (settings.client.exchangeCode moment.now code wire).2 := by
  unfold callback
  rw [accepted]
  dsimp only
  split <;> rename_i traded <;> rw [traded]
  split
  · rfl
  · rename_i exchanged after _ user email _
    rcases startSession_cases settings moment destination user email exchanged.credential store after with
      ⟨error, failed⟩ | ⟨token, next, -, started⟩
    · rw [failed]
    · rw [started]

/-- The request completes a login: it is accepted, its code is traded for tokens, and a session token is minted for
the user that they name. -/
structure LogsIn (settings : Settings) (moment : Moment) (params : Params) (store : σ) (wire : Wire)
    (destination : String) (exchanged : Exchanged) (user token : String) : Prop where
  traded : ∃ code, accept settings moment.now params = .ok (code, destination) ∧
    (settings.client.exchangeCode moment.now code wire).1 = .ok exchanged
  generated : ∃ email, userOf exchanged = .ok (user, email) ∧
    (TokenStore.generate store (settings.signer moment) .session user email).1 = .ok token

theorem LogsIn.callback {settings : Settings} {moment : Moment} {params : Params} {store : σ} {wire : Wire}
    {destination user token : String} {exchanged : Exchanged}
    (logsIn : LogsIn settings moment params store wire destination exchanged user token) :
    ∃ next after, callback settings moment params store wire =
        ⟨some (welcome settings destination token user), next, after, some token⟩ ∧
      state next = ((state store).storeToken (sessionName user) token user).storeCredential user
        exchanged.credential := by
  obtain ⟨⟨code, accepted, traded⟩, email, identified, generated⟩ := logsIn
  rcases exchanging : settings.client.exchangeCode moment.now code wire with ⟨result, after⟩
  obtain rfl : result = .ok exchanged := by rw [← traded, exchanging]
  obtain ⟨next, started, left⟩ := startSession_started generated destination exchanged.credential after
  refine ⟨next, after, ?_, left⟩
  simp only [Gateway.callback, accepted, exchanging, identified, started]

theorem callback_cases (settings : Settings) (moment : Moment) (params : Params) (store : σ) (wire : Wire) :
    (∃ reply after, callback settings moment params store wire = ⟨reply, store, after, none⟩ ∧
      ∀ told, reply = some told → Rejects told) ∨
    ∃ destination exchanged user token, LogsIn settings moment params store wire destination exchanged user token := by
  unfold callback
  rcases accept_cases settings moment.now params with ⟨message, refused⟩ | ⟨code, destination, accepted, -⟩
  · rw [refused]
    exact .inl ⟨_, _, rfl, fun _ told => Option.some.inj told ▸ badRequest_rejects _⟩
  rw [accepted]
  dsimp only
  split
  · exact .inl ⟨_, _, rfl, nofun⟩
  · exact .inl ⟨_, _, rfl, fun _ told => Option.some.inj told ▸ badRequest_rejects _⟩
  rename_i exchanged after traded
  rcases userOf_cases exchanged with ⟨message, refused⟩ | ⟨user, email, identified⟩
  · rw [refused]
    exact .inl ⟨_, _, rfl, fun _ told => Option.some.inj told ▸ badRequest_rejects _⟩
  rw [identified]
  dsimp only
  rcases startSession_cases settings moment destination user email exchanged.credential store after with
    ⟨error, failed⟩ | ⟨token, next, generated, -⟩
  · exact .inl ⟨_, _, failed, fun _ told => Option.some.inj told ▸ serverError_rejects _⟩
  · exact .inr ⟨destination, exchanged, user, token, ⟨code, accepted, congrArg Prod.fst traded⟩, email, identified,
      generated⟩

omit [SnapshotStore σ] in
theorem grantToken_failed {settings : Settings} {moment : Moment} {identity : Identity} {store : σ}
    {error : StoreError}
    (failed : (TokenStore.generate store (settings.signer moment) .api identity.user identity.email).1 = .error error)
    (name : String) (wire : Wire) :
    grantToken settings moment name identity store wire =
      ⟨some (.serverError ("Error generating API token: " ++ error.message (settings.wording .apiToken))), store, wire,
        none⟩ := by
  unfold grantToken
  rw [failed]

theorem grantToken_granted {settings : Settings} {moment : Moment} {identity : Identity} {token : String} {store : σ}
    (generated : (TokenStore.generate store (settings.signer moment) .api identity.user identity.email).1 = .ok token)
    (name : String) (wire : Wire) :
    ∃ next, grantToken settings moment name identity store wire =
        ⟨some (created name token), next, wire, some token⟩ ∧
      state next = (state store).storeToken name token identity.user := by
  obtain ⟨next, stored, after⟩ := SnapshotStore.done store (.storeToken name token identity.user)
  simp only [Mutation.call] at stored
  refine ⟨next, ?_, after⟩
  unfold grantToken
  rw [generated]
  simp only [register, stored]

theorem grantToken_cases (settings : Settings) (moment : Moment) (name : String) (identity : Identity) (store : σ)
    (wire : Wire) :
    (∃ message, grantToken settings moment name identity store wire = ⟨some (.serverError message), store, wire, none⟩) ∨
    ∃ token next, (TokenStore.generate store (settings.signer moment) .api identity.user identity.email).1 =
        .ok token ∧
      grantToken settings moment name identity store wire = ⟨some (created name token), next, wire, some token⟩ := by
  cases generated : (TokenStore.generate store (settings.signer moment) .api identity.user identity.email).1 with
  | error error => exact .inl ⟨_, grantToken_failed generated name wire⟩
  | ok token =>
    obtain ⟨next, granted, -⟩ := grantToken_granted generated name wire
    exact .inr ⟨token, next, rfl, granted⟩

/-- The request earns a token under a name: the name is not in use, the request is authorized, and a token is minted
for its user. -/
structure Earns (settings : Settings) (moment : Moment) (headers : Headers) (name : String) (store : σ) (wire : Wire)
    (identity : Identity) (token : String) : Prop where
  named : name.isEmpty = false
  free : TokenStore.containsName store name = false
  granted : ∃ middle after, authorize settings moment.now headers store wire = (.ok identity, middle, after) ∧
    (TokenStore.generate middle (settings.signer moment) .api identity.user identity.email).1 = .ok token

theorem Earns.createToken {settings : Settings} {moment : Moment} {headers : Headers} {requested : String} {store : σ}
    {wire : Wire} {identity : Identity} {token : String}
    (earns : Earns settings moment headers (Text.trim requested) store wire identity token) :
    ∃ next after, createToken settings moment headers requested store wire =
        ⟨some (created (Text.trim requested) token), next, after, some token⟩ ∧
      state next = (state (authorize settings moment.now headers store wire).2.1).storeToken (Text.trim requested) token
        identity.user := by
  obtain ⟨named, free, middle, after, authorized, generated⟩ := earns
  obtain ⟨next, granted, left⟩ := grantToken_granted generated (Text.trim requested) after
  refine ⟨next, after, ?_, by rw [left, authorized]⟩
  simp only [Gateway.createToken, named, free, authorized, granted]
  rfl

def Settled (settings : Settings) (now : Instant) (headers : Headers) (store : σ) (wire : Wire) (next : σ) : Prop :=
  next = store ∨ next = (authorize settings now headers store wire).2.1

theorem Settled.index {settings : Settings} {now : Instant} {headers : Headers} {store next : σ} {wire : Wire}
    (settled : Settled settings now headers store wire next) : (state next).index = (state store).index := by
  rcases settled with rfl | rfl
  · rfl
  · exact authorize_index settings now headers store wire

theorem createToken_cases (settings : Settings) (moment : Moment) (headers : Headers) (requested : String)
    (store : σ) (wire : Wire) :
    (∃ reply next after, createToken settings moment headers requested store wire = ⟨reply, next, after, none⟩ ∧
      Settled settings moment.now headers store wire next ∧ ∀ told, reply = some told → Rejects told) ∨
    ∃ identity token, Earns settings moment headers (Text.trim requested) store wire identity token := by
  dsimp only [createToken]
  split
  · exact .inl ⟨_, _, _, rfl, .inl rfl, fun _ told => Option.some.inj told ▸ badRequest_rejects _⟩
  · rename_i named
    split
    · exact .inl ⟨_, _, _, rfl, .inl rfl, fun _ told => Option.some.inj told ▸ badRequest_rejects _⟩
    · rename_i free
      rw [Bool.not_eq_true] at named free
      split <;> rename_i result
      · exact .inl ⟨_, _, _, rfl, .inr (by rw [result]), nofun⟩
      · exact .inl ⟨_, _, _, rfl, .inr (by rw [result]), fun _ told => Option.some.inj told ▸ denial_rejects _ _⟩
      · rename_i identity middle after
        rcases grantToken_cases settings moment (Text.trim requested) identity middle after with
          ⟨error, failed⟩ | ⟨token, next, generated, -⟩
        · refine .inl ⟨_, _, _, failed, .inr (by rw [result]), ?_⟩
          exact fun _ told => Option.some.inj told ▸ serverError_rejects _
        · exact .inr ⟨identity, token, named, free, middle, after, result, generated⟩

theorem deleteToken_spec (settings : Settings) (name : String) (store : σ) :
    (deleteToken settings name store).1 = (if (Text.trim name).isEmpty then missingName "delete"
      else .text 200 ("API token " ++ name ++ " successfully deleted (if it existed)")) ∧
    state (deleteToken settings name store).2 =
      if (Text.trim name).isEmpty then state store else (state store).deleteToken name := by
  unfold deleteToken
  split
  · exact ⟨rfl, rfl⟩
  · obtain ⟨next, deleted, after⟩ := SnapshotStore.done store (.deleteToken name)
    simp only [Mutation.call] at deleted
    simp only [deleted]
    exact ⟨trivial, after⟩

theorem deleteToken_cases (settings : Settings) (name : String) (store : σ) :
    (∃ reply, deleteToken settings name store = (reply, store) ∧ reply.status ≠ 200) ∨
    ∃ reply next, deleteToken settings name store = (reply, next) ∧ reply.status = 200 ∧
      state next = (state store).deleteToken name := by
  unfold deleteToken
  split
  · exact .inl ⟨_, rfl, by decide⟩
  · obtain ⟨next, deleted, after⟩ := SnapshotStore.done store (.deleteToken name)
    simp only [Mutation.call] at deleted
    simp only [deleted]
    exact .inr ⟨_, next, rfl, rfl, after⟩

namespace Turn

/-- The request mints no token, and does no more to the store than an authorization. -/
structure Quiet (settings : Settings) (turn : Turn σ) : Prop where
  minted : (turn.served settings).minted = none
  settled : Settled settings turn.moment.now turn.request.headers turn.store turn.wire (turn.served settings).store

/-- The request mints a new token for a registration, and the index takes the registration in. -/
structure Stores (settings : Settings) (turn : Turn σ) (entry : Registration) (kind : TokenKind) : Prop where
  minted : (turn.served settings).minted = some entry.token
  issued : Issued settings.secret turn.moment.now kind.lifetime entry.user entry.token
  fresh : (state turn.store).index.containsToken entry.token = false
  index : (state (turn.served settings).store).index =
    (state turn.store).index.insert entry.name entry.token entry.user

variable {settings : Settings} {turn : Turn σ}

omit [SnapshotStore σ] in
theorem Quiet.of_routed {reply : Option Reply} {next : σ} {after : Wire}
    (routed : turn.routed settings = ⟨reply, next, after, none⟩)
    (settled : Settled settings turn.moment.now turn.request.headers turn.store turn.wire next) :
    turn.Quiet settings := by
  obtain ⟨store, minted, -⟩ := served_routed settings turn
  rw [routed] at store minted
  exact ⟨minted, by rw [store]; exact settled⟩

theorem Quiet.index (quiet : turn.Quiet settings) :
    (state (turn.served settings).store).index = (state turn.store).index := quiet.settled.index

theorem Stores.of_routed {reply : Option Reply} {next : σ} {after : Wire} {entry : Registration}
    {kind : TokenKind} (routed : turn.routed settings = ⟨reply, next, after, some entry.token⟩)
    (issued : Issued settings.secret turn.moment.now kind.lifetime entry.user entry.token)
    (fresh : (state turn.store).index.containsToken entry.token = false)
    (index : (state next).index = (state turn.store).index.insert entry.name entry.token entry.user) :
    turn.Stores settings entry kind := by
  obtain ⟨store, minted, -⟩ := served_routed settings turn
  rw [routed] at store minted
  exact ⟨minted, issued, fresh, by rw [store]; exact index⟩

theorem callback_effect (path : turn.request.target.path = "/callback") :
    turn.Quiet settings ∨
    ∃ exchanged user token, turn.Exchanges settings exchanged ∧ ExchangedFor user exchanged ∧
      turn.status? settings = some 303 ∧ turn.Stores settings ⟨sessionName user, token, user⟩ .session ∧
      state (turn.served settings).store =
        ((state turn.store).storeToken (sessionName user) token user).storeCredential user exchanged.credential := by
  have known : turn.routed settings = route settings turn.moment turn.request turn.store turn.wire := rfl
  unfold route at known
  rw [path] at known
  rcases of_serveGet known with refused | clear
  · exact .inl (.of_routed refused (.inl rfl))
  rcases of_withQuery clear with ambiguous | routed
  · exact .inl (.of_routed ambiguous (.inl rfl))
  rcases callback_cases settings turn.moment turn.request.target.params turn.store turn.wire with
    ⟨reply, after, failed, -⟩ | ⟨destination, exchanged, user, token, logsIn⟩
  · exact .inl (.of_routed (routed.trans failed) (.inl rfl))
  obtain ⟨next, after, started, left⟩ := logsIn.callback
  obtain ⟨⟨code, accepted, traded⟩, email, identified, generated⟩ := logsIn
  refine .inr ⟨exchanged, user, token, ⟨code, destination, accepted, traded⟩, exchangedFor_of_userOf identified, ?_,
    .of_routed (routed.trans started) (SnapshotStore.issued generated) (SnapshotStore.generate_free generated)
      (congrArg Snapshot.index left), ?_⟩
  · rw [(served_routed settings turn).2.2, routed, started]
    exact congrArg some (welcome_status settings destination token user)
  · rw [(served_routed settings turn).1, routed, started]
    exact left

/-- The request is answered with a new API token of a user, under a name that was not in use. -/
structure Creates (settings : Settings) (turn : Turn σ) (user token : String) : Prop where
  authorized : ∃ presented, turn.Authorized settings presented user
  told : (turn.served settings).reply = some (created turn.askedName token)
  free : (state turn.store).index.containsName turn.askedName = false
  stores : turn.Stores settings ⟨turn.askedName, token, user⟩ .api

theorem post_cases (path : turn.request.target.path = "/api-token") (method : turn.request.method = "POST") :
    turn.Quiet settings ∧ turn.status? settings ≠ some 200 ∨
    ∃ user token, turn.Creates settings user token ∧ turn.askedName ≠ "" ∧
      state (turn.served settings).store =
        (state (authorize settings turn.moment.now turn.request.headers turn.store turn.wire).2.1).storeToken
          turn.askedName token user := by
  obtain ⟨-, -, status⟩ := served_routed settings turn
  have clear : turn.routed settings = _ := routed_tokens path
  unfold serveTokens at clear
  rw [method] at clear
  rcases of_withQuery clear with ambiguous | routed
  · refine .inl ⟨.of_routed ambiguous (.inl rfl), ?_⟩
    have other : Reply.ambiguousQuery.status ≠ 200 := by decide
    rw [status, ambiguous]
    exact fun same => other (Option.some.inj same)
  rcases createToken_cases settings turn.moment turn.request.headers
      (nameIn turn.request turn.request.target.params) turn.store turn.wire with
    ⟨reply, next, after, failed, settled, rejects⟩ | ⟨identity, token, earns⟩
  · refine .inl ⟨.of_routed (routed.trans failed) settled, ?_⟩
    rw [status, routed, failed]
    intro succeeded
    obtain ⟨told, replied, done⟩ := Option.map_eq_some_iff.mp succeeded
    have error := (rejects told replied).status
    omega
  obtain ⟨next, after, granted, left⟩ := earns.createToken
  obtain ⟨named, free, middle, _, authorized, generated⟩ := earns
  have kept := authorize_index settings turn.moment.now turn.request.headers turn.store turn.wire
  rw [authorized] at kept left
  have index : (state next).index = (state turn.store).index.insert turn.askedName token identity.user := by
    rw [left, ← kept]
    rfl
  have fresh := SnapshotStore.generate_free generated
  rw [kept] at fresh
  have served : turn.served settings = ⟨some (created turn.askedName token), next, after, some token⟩ := by
    rw [served_of_method (by rw [method]; decide), routed, granted]
  refine .inr ⟨identity.user, token, ⟨authorized_of_authorize (congrArg Prod.fst authorized), by rw [served], ?_,
    .of_routed (routed.trans granted) (SnapshotStore.issued generated) fresh index⟩, ?_, ?_⟩
  · rw [← SnapshotStore.containsName]
    exact free
  · rwa [String.isEmpty_eq_false_iff] at named
  · rw [served, authorized]
    exact left

theorem post_effect (path : turn.request.target.path = "/api-token") (method : turn.request.method = "POST") :
    turn.Quiet settings ∧ turn.status? settings ≠ some 200 ∨ ∃ user token, turn.Creates settings user token :=
  (post_cases path method).imp id fun ⟨user, token, creates, _⟩ => ⟨user, token, creates⟩

theorem delete_effect (path : turn.request.target.path = "/api-token") (method : turn.request.method = "DELETE") :
    turn.Quiet settings ∧ turn.status? settings ≠ some 200 ∨
    turn.status? settings = some 200 ∧
      state (turn.served settings).store =
        (state turn.store).deleteToken (nameIn turn.request turn.request.target.params) := by
  obtain ⟨store, -, status⟩ := served_routed settings turn
  have clear : turn.routed settings = _ := routed_tokens path
  unfold serveTokens at clear
  rw [method] at clear
  rcases of_withQuery clear with ambiguous | routed
  · refine .inl ⟨.of_routed ambiguous (.inl rfl), ?_⟩
    have other : Reply.ambiguousQuery.status ≠ 200 := by decide
    rw [status, ambiguous]
    exact fun same => other (Option.some.inj same)
  rcases deleteToken_cases settings (nameIn turn.request turn.request.target.params) turn.store with
    ⟨reply, failed, refused⟩ | ⟨reply, next, deleted, done, left⟩
  · rw [failed] at routed
    refine .inl ⟨.of_routed routed (.inl rfl), ?_⟩
    rw [status, routed]
    exact fun same => refused (Option.some.inj same)
  · rw [deleted] at routed
    rw [status, store, routed]
    exact .inr ⟨congrArg some done, left⟩

omit [SnapshotStore σ] in
theorem other_effect (login : turn.request.target.path ≠ "/callback")
    (tokens : turn.request.target.path = "/api-token" →
      turn.request.method ≠ "POST" ∧ turn.request.method ≠ "DELETE") : turn.Quiet settings := by
  have unfolded : turn.routed settings = route settings turn.moment turn.request turn.store turn.wire := rfl
  unfold route at unfolded
  split at unfolded
  · rcases of_serveGet unfolded with refused | clear
    · exact .of_routed refused (.inl rfl)
    rcases of_withQuery clear with ambiguous | routed
    · exact .of_routed ambiguous (.inl rfl)
    · exact .of_routed routed (.inl rfl)
  · rename_i path
    exact absurd path login
  · rename_i path
    obtain ⟨post, delete⟩ := tokens path
    unfold serveTokens at unfolded
    split at unfolded
    · exact .of_routed unfolded (.inl rfl)
    · exact .of_routed unfolded (.inl rfl)
    · rename_i method
      exact absurd method post
    · rename_i method
      exact absurd method delete
    · exact .of_routed unfolded (.inl rfl)
  · unfold verify at unfolded
    split at unfolded <;> rename_i result <;> exact .of_routed unfolded (.inr (by rw [result]))

theorem Creates.grants {user token : String} (creates : turn.Creates settings user token)
    (path : turn.request.target.path = "/api-token") (method : turn.request.method = "POST") :
    turn.Grants settings ⟨turn.askedName, token, user⟩ .api := by
  obtain ⟨presented, authorized⟩ := creates.authorized
  exact .api path method authorized creates.stores.minted (by rw [status?, creates.told]; rfl)

theorem Grants.stores {entry : Registration} {kind : TokenKind} (grant : turn.Grants settings entry kind) :
    turn.Stores settings entry kind := by
  cases grant with
  | session path exchange subject minted succeeded =>
    rcases callback_effect path with quiet | ⟨exchanged, user, token, exchange', subject', -, stores, -⟩
    · cases minted.symm.trans quiet.minted
    · obtain rfl := exchange.unique exchange'
      obtain rfl := subject.unique subject'
      obtain rfl : _ = token := Option.some.inj (minted.symm.trans stores.minted)
      exact stores
  | api path method authorized minted succeeded =>
    rcases post_effect path method with ⟨quiet, -⟩ | ⟨user, token, creates⟩
    · cases minted.symm.trans quiet.minted
    · obtain ⟨presented, authorized'⟩ := creates.authorized
      obtain rfl := authorized.unique authorized'
      obtain rfl : _ = token := Option.some.inj (minted.symm.trans creates.stores.minted)
      exact creates.stores

theorem Deletes.removes {name : String} (deletes : turn.Deletes settings name) :
    (state (turn.served settings).store).index = (state turn.store).index.remove name := by
  obtain ⟨path, method, rfl, succeeded⟩ := deletes
  rcases delete_effect path method with ⟨-, failed⟩ | ⟨-, left⟩
  · exact absurd succeeded failed
  · exact congrArg Snapshot.index left

inductive Effect (settings : Settings) (turn : Turn σ) : Prop where
  | settled (settled : Settled settings turn.moment.now turn.request.headers turn.store turn.wire
      (turn.served settings).store)
  | login {exchanged : Exchanged} {user token : String}
      (grants : turn.Grants settings ⟨sessionName user, token, user⟩ .session)
      (left : state (turn.served settings).store =
        ((state turn.store).storeToken (sessionName user) token user).storeCredential user exchanged.credential)
  | creation {presented user token : String} (grants : turn.Grants settings ⟨turn.askedName, token, user⟩ .api)
      (authorized : turn.Authorized settings presented user)
      (left : state (turn.served settings).store =
        (state (authorize settings turn.moment.now turn.request.headers turn.store turn.wire).2.1).storeToken
          turn.askedName token user)
  | deletion {name : String} (deletes : turn.Deletes settings name)
      (left : state (turn.served settings).store = (state turn.store).deleteToken name)

theorem takes_effect (settings : Settings) (turn : Turn σ) : turn.Effect settings := by
  by_cases login : turn.request.target.path = "/callback"
  · rcases callback_effect login with quiet | ⟨exchanged, user, token, exchange, subject, status, stores, left⟩
    · exact .settled quiet.settled
    · exact .login (.session login exchange subject stores.minted status) left
  by_cases tokens : turn.request.target.path = "/api-token" ∧
      (turn.request.method = "POST" ∨ turn.request.method = "DELETE")
  · obtain ⟨path, method | method⟩ := tokens
    · rcases post_cases path method with ⟨quiet, -⟩ | ⟨user, token, creates, -, left⟩
      · exact .settled quiet.settled
      · obtain ⟨presented, authorized⟩ := creates.authorized
        exact .creation (creates.grants path method) authorized left
    · rcases delete_effect path method with ⟨quiet, -⟩ | ⟨status, left⟩
      · exact .settled quiet.settled
      · exact .deletion ⟨path, method, rfl, status⟩ left
  · refine .settled (other_effect login fun path => ?_).settled
    exact ⟨fun post => tokens ⟨path, .inl post⟩, fun delete => tokens ⟨path, .inr delete⟩⟩

theorem effect (settings : Settings) (turn : Turn σ) :
    (state (turn.served settings).store).index = (state turn.store).index ∨
    (∃ entry kind, turn.Grants settings entry kind) ∨ ∃ name, turn.Deletes settings name := by
  cases turn.takes_effect settings with
  | settled settled => exact .inl settled.index
  | login grants left => exact .inr (.inl ⟨_, _, grants⟩)
  | creation grants authorized left => exact .inr (.inl ⟨_, _, grants⟩)
  | deletion deletes left => exact .inr (.inr ⟨_, deletes⟩)

end Turn

end LoginGateway.Gateway
