import LoginGateway.Gateway.Router
import LoginGateway.Proofs.Results
import LoginGateway.Proofs.Store.Registrations

namespace LoginGateway.Gateway

open Http

/-- A request that the gateway serves, with the store and the wire that it finds. -/
structure Turn (σ : Type) where
  moment : Moment
  request : Incoming
  store : σ
  wire : Wire

def ExchangedFor (user : String) (exchanged : Exchanged) : Prop :=
  ∃ idToken claims, exchanged.idToken = some idToken ∧
    SignedToken.readUnverified IdClaims.decoder idToken = .ok claims ∧ claims.subject = some user

theorem ExchangedFor.unique {exchanged : Exchanged} {user user' : String} (one : ExchangedFor user exchanged)
    (other : ExchangedFor user' exchanged) : user = user' := by
  obtain ⟨idToken, claims, present, read, subject⟩ := one
  obtain ⟨idToken', claims', present', read', subject'⟩ := other
  obtain rfl := Option.some.inj (present.symm.trans present')
  obtain rfl := Except.ok.inj (read.symm.trans read')
  exact Option.some.inj (subject.symm.trans subject')

theorem exchangedFor_of_userOf {exchanged : Exchanged} {user email : String}
    (identified : userOf exchanged = .ok (user, email)) : ExchangedFor user exchanged := by
  unfold userOf at identified
  split at identified
  · rename_i idToken present
    obtain ⟨claims, read, identified⟩ := of_bind_ok identified
    split at identified
    · rename_i subject named
      split at identified
      · cases identified
        exact ⟨idToken, claims, present, of_mapError_ok read, (Option.filter_eq_some_iff.mp named).1⟩
      · cases identified
    · cases identified
  · cases identified

variable {σ : Type}

theorem of_serveGet {request : Incoming} {store : σ} {wire : Wire} {serve served : Served σ}
    (same : served = serveGet request store wire serve) :
    served = ⟨some (.methodNotAllowed "GET,HEAD"), store, wire, none⟩ ∨ served = serve := by
  unfold serveGet at same
  split at same
  · exact .inr same
  · exact .inl same

theorem of_withQuery {request : Incoming} {names : List String} {store : σ} {wire : Wire}
    {serve : Params → Served σ} {served : Served σ} (same : served = withQuery request names store wire serve) :
    served = ⟨some .ambiguousQuery, store, wire, none⟩ ∨ served = serve request.target.params := by
  dsimp only [withQuery] at same
  split at same
  · exact .inr same
  · exact .inl same

section

variable [TokenStore σ]

theorem authorize_ok {settings : Settings} {now : Instant} {headers : Headers} {store : σ} {wire : Wire}
    {identity : Identity} (authorized : (authorize settings now headers store wire).1 = .ok identity) :
    ∃ credential, identify settings now headers store = .ok (identity, credential) := by
  unfold authorize at authorized
  split at authorized
  · cases authorized
  · rename_i found credential identified
    refine ⟨credential, ?_⟩
    rw [identified]
    split at authorized
    · cases authorized
      rfl
    · split at authorized
      · cases authorized
        rfl
      · cases authorized

theorem identify_ok {settings : Settings} {now : Instant} {headers : Headers} {store : σ} {identity : Identity}
    {credential : Credential} (identified : identify settings now headers store = .ok (identity, credential)) :
    ∃ token claims, PresentedToken.ofRequest headers settings.tokenCookie = .ok token ∧
      SignedToken.verify ApiClaims.decoder settings.secret token = .ok claims ∧
      expiredAt claims.expiry now = false ∧ TokenStore.userOf store token = .ok identity.user ∧
      TokenStore.hasCredential store identity.user = true := by
  obtain ⟨token, presented, identified⟩ := of_bind_ok identified
  obtain ⟨claims, verified, identified⟩ := of_bind_ok identified
  split at identified
  · cases identified
  · rename_i good
    obtain ⟨user, registered, identified⟩ := of_bind_ok identified
    split at identified
    · cases identified
    · rename_i usable
      split at identified
      · cases identified
        exact ⟨token, claims, of_mapError_ok presented, of_mapError_ok verified, by simpa using good,
          of_mapError_ok registered, by simpa using usable⟩
      · cases identified
      · cases identified

theorem verify_left (settings : Settings) (now : Instant) (headers : Headers) (store : σ) (wire : Wire) :
    (verify settings now headers store wire).store = (authorize settings now headers store wire).2.1 ∧
      (verify settings now headers store wire).wire = (authorize settings now headers store wire).2.2 := by
  unfold verify
  split <;> rename_i authorized <;> rw [authorized] <;> exact ⟨rfl, rfl⟩

end

namespace Turn

abbrev askedName (turn : Turn σ) : String := Text.trim (nameIn turn.request turn.request.target.params)

def Exchanges (settings : Settings) (turn : Turn σ) (exchanged : Exchanged) : Prop :=
  ∃ code destination, accept settings turn.moment.now turn.request.target.params = .ok (code, destination) ∧
    (settings.client.exchangeCode turn.moment.now code turn.wire).1 = .ok exchanged

theorem Exchanges.unique {settings : Settings} {turn : Turn σ} {first second : Exchanged}
    (one : turn.Exchanges settings first) (other : turn.Exchanges settings second) : first = second := by
  obtain ⟨code, destination, accepted, traded⟩ := one
  obtain ⟨code', destination', accepted', traded'⟩ := other
  obtain ⟨rfl, rfl⟩ := Prod.mk.inj (Except.ok.inj (accepted.symm.trans accepted'))
  exact Except.ok.inj (traded.symm.trans traded')

variable [TokenStore σ]

def served (settings : Settings) (turn : Turn σ) : Served σ :=
  serve settings turn.moment turn.request turn.store turn.wire

def status? (settings : Settings) (turn : Turn σ) : Option Nat := (turn.served settings).reply.map (·.status)

def Authorized (settings : Settings) (turn : Turn σ) (token user : String) : Prop :=
  PresentedToken.ofRequest turn.request.headers settings.tokenCookie = .ok token ∧
    ∃ identity, identity.user = user ∧
      (authorize settings turn.moment.now turn.request.headers turn.store turn.wire).1 = .ok identity

theorem Authorized.unique {settings : Settings} {turn : Turn σ} {presented presented' user user' : String}
    (one : turn.Authorized settings presented user) (other : turn.Authorized settings presented' user') :
    user = user' := by
  obtain ⟨-, identity, rfl, authorized⟩ := one
  obtain ⟨-, identity', rfl, authorized'⟩ := other
  exact congrArg Identity.user (Except.ok.inj (authorized.symm.trans authorized'))

theorem authorized_of_authorize {settings : Settings} {turn : Turn σ} {identity : Identity}
    (authorized : (authorize settings turn.moment.now turn.request.headers turn.store turn.wire).1 = .ok identity) :
    ∃ token, turn.Authorized settings token identity.user := by
  obtain ⟨credential, identified⟩ := authorize_ok authorized
  obtain ⟨token, claims, presented, -⟩ := identify_ok identified
  exact ⟨token, presented, identity, rfl, authorized⟩

/-- The request mints a token and stores it under a name for a user. -/
inductive Grants (settings : Settings) (turn : Turn σ) : Registration → TokenKind → Prop where
  | session {exchanged : Exchanged} {user token : String} (path : turn.request.target.path = "/callback")
      (exchange : turn.Exchanges settings exchanged) (subject : ExchangedFor user exchanged)
      (minted : (turn.served settings).minted = some token) (succeeded : turn.status? settings = some 303) :
      Grants settings turn ⟨sessionName user, token, user⟩ .session
  | api {presented user token : String} (path : turn.request.target.path = "/api-token")
      (method : turn.request.method = "POST") (authorized : turn.Authorized settings presented user)
      (minted : (turn.served settings).minted = some token) (succeeded : turn.status? settings = some 200) :
      Grants settings turn ⟨Text.trim (nameIn turn.request turn.request.target.params), token, user⟩ .api

structure Deletes (settings : Settings) (turn : Turn σ) (name : String) : Prop where
  path : turn.request.target.path = "/api-token"
  method : turn.request.method = "DELETE"
  named : name = nameIn turn.request turn.request.target.params
  succeeded : turn.status? settings = some 200

def routed (settings : Settings) (turn : Turn σ) : Served σ :=
  route settings turn.moment turn.request turn.store turn.wire

theorem served_routed (settings : Settings) (turn : Turn σ) :
    (turn.served settings).store = (turn.routed settings).store ∧
    (turn.served settings).minted = (turn.routed settings).minted ∧
    turn.status? settings = (turn.routed settings).reply.map (·.status) := by
  dsimp only [status?, served, serve, routed]
  split
  · exact ⟨rfl, rfl, by rw [Option.map_map]; rfl⟩
  · exact ⟨rfl, rfl, rfl⟩

theorem served_wire (settings : Settings) (turn : Turn σ) :
    (turn.served settings).wire = (turn.routed settings).wire := by
  dsimp only [served, serve, routed]
  split <;> rfl

theorem served_of_method {settings : Settings} {turn : Turn σ} (method : turn.request.method ≠ "HEAD") :
    turn.served settings = turn.routed settings := by
  dsimp only [served, serve, routed]
  exact if_neg method

theorem routed_tokens {settings : Settings} {turn : Turn σ} (path : turn.request.target.path = "/api-token") :
    turn.routed settings = serveTokens settings turn.moment turn.request turn.store turn.wire := by
  unfold routed route
  rw [path]
  rfl

/-- No path of the gateway's own: the request asks whether its token is good. -/
def AsksVerification (turn : Turn σ) : Prop :=
  turn.request.target.path ≠ "/login" ∧ turn.request.target.path ≠ "/callback" ∧
    turn.request.target.path ≠ "/api-token"

theorem routed_verify {settings : Settings} {turn : Turn σ} (asks : turn.AsksVerification) :
    turn.routed settings = verify settings turn.moment.now turn.request.headers turn.store turn.wire := by
  obtain ⟨login, callback, tokens⟩ := asks
  unfold routed route
  split
  · rename_i path
    exact absurd path login
  · rename_i path
    exact absurd path callback
  · rename_i path
    exact absurd path tokens
  · rfl

theorem verified_iff {settings : Settings} {turn : Turn σ} (asks : turn.AsksVerification) :
    turn.status? settings = some 200 ↔ ∃ token user, turn.Authorized settings token user := by
  rw [(served_routed settings turn).2.2, routed_verify asks]
  constructor
  · intro good
    unfold verify at good
    split at good
    · cases good
    · exact absurd (Option.some.inj good) (by decide)
    · rename_i identity next after authorized
      obtain ⟨token, authorized⟩ := authorized_of_authorize (congrArg Prod.fst authorized)
      exact ⟨token, identity.user, authorized⟩
  · rintro ⟨token, user, -, identity, -, authorized⟩
    unfold verify
    split <;> rename_i result <;> rw [result] at authorized
    · cases authorized
    · cases authorized
    · rfl

end Turn

end LoginGateway.Gateway
