import LoginGateway.Proofs.Gateway.Effects
import LoginGateway.Proofs.Token.Minted

namespace LoginGateway

theorem Claims.toInt_expiryAfter? {now : Instant} {lifetime : Int} {expiry : Int64}
    (expires : expiryAfter? now lifetime = some expiry) : expiry.toInt = now.seconds + lifetime := by
  simp only [expiryAfter?, Instant.after?] at expires
  split at expires
  · rename_i ranged
    obtain ⟨-, -, least, greatest⟩ := ranged
    have low : -0x8000000000000000 ≤ Instant.leastSecond := by decide
    have high : Instant.greatestSecond < 0x8000000000000000 := by decide
    cases expires
    exact Int64.toInt_ofInt_of_le (low.trans least) (greatest.trans_lt high)
  · cases expires

theorem Issued.current {secret : Octets} {since now : Instant} {lifetime : Int} {user token : String}
    {claims : ApiClaims} (issued : Issued secret since lifetime user token)
    (verified : SignedToken.verify ApiClaims.decoder secret token = .ok claims)
    (good : expiredAt claims.expiry now = false) : now.seconds ≤ since.seconds + lifetime := by
  obtain ⟨email, salt, expiry, expires, rfl⟩ := issued
  rw [ApiClaims.verify_mint] at verified
  cases verified
  have last := Claims.toInt_expiryAfter? expires
  simp only [expiredAt, decide_eq_false_iff_not] at good
  omega

namespace Gateway

open SnapshotStore (state)

section

variable {σ : Type} [TokenStore σ]

/-- The turn deletes no such name, and grants no token under that name and not that token under another. -/
structure Turn.Spares (settings : Settings) (turn : Turn σ) (entry : Registration) : Prop where
  kept : ¬turn.Deletes settings entry.name
  granted : ∀ other kind, turn.Grants settings other kind → other.name ≠ entry.name ∧ other.token ≠ entry.token

/-- The turn granted the registration, and no later one has undone it. -/
structure Standing (settings : Settings) (turns : List (Turn σ)) (entry : Registration) (kind : TokenKind)
    (grant : Turn σ) : Prop where
  granted : grant.Grants settings entry kind
  since : ∃ before after, turns = before ++ grant :: after ∧ ∀ turn ∈ after, turn.Spares settings entry

variable {settings : Settings} {turns : List (Turn σ)} {turn grant : Turn σ} {entry : Registration}
  {kind : TokenKind}

theorem Standing.fresh (granted : turn.Grants settings entry kind) :
    Standing settings (turns ++ [turn]) entry kind turn where
  granted := granted
  since := ⟨turns, [], rfl, by simp⟩

theorem Standing.later (standing : Standing settings turns entry kind grant) (spared : turn.Spares settings entry) :
    Standing settings (turns ++ [turn]) entry kind grant where
  granted := standing.granted
  since := by
    obtain ⟨before, after, rfl, since⟩ := standing.since
    refine ⟨before, after ++ [turn], by simp, ?_⟩
    intro later member
    rcases List.mem_append.mp member with member | member
    · exact since later member
    · rw [List.mem_singleton.mp member]
      exact spared

variable [SnapshotStore σ]

/-- The turns that a gateway has served, from one store to another. Between two turns a store may do whatever
leaves its state as it is; saving it does. -/
inductive History (settings : Settings) (start : σ) : List (Turn σ) → σ → Prop where
  | start : History settings start [] start
  | idle {turns : List (Turn σ)} {store next : σ} (history : History settings start turns store)
      (same : state next = state store) : History settings start turns next
  | serve {turns : List (Turn σ)} (turn : Turn σ) (history : History settings start turns turn.store) :
      History settings start (turns ++ [turn]) (turn.served settings).store

theorem Turn.represented {held : Registrations} (represents : (state turn.store).index.Represents held)
    (settings : Settings) : ∃ held, (state (turn.served settings).store).index.Represents held := by
  rcases turn.effect settings with same | ⟨entry, kind, grant⟩ | ⟨name, deletes⟩
  · rw [same]
    exact ⟨held, represents⟩
  · rw [grant.stores.index]
    exact ⟨_, represents.insert entry⟩
  · rw [deletes.removes]
    exact ⟨_, represents.remove name⟩

theorem Turn.holds_after {held : Registrations} (represents : (state turn.store).index.Represents held)
    (holds : (state (turn.served settings).store).index.Holds entry) :
    (∃ kind, turn.Grants settings entry kind) ∨
    (state turn.store).index.Holds entry ∧ turn.Spares settings entry := by
  by_cases granted : ∃ kind, turn.Grants settings entry kind
  · exact .inl granted
  -- What the turn did not grant itself has to get past every grant and deletion that the turn may be.
  have ofGrant : ∀ other kind, turn.Grants settings other kind →
      entry ∈ held ∧ entry.name ≠ other.name ∧ entry.token ≠ other.token := by
    intro other kind grant
    rw [grant.stores.index, (represents.insert other).holds_iff] at holds
    rcases Registrations.mem_register.mp holds with rfl | kept
    · exact absurd ⟨kind, grant⟩ granted
    · exact kept
  have ofDeletion : ∀ name, turn.Deletes settings name → entry ∈ held ∧ entry.name ≠ name := by
    intro name deletes
    rw [deletes.removes, (represents.remove name).holds_iff] at holds
    exact Registrations.mem_withdraw.mp holds
  refine .inr ⟨?_, fun deletes => (ofDeletion _ deletes).2 rfl, fun other kind grant => ?_⟩
  · rcases turn.effect settings with same | ⟨other, kind, grant⟩ | ⟨name, deletes⟩
    · rwa [same] at holds
    · exact (represents.holds_iff entry).mpr (ofGrant other kind grant).1
    · exact (represents.holds_iff entry).mpr (ofDeletion name deletes).1
  · obtain ⟨-, name, token⟩ := ofGrant other kind grant
    exact ⟨name.symm, token.symm⟩

/-- The index is sound, and all that it holds goes back to a grant that stands. -/
structure Accounted (settings : Settings) (turns : List (Turn σ)) (store : σ) : Prop where
  sound : ∃ held, (state store).index.Represents held
  standing : ∀ entry, (state store).index.Holds entry → ∃ kind grant, Standing settings turns entry kind grant

theorem Accounted.after (accounted : Accounted settings turns turn.store) :
    Accounted settings (turns ++ [turn]) (turn.served settings).store := by
  obtain ⟨held, represents⟩ := accounted.sound
  refine ⟨turn.represented represents settings, ?_⟩
  intro entry holds
  rcases turn.holds_after represents holds with ⟨kind, granted⟩ | ⟨before, spared⟩
  · exact ⟨kind, turn, .fresh granted⟩
  · obtain ⟨kind, grant, standing⟩ := accounted.standing entry before
    exact ⟨kind, grant, standing.later spared⟩

theorem History.accounted {start store : σ} (empty : state start = .empty)
    (history : History settings start turns store) : Accounted settings turns store := by
  induction history with
  | start =>
    have represents : (state start).index.Represents ∅ := by
      rw [empty]
      exact TokenIndex.represents_empty
    refine ⟨⟨∅, represents⟩, fun entry holds => ?_⟩
    exact absurd ((represents.holds_iff entry).mp holds) (Finset.notMem_empty entry)
  | idle history same ih => exact ⟨by rw [same]; exact ih.sound, by rw [same]; exact ih.standing⟩
  | serve turn history ih => exact ih.after

theorem Turn.Authorized.registered {token user : String} (authorized : turn.Authorized settings token user) :
    (state turn.store).index.tokens.find? token = some user ∧
    TokenStore.hasCredential turn.store user = true ∧
    ∃ claims, SignedToken.verify ApiClaims.decoder settings.secret token = .ok claims ∧
      expiredAt claims.expiry turn.moment.now = false := by
  obtain ⟨presented, identity, rfl, authorized⟩ := authorized
  obtain ⟨credential, identified⟩ := authorize_ok authorized
  obtain ⟨token', claims, presented', verified, good, registered, usable⟩ := identify_ok identified
  obtain rfl := Except.ok.inj (presented.symm.trans presented')
  refine ⟨?_, usable, claims, verified, good⟩
  rw [SnapshotStore.userOf, Snapshot.userOf] at registered
  split at registered
  · rename_i found
    rw [← Except.ok.inj registered]
    exact found
  · cases registered

/-- Whoever is let in was granted the token that they present, by a turn whose grant still stands, and has a
credential; and the token's lifetime from that turn on is not over. -/
theorem authorized_by_standing_grant {start : σ} (empty : state start = .empty)
    (history : History settings start turns turn.store) :
    (turn.AsksVerification →
      (turn.status? settings = some 200 ↔ ∃ token user, turn.Authorized settings token user)) ∧
    ∀ token user, turn.Authorized settings token user →
      TokenStore.hasCredential turn.store user = true ∧
      ∃ name kind grant, Standing settings turns ⟨name, token, user⟩ kind grant ∧
        (state turn.store).index.Holds ⟨name, token, user⟩ ∧
        turn.moment.now.seconds ≤ grant.moment.now.seconds + kind.lifetime := by
  refine ⟨Turn.verified_iff, ?_⟩
  intro token user authorized
  obtain ⟨found, usable, claims, verified, good⟩ := authorized.registered
  obtain ⟨⟨held, represents⟩, accounts⟩ := history.accounted empty
  obtain ⟨name, member⟩ := (represents.tokens token user).mp found
  have holds := (represents.holds_iff ⟨name, token, user⟩).mpr member
  obtain ⟨kind, grant, standing⟩ := accounts _ holds
  -- The expiry in the token is the one that it was minted with, since the signature was checked.
  have issued := standing.granted.stores.issued
  exact ⟨usable, name, kind, grant, standing, holds, issued.current verified good⟩

end

namespace Visit

open Http

/-- What is said of a text on one line that ends with a text in the place of a number of seconds. -/
def wording : Parsed → Json.Wording := fun _ text _ =>
  ⟨"invalid type: string \"3600\", expected i64", 1, text.length - 1⟩

def settings : Settings :=
  ⟨⟨"http://provider/auth", "http://provider/token", "client", "secret", "http://gateway/callback"⟩,
    Text.encode "signing secret", false, false, defaultTokenCookie, defaultSessionCookie, wording⟩

def provider : Wire :=
  let idToken := "header.eyJzdWIiOiJhbGljZSIsImVtYWlsIjoiYUBiIn0.signature"
  let body := Json.object [("access_token", Json.quote "access"), ("id_token", Json.quote idToken)]
  ⟨fun _ => .answered ⟨200, some body⟩, []⟩

def loginTurn : Turn PersistedStore where
  moment := ⟨⟨1000, 0⟩, [7]⟩
  request :=
    { method := "GET"
      target := ⟨"/callback", some ("code=c&state=eyJ0eXAiOiJKV1QiLCJhbGciOiJIUzI1NiJ9.eyJyZCI6Ii8iLCJleHAiOjEzMDB9"
        ++ ".b4gCpyekBDsixjsHV-0zdkFQXHZlg51_EZxJidqnsFA")⟩
      headers := []
      body := [] }
  store := .ofState .empty
  wire := provider

def token : String :=
  "eyJ0eXAiOiJKV1QiLCJhbGciOiJIUzI1NiJ9.eyJzdWIiOiJhbGljZSIsImVtYWlsIjoiYUBiIiwicmFuZG9taXplciI6NywiZXhwIjo0NjAwfQ"
    ++ ".43UlKlpcKVfmpE7oEPXElC77IQ1Y4F4dgbkTayJaPSg"

theorem token_minted : token = SignedToken.mint settings.secret (ApiClaims.json ⟨"alice", "a@b", 7, some 4600⟩) := by
  decide +kernel

def saved : PersistedStore :=
  (PersistedStore.settle false (loginTurn.served settings).store (⟨none, 0⟩ : MemoryBackend)).1

theorem saved_state : state saved = state (loginTurn.served settings).store := by
  rw [PersistedStore.state_eq, PersistedStore.state_eq, saved, PersistedStore.settle_state]

def visitTurn : Turn PersistedStore where
  moment := ⟨⟨4600, 0⟩, []⟩
  request := ⟨"GET", ⟨"/", none⟩, [("authorization", Text.encode ("Bearer " ++ token))], []⟩
  store := saved
  wire := provider

end Visit

open Visit in
theorem authorized_by_standing_grant_visit :
    History settings loginTurn.store [loginTurn] visitTurn.store ∧ visitTurn.AsksVerification ∧
      visitTurn.Authorized settings token "alice" ∧ visitTurn.status? settings = some 200 ∧
      TokenStore.hasCredential visitTurn.store "alice" = true ∧
      ∃ name kind grant, Standing settings [loginTurn] ⟨name, token, "alice"⟩ kind grant ∧
        (state visitTurn.store).index.Holds ⟨name, token, "alice"⟩ ∧
        visitTurn.moment.now.seconds ≤ grant.moment.now.seconds + kind.lifetime := by
  have history : History settings loginTurn.store [loginTurn] visitTurn.store :=
    .idle (.serve loginTurn .start) saved_state
  have asks : visitTurn.AsksVerification := ⟨by decide, by decide, by decide⟩
  have presented : PresentedToken.ofRequest visitTurn.request.headers settings.tokenCookie = .ok token := by
    decide +kernel
  have authorized : visitTurn.Authorized settings token "alice" := by
    refine ⟨presented, ⟨"alice", "a@b"⟩, rfl, ?_⟩
    rw [authorize, identify, presented]
    decide +kernel
  obtain ⟨verified, granted⟩ := authorized_by_standing_grant rfl history
  obtain ⟨usable, standing⟩ := granted token "alice" authorized
  exact ⟨history, asks, authorized, (verified asks).mpr ⟨_, _, authorized⟩, usable, standing⟩

end Gateway

end LoginGateway
