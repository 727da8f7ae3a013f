import LoginGateway.Proofs.Gateway.RefreshTokens

namespace LoginGateway

theorem ProviderClient.Renewal.current {client : ProviderClient} {now : Instant} {wire : Http.Wire}
    {old refreshed : Credential} (renewal : client.Renewal now wire old refreshed) : ¬refreshed.Past now := by
  rintro ⟨expiry, named, before⟩
  cases renewal with
  | rotated held answered sent expires =>
    cases named
    exact expires.not_before before
  | carried held answered unsent expires =>
    cases named
    exact expires.not_before before

namespace Gateway

open Http
open SnapshotStore (state)

section

variable {settings : Settings} {now later : Instant} {headers : Headers} {known : Snapshot} {identity : Identity}
  {credential : Credential}

theorem Claimed.unique {token other : String} {claims told : ApiClaims} (one : Claimed settings headers token claims)
    (two : Claimed settings headers other told) : token = other ∧ claims = told := by
  obtain rfl := Except.ok.inj (one.presented.symm.trans two.presented)
  exact ⟨rfl, Except.ok.inj (one.verified.symm.trans two.verified)⟩

structure StandsFor (settings : Settings) (headers : Headers) (known : Snapshot) (claims : ApiClaims)
    (identity : Identity) : Prop where
  claimed : ∃ token, Claimed settings headers token claims ∧ known.index.userOf? token = some identity.user
  email : claims.email = identity.email

theorem Recognized.standsFor (recognized : Recognized settings now headers known identity credential) :
    ∃ claims, StandsFor settings headers known claims identity ∧ ¬Lapsed claims now ∧
      known.users.find? identity.user = some credential := by
  cases recognized with
  | user claimed current registered stored => exact ⟨_, ⟨⟨_, claimed, registered⟩, rfl⟩, current, stored⟩

namespace StandsFor

variable {claims : ApiClaims}

theorem of_index {other : Snapshot} (stands : StandsFor settings headers known claims identity)
    (same : other.index = known.index) : StandsFor settings headers other claims identity := by
  obtain ⟨⟨token, claimed, registered⟩, email⟩ := stands
  exact ⟨⟨token, claimed, same ▸ registered⟩, email⟩

theorem recognized (stands : StandsFor settings headers known claims identity) (current : ¬Lapsed claims later)
    (stored : known.users.find? identity.user = some credential) :
    Recognized settings later headers known identity credential := by
  obtain ⟨⟨token, claimed, registered⟩, email⟩ := stands
  obtain ⟨user, _⟩ := identity
  cases email
  exact .user claimed current registered stored

theorem refused (stands : StandsFor settings headers known claims identity)
    (missing : known.users.find? identity.user = none) (later : Instant) :
    (¬Lapsed claims later → Refused settings later headers known (.noCredential identity.user)) ∧
      (Lapsed claims later → Refused settings later headers known .expired) := by
  obtain ⟨⟨token, claimed, registered⟩, -⟩ := stands
  exact ⟨fun current => .noCredential claimed current registered missing, fun lapsed => .expired claimed lapsed⟩

end StandsFor

variable {σ : Type} [TokenStore σ] [SnapshotStore σ] {store next : σ} {wire sent : Wire}

theorem standsFor_of_authorized (authorized : authorize settings now headers store wire = (.ok identity, next, sent)) :
    ∃ claims credential, StandsFor settings headers (state next) claims identity ∧ ¬Lapsed claims now ∧
      (state next).users.find? identity.user = some credential ∧ ¬credential.Past now := by
  have course := authorize_course settings now headers store wire
  rw [authorized] at course
  cases course with
  | current recognized good =>
    obtain ⟨claims, stands, current, stored⟩ := recognized.standsFor
    exact ⟨claims, _, stands, current, stored, good⟩
  | @renewed _ _ refreshed _ _ recognized past answer left =>
    obtain ⟨claims, stands, current, -⟩ := recognized.standsFor
    have stored : (state next).users.find? identity.user = some refreshed := by
      rw [left]
      exact Snapshot.find?_storeCredential_self _ _ _
    have good := (ProviderClient.refresh_renews (congrArg Prod.fst answer)).current
    exact ⟨claims, refreshed, stands.of_index (by rw [left]; rfl), current, stored, good⟩

theorem standsFor_of_unrefreshed {error : ProviderError} (dropped : settings.invalidateOnRefreshFailure = true)
    (failed : authorize settings now headers store wire = (.error (.error (.refreshFailed error)), next, sent)) :
    ∃ claims identity, StandsFor settings headers (state next) claims identity ∧ ¬Lapsed claims now ∧
      (state next).users.find? identity.user = none := by
  have course := authorize_course settings now headers store wire
  rw [failed] at course
  cases course with
  | refused refused => cases refused
  | failed recognized past answer left =>
    rw [if_pos dropped] at left
    obtain ⟨claims, stands, current, -⟩ := recognized.standsFor
    refine ⟨claims, _, stands.of_index (by rw [left]; rfl), current, ?_⟩
    rw [left, Snapshot.invalidate, Dict.find?_erase, if_pos rfl]

/-- In every state of a store and for every provider: if a request is let in, then at any time at which its token and
the credential that the user now has are good, and they are now, it is let in as the same, whatever the provider would
answer, and nothing is sent or changed. If the credential is dropped since its refresh failed, then the request is told
from then on that there is none, as long as its token is good, and nothing is sent or changed either. -/
theorem authorize_settles (settings : Settings) (now : Instant) (headers : Headers) (store : σ) (wire : Wire) :
    (∀ identity next sent, authorize settings now headers store wire = (.ok identity, next, sent) →
      ∃ claims credential, StandsFor settings headers (state next) claims identity ∧ ¬Lapsed claims now ∧
        (state next).users.find? identity.user = some credential ∧ ¬credential.Past now ∧
        ∀ later (again : σ) provider, state again = state next → ¬Lapsed claims later → ¬credential.Past later →
          authorize settings later headers again provider = (.ok identity, again, provider)) ∧
    ∀ error next sent, settings.invalidateOnRefreshFailure = true →
      authorize settings now headers store wire = (.error (.error (.refreshFailed error)), next, sent) →
      ∃ claims identity, StandsFor settings headers (state next) claims identity ∧ ¬Lapsed claims now ∧
        ∀ later (again : σ) provider, state again = state next →
          (¬Lapsed claims later → authorize settings later headers again provider =
            (.error (.error (.noCredential identity.user)), again, provider)) ∧
          (Lapsed claims later → authorize settings later headers again provider =
            (.error (.error .expired), again, provider)) := by
  constructor
  · intro identity next sent authorized
    obtain ⟨claims, credential, stands, current, stored, good⟩ := standsFor_of_authorized authorized
    refine ⟨claims, credential, stands, current, stored, good, fun later again provider same current' good' => ?_⟩
    have recognized := stands.recognized current' stored
    rw [← same] at recognized
    exact recognized.authorize_current good'
  · intro error next sent dropped failed
    obtain ⟨claims, identity, stands, current, missing⟩ := standsFor_of_unrefreshed dropped failed
    refine ⟨claims, identity, stands, current, fun later again provider same => ?_⟩
    obtain ⟨without, expired⟩ := stands.refused missing later
    rw [← same] at without expired
    exact ⟨fun current' => (without current').authorize, fun lapsed => (expired lapsed).authorize⟩

end

namespace Visit

def silent : Wire := ⟨fun _ => .dropped, []⟩

def dropping : Settings := { settings with invalidateOnRefreshFailure := true }

def bearing : Headers := [("authorization", Text.encode ("Bearer " ++ tokenOf "alice" "a@b" 7))]

theorem bearing_claimed : Claimed dropping bearing (tokenOf "alice" "a@b" 7) ⟨"alice", "a@b", 7, some 4600⟩ :=
  ⟨PresentedToken.ofRequest_mint _ _ _ _, ApiClaims.verify_mint _ _⟩

theorem bearing_recognized (access : String) :
    Recognized dropping ⟨1000, 0⟩ bearing (state (lapsedStore access)) ⟨"alice", "a@b"⟩ (lapsed access) :=
  .user bearing_claimed (alice_current (by decide)) (lapsedStore_registered access) (lapsedStore_stored access)

end Visit

open Visit in
theorem authorize_settles_alice :
    (∃ next sent, authorize dropping ⟨1000, 0⟩ bearing (lapsedStore "old") (renewal "old" "new").wire =
        (.ok ⟨"alice", "a@b"⟩, next, sent) ∧
      (state next).users.find? "alice" = some ⟨"new", "Bearer", some "refresh", none⟩ ∧
      authorize dropping ⟨4600, 0⟩ bearing next silent = (.ok ⟨"alice", "a@b"⟩, next, silent)) ∧
    ∃ next sent, authorize dropping ⟨1000, 0⟩ bearing (lapsedStore "old") silent =
        (.error (.error (.refreshFailed .unreachable)), next, sent) ∧
      authorize dropping ⟨4600, 0⟩ bearing next silent = (.error (.error (.noCredential "alice")), next, silent) := by
  have current : ¬Lapsed ⟨"alice", "a@b", 7, some 4600⟩ ⟨4600, 0⟩ := alice_current (by decide)
  constructor
  · have answer : dropping.client.refresh ⟨1000, 0⟩ (lapsed "old") (renewal "old" "new").wire =
        (.ok ⟨"new", "Bearer", some "refresh", none⟩, _) := Prod.ext (by decide +kernel) rfl
    obtain ⟨next, authorized, left⟩ := (bearing_recognized "old").authorize_answered (lapsed_past "old") answer
    have held : (state next).users.find? "alice" = some ⟨"new", "Bearer", some "refresh", none⟩ := by
      rw [left]
      exact Snapshot.find?_storeCredential_self _ _ _
    obtain ⟨settles, -⟩ := authorize_settles dropping ⟨1000, 0⟩ bearing (lapsedStore "old") (renewal "old" "new").wire
    obtain ⟨claims, credential, ⟨⟨token, claimed, -⟩, -⟩, -, stored, -, again⟩ := settles _ next _ authorized
    obtain ⟨-, rfl⟩ := bearing_claimed.unique claimed
    cases held.symm.trans stored
    refine ⟨next, _, authorized, held, again ⟨4600, 0⟩ next silent rfl current ?_⟩
    rintro ⟨expiry, named, -⟩
    cases named
  · have answer : dropping.client.refresh ⟨1000, 0⟩ (lapsed "old") silent = (.error (.error .unreachable), _) :=
      Prod.ext (by decide +kernel) rfl
    obtain ⟨next, failed, left⟩ := (bearing_recognized "old").authorize_answered (lapsed_past "old") answer
    obtain ⟨-, settles⟩ := authorize_settles dropping ⟨1000, 0⟩ bearing (lapsedStore "old") silent
    obtain ⟨claims, identity, ⟨⟨token, claimed, registered⟩, -⟩, -, again⟩ := settles _ next _ rfl failed
    obtain ⟨rfl, rfl⟩ := bearing_claimed.unique claimed
    have user : some identity.user = some "alice" := by
      rw [← registered, left, renewed_index]
      exact lapsedStore_registered "old"
    have without := (again ⟨4600, 0⟩ next silent rfl).1 current
    rw [Option.some.inj user] at without
    exact ⟨next, _, failed, without⟩

end Gateway

end LoginGateway
