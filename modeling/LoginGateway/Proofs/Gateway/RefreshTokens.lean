import LoginGateway.Proofs.Gateway.Credentials
import LoginGateway.Proofs.Gateway.Secrecy
import LoginGateway.Proofs.Provider.TokenAnswers

namespace LoginGateway.Gateway

open Http
open SnapshotStore (state)

/-- Whatever credential the user has can be refreshed. -/
def Renewable (known : Snapshot) (user : String) : Prop :=
  ∀ credential, known.users.find? user = some credential → credential.Refreshable

section

variable {known : Snapshot} {user other : String} {credential : Credential}

theorem Renewable.of_stored (stored : known.users.find? user = some credential) (refreshable : credential.Refreshable) :
    Renewable known user := by
  intro found stored'
  cases stored.symm.trans stored'
  exact refreshable

theorem Renewable.afterStore (renewable : Renewable known user) (fresh : user = other → credential.Refreshable) :
    Renewable (known.storeCredential other credential) user := by
  intro found stored
  by_cases same : user = other
  · subst same
    rw [Snapshot.find?_storeCredential_self] at stored
    cases stored
    exact fresh rfl
  · rw [Snapshot.find?_storeCredential_of_ne _ same] at stored
    exact renewable found stored

theorem Renewable.afterInvalidate (renewable : Renewable known user) : Renewable (known.invalidate other) user := by
  intro found stored
  rw [Snapshot.invalidate, Dict.find?_erase] at stored
  split at stored
  · cases stored
  · exact renewable found stored

end

section

variable {σ : Type} [TokenStore σ] [SnapshotStore σ] {settings : Settings} {now : Instant} {headers : Headers}
  {start store next : σ} {wire : Wire} {turn : Turn σ} {turns : List (Turn σ)} {user : String}

theorem Renewable.afterAuthorize (renewable : Renewable (state store) user) :
    Renewable (state (authorize settings now headers store wire).2.1) user := by
  have course := authorize_course settings now headers store wire
  generalize authorize settings now headers store wire = outcome at course
  cases course with
  | refused refused => exact renewable
  | current recognized current => exact renewable
  | renewed recognized past answer left =>
    rw [left]
    exact renewable.afterStore fun _ => (ProviderClient.refresh_renews (congrArg Prod.fst answer)).refreshable
  | failed recognized past answer left =>
    rw [left]
    split
    · exact renewable.afterInvalidate
    · exact renewable
  | crashed recognized past answer left => rwa [left]

theorem Renewable.afterSettled (renewable : Renewable (state store) user)
    (settled : Settled settings now headers store wire next) : Renewable (state next) user := by
  rcases settled with rfl | rfl
  · exact renewable
  · exact renewable.afterAuthorize

def Turn.LogsInWithout (settings : Settings) (turn : Turn σ) (user : String) : Prop :=
  ∃ exchanged token, turn.Exchanges settings exchanged ∧
    turn.Grants settings ⟨sessionName user, token, user⟩ .session ∧ ¬exchanged.credential.Refreshable

omit [SnapshotStore σ] in
theorem Turn.Grants.path {entry : Registration} (granted : turn.Grants settings entry .session) :
    turn.request.target.path = "/callback" := by
  cases granted with
  | session path exchange subject minted succeeded => exact path

theorem Renewable.afterTurn (renewable : Renewable (state turn.store) user) (spared : ¬turn.LogsInWithout settings user) :
    Renewable (state (turn.served settings).store) user := by
  cases turn.takes_effect settings with
  | settled settled => exact renewable.afterSettled settled
  | @login _ other token grants _ =>
    obtain ⟨exchanged, exchange, left⟩ := grants.stored
    rw [left]
    -- The token that is stored first leaves the credentials as they are.
    have kept : Renewable ((state turn.store).storeToken (sessionName other) token other) user := renewable
    refine kept.afterStore fun same => ?_
    by_contra lacking
    obtain rfl : user = other := same
    exact spared ⟨exchanged, token, exchange, grants, lacking⟩
  | creation grants authorized left =>
    rw [left]
    exact renewable.afterAuthorize
  | deletion deletes left =>
    rw [left]
    exact renewable

theorem History.renewable (history : History settings start turns store) (renewable : Renewable (state start) user)
    (spared : ∀ turn ∈ turns, ¬turn.LogsInWithout settings user) : Renewable (state store) user := by
  induction history with
  | start => exact renewable
  | idle history same ih =>
    rw [same]
    exact ih spared
  | serve turn history ih =>
    obtain ⟨earlier, last⟩ := List.forall_mem_append.mp spared
    exact (ih earlier).afterTurn (last turn (List.mem_singleton_self turn))

theorem History.keeps_credentials (history : History settings start turns store)
    (kept : settings.invalidateOnRefreshFailure = false) (held : ((state start).users.find? user).isSome) :
    ((state store).users.find? user).isSome := by
  induction history with
  | start => exact held
  | idle history same ih =>
    rw [same]
    exact ih
  | serve turn history ih => exact turn.keeps_credentials kept ih

theorem Renewable.refreshes (renewable : Renewable (state store) user) {identity : Identity} {credential : Credential}
    (recognized : Recognized settings now headers (state store) identity credential) (named : identity.user = user) :
    (authorize settings now headers store wire).1 ≠ .error (.error (.refreshFailed .noRefreshToken)) := by
  intro failed
  have refreshable : credential.Refreshable := renewable credential (named ▸ recognized.stored)
  have course := authorize_course settings now headers store wire
  generalize authorize settings now headers store wire = outcome at course failed
  cases course with
  | refused refused =>
    cases failed
    cases refused
  | failed recognized' past answer left =>
    cases failed
    obtain ⟨rfl, rfl⟩ := recognized.unique recognized'
    exact ProviderClient.refresh_noRefreshToken_iff.mp (congrArg Prod.fst answer) refreshable
  | _ => cases failed

/-- Whatever the provider answers, a refresh that succeeds has a credential with a refresh token, the answer's or else the
old one, and the rest of it is the answer's; without a refresh token none is tried. So once a user has a refresh token,
through all that a gateway serves until a login of theirs brings none, whatever credential they have can be refreshed,
they have one if failed refreshes drop none, and no request of theirs is denied for want of a refresh token. -/
theorem refresh_tokens_last (settings : Settings) :
    (∀ now credential wire refreshed, (settings.client.refresh now credential wire).1 = .ok refreshed →
      settings.client.Renewal now wire credential refreshed ∧ refreshed.Refreshable) ∧
    (∀ now credential wire, ¬credential.Refreshable →
      settings.client.refresh now credential wire = (.error (.error .noRefreshToken), wire)) ∧
    ∀ (start store : σ) turns user credential, History settings start turns store →
      (state start).users.find? user = some credential → credential.Refreshable →
      (∀ turn ∈ turns, ¬turn.LogsInWithout settings user) →
        Renewable (state store) user ∧
        (settings.invalidateOnRefreshFailure = false → ((state store).users.find? user).isSome) ∧
        ∀ now headers wire identity found, Recognized settings now headers (state store) identity found →
          identity.user = user →
            (authorize settings now headers store wire).1 ≠ .error (.error (.refreshFailed .noRefreshToken)) := by
  refine ⟨?_, ?_, ?_⟩
  · intro now credential wire refreshed succeeded
    have renewal := ProviderClient.refresh_renews succeeded
    exact ⟨renewal, renewal.refreshable⟩
  · intro now credential wire lacking
    exact ProviderClient.refresh_unusable (Credential.usableRefreshToken_eq_none_iff.mpr lacking)
  · intro start store turns user credential history stored refreshable spared
    have renewable := history.renewable (.of_stored stored refreshable) spared
    refine ⟨renewable, fun kept => history.keeps_credentials kept (by rw [stored]; rfl), ?_⟩
    intro now headers wire identity found recognized named
    exact renewable.refreshes recognized named

end

open Visit in
theorem refresh_tokens_last_renewal :
    ∃ turn : Turn MemoryStore, History settings turn.store [turn] (turn.served settings).store ∧
      (state turn.store).users.find? "alice" = some (lapsed "old") ∧ (lapsed "old").Refreshable ∧
      (∀ other ∈ [turn], ¬other.LogsInWithout settings "alice") ∧
      (state (turn.served settings).store).users.find? "alice" = some ⟨"new", "Bearer", some "refresh", none⟩ ∧
      Renewable (state (turn.served settings).store) "alice" := by
  have history : History settings (renewal "old" "new").store [renewal "old" "new"]
      ((renewal "old" "new").served settings).store := .serve _ .start
  have stored : (state (renewal "old" "new").store).users.find? "alice" = some (lapsed "old") := lapsedStore_stored "old"
  have refreshable : (lapsed "old").Refreshable := ⟨"refresh", rfl, by decide⟩
  have spared : ∀ other ∈ [renewal "old" "new"], ¬other.LogsInWithout settings "alice" := by
    intro other member
    have path : other.request.target.path = "/" := by rw [List.mem_singleton.mp member]; rfl
    rintro ⟨exchanged, token, -, granted, -⟩
    exact absurd (path.symm.trans granted.path) (by decide)
  obtain ⟨left, -⟩ := renewal_served "old" "new" (by decide +kernel)
  obtain ⟨-, -, last⟩ := @refresh_tokens_last MemoryStore _ _ settings
  obtain ⟨renewable, -, -⟩ := last _ _ _ _ _ history stored refreshable spared
  exact ⟨renewal "old" "new", history, stored, refreshable, spared, left, renewable⟩

end LoginGateway.Gateway
