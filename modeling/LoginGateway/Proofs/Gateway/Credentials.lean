import LoginGateway.Proofs.Gateway.Decision

namespace LoginGateway.Gateway

open Http
open SnapshotStore (state)

variable {σ : Type} [TokenStore σ] [SnapshotStore σ] {settings : Settings}

section

variable {now : Instant} {headers : Headers} {store next : σ} {wire : Wire} {user : String} {credential : Credential}

omit [TokenStore σ] [SnapshotStore σ] in
theorem Recognized.stored {known : Snapshot} {identity : Identity}
    (recognized : Recognized settings now headers known identity credential) :
    known.users.find? identity.user = some credential := by
  cases recognized with
  | user claimed current registered stored => exact stored

def answered (identity : Identity) : Except (Failure ProviderError) Credential → Except (Failure Denial) Identity
  | .ok _ => .ok identity
  | .error (.error error) => .error (.error (.refreshFailed error))
  | .error .crash => .error .crash

theorem Recognized.authorize_answered {identity : Identity} {result : Except (Failure ProviderError) Credential}
    {after : Wire} (recognized : Recognized settings now headers (state store) identity credential)
    (past : credential.Past now) (answer : settings.client.refresh now credential wire = (result, after)) :
    ∃ next, authorize settings now headers store wire = (answered identity result, next, after) ∧
      state next = renewed settings identity.user (state store) result := by
  obtain ⟨outcome, left, sent⟩ := renew_spec settings now identity.user credential store wire
  rw [answer] at outcome left sent
  refine ⟨_, ?_, left⟩
  rw [recognized.authorize_past past, outcome]
  refine Prod.ext ?_ (Prod.ext rfl sent)
  rcases result with (error | _) | refreshed <;> rfl

inductive Course (settings : Settings) (now : Instant) (headers : Headers) (store : σ) (wire : Wire) :
    Except (Failure Denial) Identity × σ × Wire → Prop where
  | refused {denial : Denial} (refused : Refused settings now headers (state store) denial) :
      Course settings now headers store wire (.error (.error denial), store, wire)
  | current {identity : Identity} {credential : Credential}
      (recognized : Recognized settings now headers (state store) identity credential)
      (current : ¬credential.Past now) : Course settings now headers store wire (.ok identity, store, wire)
  | renewed {identity : Identity} {credential refreshed : Credential} {next : σ} {after : Wire}
      (recognized : Recognized settings now headers (state store) identity credential) (past : credential.Past now)
      (answer : settings.client.refresh now credential wire = (.ok refreshed, after))
      (left : state next = (state store).storeCredential identity.user refreshed) :
      Course settings now headers store wire (.ok identity, next, after)
  | failed {identity : Identity} {credential : Credential} {error : ProviderError} {next : σ} {after : Wire}
      (recognized : Recognized settings now headers (state store) identity credential) (past : credential.Past now)
      (answer : settings.client.refresh now credential wire = (.error (.error error), after))
      (left : state next =
        if settings.invalidateOnRefreshFailure then (state store).invalidate identity.user else state store) :
      Course settings now headers store wire (.error (.error (.refreshFailed error)), next, after)
  | crashed {identity : Identity} {credential : Credential} {next : σ} {after : Wire}
      (recognized : Recognized settings now headers (state store) identity credential) (past : credential.Past now)
      (answer : settings.client.refresh now credential wire = (.error .crash, after)) (left : state next = state store) :
      Course settings now headers store wire (.error .crash, next, after)

theorem authorize_course (settings : Settings) (now : Instant) (headers : Headers) (store : σ) (wire : Wire) :
    Course settings now headers store wire (authorize settings now headers store wire) := by
  rcases recognized_or_refused settings now headers (state store) with ⟨identity, credential, recognized⟩ |
    ⟨denial, refused⟩
  · by_cases past : credential.Past now
    · rcases answer : settings.client.refresh now credential wire with ⟨(error | _) | refreshed, after⟩
      · obtain ⟨next, failed, left⟩ := recognized.authorize_answered past answer
        rw [failed]
        exact .failed recognized past answer left
      · obtain ⟨next, crashed, left⟩ := recognized.authorize_answered past answer
        rw [crashed]
        exact .crashed recognized past answer left
      · obtain ⟨next, renewed, left⟩ := recognized.authorize_answered past answer
        rw [renewed]
        exact .renewed recognized past answer left
    · rw [recognized.authorize_current past]
      exact .current recognized past
  · rw [refused.authorize]
    exact .refused refused

theorem authorize_keeps (kept : settings.invalidateOnRefreshFailure = false)
    (held : ((state store).users.find? user).isSome) :
    ((state (authorize settings now headers store wire).2.1).users.find? user).isSome := by
  have course := authorize_course settings now headers store wire
  generalize authorize settings now headers store wire = outcome at course
  cases course with
  | refused refused => exact held
  | current recognized current => exact held
  | renewed recognized past answer left =>
    rw [left]
    exact Snapshot.isSome_storeCredential held _ _
  | failed recognized past answer left =>
    rw [left, kept]
    exact held
  | crashed recognized past answer left =>
    rw [left]
    exact held

theorem authorize_current (held : (state store).users.find? user = some credential) (current : ¬credential.Past now) :
    (state (authorize settings now headers store wire).2.1).users.find? user = some credential := by
  have course := authorize_course settings now headers store wire
  generalize authorize settings now headers store wire = outcome at course
  -- What is renewed or dropped is an expired credential, and this one is still good.
  have different : ∀ {identity : Identity} {found : Credential},
      Recognized settings now headers (state store) identity found → found.Past now → user ≠ identity.user := by
    rintro identity found recognized past rfl
    cases held.symm.trans recognized.stored
    exact current past
  cases course with
  | refused refused => exact held
  | current recognized good => exact held
  | renewed recognized past answer left =>
    rw [left, Snapshot.find?_storeCredential_of_ne _ (different recognized past)]
    exact held
  | failed recognized past answer left =>
    rw [left]
    split
    · rw [Snapshot.invalidate, Dict.find?_erase, if_neg (different recognized past)]
      exact held
    · exact held
  | crashed recognized past answer left =>
    rw [left]
    exact held

theorem Settled.keeps (settled : Settled settings now headers store wire next)
    (kept : settings.invalidateOnRefreshFailure = false) (held : ((state store).users.find? user).isSome) :
    ((state next).users.find? user).isSome := by
  rcases settled with rfl | rfl
  · exact held
  · exact authorize_keeps kept held

theorem Settled.current (settled : Settled settings now headers store wire next)
    (held : (state store).users.find? user = some credential) (current : ¬credential.Past now) :
    (state next).users.find? user = some credential := by
  rcases settled with rfl | rfl
  · exact held
  · exact authorize_current held current

end

namespace Turn

variable {turn : Turn σ} {user : String} {credential : Credential}

theorem keeps_credentials (kept : settings.invalidateOnRefreshFailure = false)
    (held : ((state turn.store).users.find? user).isSome) :
    ((state (turn.served settings).store).users.find? user).isSome := by
  cases turn.takes_effect settings with
  | settled settled => exact settled.keeps kept held
  | login grants left =>
    rw [left]
    exact Snapshot.isSome_storeCredential held _ _
  | creation grants authorized left =>
    rw [left]
    exact authorize_keeps kept held
  | deletion deletes left =>
    rw [left]
    exact held

theorem keeps_current (held : (state turn.store).users.find? user = some credential)
    (current : ¬credential.Past turn.moment.now)
    (absent : ∀ token, ¬turn.Grants settings ⟨sessionName user, token, user⟩ .session) :
    (state (turn.served settings).store).users.find? user = some credential := by
  cases turn.takes_effect settings with
  | settled settled => exact settled.current held current
  | @login exchanged other token grants left =>
    have different : user ≠ other := by
      rintro rfl
      exact absent token grants
    rw [left, Snapshot.find?_storeCredential_of_ne _ different]
    exact held
  | creation grants authorized left =>
    rw [left]
    exact authorize_current held current
  | deletion deletes left =>
    rw [left]
    exact held

theorem Grants.stored {entry : Registration} (granted : turn.Grants settings entry .session) :
    ∃ exchanged, turn.Exchanges settings exchanged ∧
      state (turn.served settings).store =
        ((state turn.store).storeToken entry.name entry.token entry.user).storeCredential entry.user
          exchanged.credential := by
  cases granted with
  | session path exchange subject minted succeeded =>
    rcases callback_effect path with quiet | ⟨exchanged, user, token, exchange', subject', -, stores, left⟩
    · cases minted.symm.trans quiet.minted
    · obtain rfl := exchange.unique exchange'
      obtain rfl := subject.unique subject'
      obtain rfl : _ = token := Option.some.inj (minted.symm.trans stores.minted)
      exact ⟨_, exchange, left⟩

theorem Grants.usable {entry : Registration} {kind : TokenKind} (kept : settings.invalidateOnRefreshFailure = false)
    (granted : turn.Grants settings entry kind) :
    ((state (turn.served settings).store).users.find? entry.user).isSome := by
  cases kind with
  | session =>
    obtain ⟨exchanged, -, left⟩ := granted.stored
    rw [left, Snapshot.find?_storeCredential_self]
    rfl
  | api =>
    cases granted with
    | api path method authorized minted succeeded =>
      have usable := authorized.registered.2.1
      rw [SnapshotStore.hasCredential, Snapshot.hasCredential, Dict.contains] at usable
      exact turn.keeps_credentials kept usable

end Turn

end LoginGateway.Gateway
