import LoginGateway.Proofs.Gateway.Decision
import LoginGateway.Proofs.Gateway.Delivery

namespace LoginGateway

open Http

/-- The later state has a new registration and a credential of its user. A token that had the name is gone, and all
else is as it was. -/
structure Snapshot.Enters (before after : Snapshot) (entry : Registration) (credential : Credential) : Prop where
  fresh : before.index.containsToken entry.token = false
  holds : after.index.Holds entry
  displaced : ∀ token, before.index.names.find? entry.name = some token → after.index.userOf? token = none
  names : ∀ name, name ≠ entry.name → after.index.names.find? name = before.index.names.find? name
  tokens : ∀ token, token ≠ entry.token → before.index.names.find? entry.name ≠ some token →
    after.index.userOf? token = before.index.userOf? token
  stored : after.users.find? entry.user = some credential
  users : ∀ user, user ≠ entry.user → after.users.find? user = before.users.find? user

theorem Snapshot.enters {known : Snapshot} {held : Registrations} (represents : known.index.Represents held)
    (entry : Registration) (fresh : known.index.containsToken entry.token = false) (credential : Credential) :
    known.Enters ((known.storeToken entry.name entry.token entry.user).storeCredential entry.user credential) entry
      credential where
  fresh := fresh
  holds := known.index.holds_insert entry
  displaced token held := by
    have different := represents.ne_of_fresh fresh held
    exact (TokenIndex.tokens_insert _ _ _ _ _).trans ((if_neg different).trans (if_pos held))
  names name other := by
    -- Other names of the same token would be dropped, but a new token has none.
    exact (TokenIndex.names_insert _ _ _ _ _).trans ((if_neg other).trans (represents.unheld fresh name))
  tokens token different free :=
    (TokenIndex.tokens_insert _ _ _ _ _).trans ((if_neg different).trans (if_neg free))
  stored := Snapshot.find?_storeCredential_self _ _ _
  users user other := Snapshot.find?_storeCredential_of_ne _ other _

namespace Gateway

open SnapshotStore (state)

namespace Turn

variable {σ : Type} [TokenStore σ] [SnapshotStore σ] {settings : Settings} {turn : Turn σ}

theorem callback_sends (path : turn.request.target.path = "/callback") (method : turn.request.method = "GET") :
    (turn.served settings).wire = turn.wire ∨
    ∃ code destination request, Admitted settings turn.moment.now turn.request.target.params code destination ∧
      settings.client.request? (settings.client.codeForm code) = some request ∧
      (turn.served settings).wire = (turn.wire.send request).2 := by
  rw [served_callback path method]
  split
  · rcases accept_cases settings turn.moment.now turn.request.target.params with
      ⟨message, refused⟩ | ⟨code, destination, accepted, admitted⟩
    · rw [callback_refused refused]
      exact .inl rfl
    · rw [callback_wire accepted, ProviderClient.exchangeCode, ProviderClient.requestToken_wire]
      cases requested : settings.client.request? (settings.client.codeForm code) with
      | none => exact .inl rfl
      | some request => exact .inr ⟨code, destination, request, admitted, requested, rfl⟩
  · exact .inl rfl

theorem callback_idle (path : turn.request.target.path = "/callback") (method : turn.request.method = "GET")
    (barred : ∀ code destination, ¬Admitted settings turn.moment.now turn.request.target.params code destination) :
    (turn.served settings).store = turn.store ∧ (turn.served settings).wire = turn.wire := by
  constructor
  · rcases callback_completes path method with failed | ⟨_, _, _, _, ⟨⟨_, accepted, _⟩, _⟩, _⟩
    · exact failed.store
    · exact absurd (admitted_of_accept accepted) (barred _ _)
  · rcases callback_sends path method with idle | ⟨_, _, _, admitted, _⟩
    · exact idle
    · exact absurd admitted (barred _ _)

structure Completes (settings : Settings) (turn : Turn σ) (user token : String) (exchanged : Exchanged) : Prop where
  exchanges : turn.Exchanges settings exchanged
  subject : ExchangedFor user exchanged
  minted : (turn.served settings).minted = some token
  enters : (state turn.store).Enters (state (turn.served settings).store) ⟨sessionName user, token, user⟩
    exchanged.credential

end Turn

section

variable {σ : Type} [TokenStore σ] [SnapshotStore σ] {settings : Settings} {turn : Turn σ} {turns : List (Turn σ)}
  {start : σ}

/-- A callback that is not answered with a redirect leaves the store as it is and sets no cookie. One that is has
entered the session of the user in the ID token and the credential that came with it. The token endpoint is asked at
most once, and only for a code that comes with a state token which verifies, is current and leads to a legal place:
all else, and so every state token that another secret has signed, changes nothing and sends nothing. -/
theorem callback_all_or_nothing (empty : state start = .empty) (history : History settings start turns turn.store)
    (path : turn.request.target.path = "/callback") (method : turn.request.method = "GET") :
    (turn.status? settings ≠ some 303 → (turn.served settings).store = turn.store ∧
      ∀ reply, (turn.served settings).reply = some reply → reply.cookies = []) ∧
    (turn.status? settings = some 303 → ∃ user token exchanged, turn.Completes settings user token exchanged) ∧
    ((turn.served settings).wire = turn.wire ∨
      ∃ code destination request, Admitted settings turn.moment.now turn.request.target.params code destination ∧
        settings.client.request? (settings.client.codeForm code) = some request ∧
        (turn.served settings).wire = (turn.wire.send request).2) ∧
    ((∀ code destination, ¬Admitted settings turn.moment.now turn.request.target.params code destination) →
      (turn.served settings).store = turn.store ∧ (turn.served settings).wire = turn.wire) ∧
    ∀ other claims, turn.request.target.params.get? "state" = some (SignedToken.mint other claims) →
      Hmac.sign other (SignedToken.message claims) ≠ Hmac.sign settings.secret (SignedToken.message claims) →
      (turn.served settings).store = turn.store ∧ (turn.served settings).wire = turn.wire := by
  refine ⟨?_, ?_, Turn.callback_sends path method, Turn.callback_idle path method, ?_⟩
  · intro other
    rcases Turn.callback_completes path method with failed | ⟨destination, _, user, token, _, next, after, served, _⟩
    · exact ⟨failed.store, fun reply replied => (failed.rejects reply replied).cookies⟩
    · refine absurd ?_ other
      rw [Turn.status?, served, Option.map_some, welcome_status]
  · intro done
    rcases Turn.callback_completes path method with failed |
      ⟨destination, exchanged, user, token, ⟨⟨code, accepted, traded⟩, email, identified, generated⟩, next, after, served,
        left⟩
    · obtain ⟨reply, replied, status⟩ := Option.map_eq_some_iff.mp done
      have error := (failed.rejects reply replied).status
      omega
    · obtain ⟨held, represents⟩ := (history.accounted empty).sound
      refine ⟨user, token, exchanged, ⟨code, destination, accepted, traded⟩, exchangedFor_of_userOf identified,
        by rw [served], ?_⟩
      rw [served, left]
      exact Snapshot.enters represents ⟨sessionName user, token, user⟩ (SnapshotStore.generate_free generated)
        exchanged.credential
  · intro other claims ticketed different
    -- A state token that verifies would have to be the one presented, which another secret has signed.
    refine Turn.callback_idle path method fun code destination admitted => ?_
    obtain ⟨ticket, read, presented, verified, -⟩ := admitted.ticket
    obtain rfl := Option.some.inj (ticketed.symm.trans presented)
    cases (SignedToken.verify_mint_other _ different).symm.trans verified

end

open Visit in
theorem callback_all_or_nothing_login :
    let turn := loginOf alice 7 MemoryStore.empty
    History settings MemoryStore.empty [] turn.store ∧ turn.request.target.path = "/callback" ∧
      turn.request.method = "GET" ∧ turn.status? settings = some 303 ∧
      ∃ user token exchanged, turn.Completes settings user token exchanged := by
  intro turn
  obtain ⟨next, after, served, -⟩ := loginOf_served alice alice_traded alice_identified (free_empty _)
  have history : History settings MemoryStore.empty [] turn.store := .start
  have done : turn.status? settings = some 303 :=
    (congrArg (fun served => served.reply.map (·.status)) served).trans (congrArg some (welcome_status settings _ _ _))
  exact ⟨history, rfl, rfl, done, (callback_all_or_nothing rfl history rfl rfl).2.1 done⟩

end Gateway

end LoginGateway
