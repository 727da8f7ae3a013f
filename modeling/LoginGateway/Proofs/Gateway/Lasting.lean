import LoginGateway.Proofs.Gateway.Decision
import LoginGateway.Proofs.Gateway.Delivery

namespace LoginGateway.Gateway

open Http
open SnapshotStore (state)

section

variable {σ : Type} [TokenStore σ] {settings : Settings} {turn : Turn σ} {entry : Registration} {start store : σ}
  {turns before after : List (Turn σ)}

namespace Turn

theorem served_creation (path : turn.request.target.path = "/api-token") (method : turn.request.method = "POST") :
    turn.served settings =
      if unambiguous turn.request.target.params ["name"] then
        createToken settings turn.moment turn.request.headers (nameIn turn.request turn.request.target.params)
          turn.store turn.wire
      else ⟨some .ambiguousQuery, turn.store, turn.wire, none⟩ := by
  rw [served_of_method (by rw [method]; decide), routed_tokens path]
  unfold serveTokens
  rw [method]
  rfl

variable [SnapshotStore σ]

theorem Grants.free (granted : turn.Grants settings entry .api) :
    (state turn.store).index.containsName entry.name = false := by
  cases granted with
  | api path method authorized minted succeeded =>
    rcases post_effect path method with ⟨-, failed⟩ | ⟨user, token, creates⟩
    · exact absurd succeeded failed
    · exact creates.free

/-- The request neither deletes the name nor starts a session that is stored under it. -/
structure Leaves (settings : Settings) (turn : Turn σ) (name : String) : Prop where
  kept : ¬turn.Deletes settings name
  unclaimed : ∀ token user, ¬turn.Grants settings ⟨name, token, user⟩ .session

omit [SnapshotStore σ] in
theorem Leaves.of_no_session {name : String} (kept : ¬turn.Deletes settings name)
    (other : ∀ user, name ≠ sessionName user) : turn.Leaves settings name where
  kept := kept
  unclaimed token user granted := by
    generalize same : Registration.mk name token user = entry at granted
    cases granted with
    | session path exchange subject minted succeeded => exact other _ (congrArg Registration.name same)

/-- What is registered is spared by a request that leaves its name, since no other grant can take it: API tokens get
unused names, and all tokens are new. -/
theorem Leaves.spares (leaves : turn.Leaves settings entry.name) (holds : (state turn.store).index.Holds entry) :
    turn.Spares settings entry where
  kept := leaves.kept
  granted other kind granted := by
    have fresh := granted.stores.fresh
    constructor
    · intro same
      cases kind with
      | session =>
        have claimed : turn.Grants settings ⟨entry.name, other.token, other.user⟩ .session := same ▸ granted
        exact leaves.unclaimed _ _ claimed
      | api =>
        have free := granted.free
        rw [same, TokenIndex.containsName_eq_false, holds.1] at free
        cases free
    · intro same
      rw [same, TokenIndex.containsToken_eq_false, holds.2] at fresh
      cases fresh

theorem Spares.holds {held : Registrations} (spares : turn.Spares settings entry)
    (represents : (state turn.store).index.Represents held) (holds : (state turn.store).index.Holds entry) :
    (state (turn.served settings).store).index.Holds entry := by
  have member := (represents.holds_iff entry).mp holds
  rcases turn.effect settings with same | ⟨other, kind, granted⟩ | ⟨name, deletes⟩
  · rwa [same]
  · obtain ⟨name, token⟩ := spares.granted other kind granted
    rw [granted.stores.index, (represents.insert other).holds_iff]
    exact Registrations.mem_register.mpr (.inr ⟨member, name.symm, token.symm⟩)
  · rw [deletes.removes, (represents.remove name).holds_iff]
    refine Registrations.mem_withdraw.mpr ⟨member, fun same => spares.kept ?_⟩
    rwa [same]

theorem Grants.displaces {token user : String} {kind : TokenKind} (holds : (state turn.store).index.Holds entry)
    (granted : turn.Grants settings ⟨entry.name, token, user⟩ kind) :
    TokenStore.userOf (turn.served settings).store entry.token = .error .tokenNotFound := by
  have different : entry.token ≠ token := by
    intro same
    have fresh := granted.stores.fresh
    rw [← same, TokenIndex.containsToken_eq_false, holds.2] at fresh
    cases fresh
  refine SnapshotStore.unresolved ?_
  rw [granted.stores.index, TokenIndex.userOf?, TokenIndex.tokens_insert, if_neg different, if_pos holds.1]

end Turn

variable [SnapshotStore σ]

theorem History.split (history : History settings start turns store) (same : turns = before ++ turn :: after) :
    History settings start before turn.store ∧ History settings (turn.served settings).store after store := by
  induction history generalizing after with
  | start => simp at same
  | idle history kept ih =>
    obtain ⟨earlier, later⟩ := ih same
    exact ⟨earlier, .idle later kept⟩
  | @serve turns last history ih =>
    rcases List.eq_nil_or_concat after with rfl | ⟨rest, final, rfl⟩
    · obtain ⟨rfl, lasts⟩ := List.append_inj' same rfl
      cases lasts
      exact ⟨history, .start⟩
    · have moved : turns ++ [last] = (before ++ turn :: rest) ++ [final] := by simpa using same
      obtain ⟨split, lasts⟩ := List.append_inj' moved rfl
      cases lasts
      obtain ⟨earlier, later⟩ := ih split
      rw [List.concat_eq_append]
      exact ⟨earlier, .serve last later⟩

theorem History.holds (history : History settings start turns store)
    (sound : ∃ held, (state start).index.Represents held) (holds : (state start).index.Holds entry)
    (left : ∀ turn ∈ turns, turn.Leaves settings entry.name) :
    (∃ held, (state store).index.Represents held) ∧ (state store).index.Holds entry := by
  induction history with
  | start => exact ⟨sound, holds⟩
  | idle history same ih =>
    rw [same]
    exact ih left
  | serve turn history ih =>
    have ⟨earlier, last⟩ := List.forall_mem_append.mp left
    obtain ⟨⟨held, represents⟩, holds⟩ := ih earlier
    have spares := (last turn (List.mem_singleton_self turn)).spares holds
    exact ⟨turn.represented represents settings, spares.holds represents holds⟩

end

namespace Visit

def bob : String := "eyJzdWIiOiJib2IiLCJlbWFpbCI6ImJAYiJ9"

theorem bob_traded : (settings.client.exchangeCode ⟨1000, 0⟩ "c" (providerOf bob)).1 = .ok (exchangedOf bob) :=
  traded bob

theorem bob_identified : userOf (exchangedOf bob) = .ok ("bob", "b@b") := by decide +kernel

def creationRequest (name : String) : Incoming :=
  ⟨"POST", ⟨"/api-token", some ("name=" ++ name)⟩,
    [("authorization", Text.encode ("Bearer " ++ tokenOf "alice" "a@b" 7))], []⟩

def apiToken : String := SignedToken.mint settings.secret (ApiClaims.json ⟨"alice", "a@b", 8, some 3153601000⟩)

def opened : MemoryStore :=
  ⟨TokenIndex.empty.insert "_session_alice" (tokenOf "alice" "a@b" 7) "alice",
    Dict.empty.insert "alice" ⟨"access", "", none, none⟩⟩

def stocked (name : String) : MemoryStore := ⟨opened.state.storeToken name apiToken "alice"⟩

def creationOf (name : String) : Turn MemoryStore :=
  ⟨⟨⟨1000, 0⟩, [8]⟩, creationRequest name, opened, providerOf alice⟩

def lastLogin (name : String) : Turn MemoryStore := loginOf bob 9 (stocked name)

structure Askable (name : String) : Prop where
  clear : unambiguous (creationRequest name).target.params ["name"] = true
  asked : Text.trim (nameIn (creationRequest name) (creationRequest name).target.params) = name
  there : name.isEmpty = false
  other : name ≠ "_session_alice"

theorem login_state : state opened = state ((loginOf alice 7 MemoryStore.empty).served settings).store := by
  obtain ⟨next, after, served, left⟩ := loginOf_served alice alice_traded alice_identified (free_empty _)
  rw [served]
  exact left.symm

theorem alice_current {now : Instant} (timely : now.seconds ≤ 4600) :
    ¬Lapsed ⟨"alice", "a@b", 7, some 4600⟩ now := by
  rintro ⟨second, ends, lapsed⟩
  cases ends
  exact absurd timely (Int.not_le.mpr lapsed)

theorem recognized {known : Snapshot} {credential : Credential}
    (registered : known.index.userOf? (tokenOf "alice" "a@b" 7) = some "alice")
    (stored : known.users.find? "alice" = some credential) :
    Recognized settings ⟨1000, 0⟩ [("authorization", Text.encode ("Bearer " ++ tokenOf "alice" "a@b" 7))] known
      ⟨"alice", "a@b"⟩ credential := by
  have claimed : Claimed settings [("authorization", Text.encode ("Bearer " ++ tokenOf "alice" "a@b" 7))]
      (tokenOf "alice" "a@b" 7) ⟨"alice", "a@b", 7, some 4600⟩ :=
    ⟨PresentedToken.ofRequest_mint _ _ _ _, ApiClaims.verify_mint _ _⟩
  exact .user claimed (alice_current (by decide)) registered stored

theorem creation_authorized (name : String) :
    authorize settings ⟨1000, 0⟩ (creationRequest name).headers opened (providerOf alice) =
      (.ok ⟨"alice", "a@b"⟩, opened, providerOf alice) := by
  have registered : (state opened).index.userOf? (tokenOf "alice" "a@b" 7) = some "alice" :=
    (TokenIndex.tokens_insert _ _ _ _ _).trans (if_pos rfl)
  have stored : (state opened).users.find? "alice" = some ⟨"access", "", none, none⟩ :=
    (Dict.find?_insert _ _ _ _).trans (if_pos rfl)
  refine (recognized registered stored).authorize_current ?_
  rintro ⟨expiry, named, -⟩
  cases named

def apiTokenOf (salt : UInt64) : String :=
  SignedToken.mint settings.secret (ApiClaims.json ⟨"alice", "a@b", salt, some 3153601000⟩)

theorem apiTokenOf_made (salt : UInt64) : ApiClaims.issue? "alice" "a@b" salt ⟨1000, 0⟩ TokenKind.api.lifetime =
    some ⟨"alice", "a@b", salt, some 3153601000⟩ := by
  have good : Claims.expiryAfter? ⟨1000, 0⟩ TokenKind.api.lifetime = some 3153601000 := by decide +kernel
  rw [ApiClaims.issue?, good, Option.map_some]

theorem apiTokenOf_fresh (salt : UInt64) : (state opened).index.containsToken (apiTokenOf salt) = false := by
  have different : apiTokenOf salt ≠ tokenOf "alice" "a@b" 7 := fun same => by
    cases congrArg ApiClaims.expiry (ApiClaims.mint_injective same)
  exact TokenIndex.containsToken_insert different rfl _ _

theorem apiToken_made : ApiClaims.issue? "alice" "a@b" 8 ⟨1000, 0⟩ TokenKind.api.lifetime =
    some ⟨"alice", "a@b", 8, some 3153601000⟩ := apiTokenOf_made 8

theorem apiToken_fresh : (state opened).index.containsToken apiToken = false := apiTokenOf_fresh 8

theorem opened_earns {name : String} (there : name.isEmpty = false) (other : name ≠ "_session_alice")
    (written : String) : Earns settings ⟨⟨1000, 0⟩, [8]⟩ (creationRequest written).headers name opened
      (providerOf alice) ⟨"alice", "a@b"⟩ apiToken := by
  have free : TokenStore.containsName opened name = false := by
    rw [SnapshotStore.containsName]
    exact congrArg Option.isSome ((TokenIndex.names_insert _ _ _ _ _).trans (if_neg other))
  exact ⟨there, free, _, _, creation_authorized written, SnapshotStore.generate_first apiToken_made apiToken_fresh⟩

theorem creationOf_created {written name : String}
    (clear : unambiguous (creationRequest written).target.params ["name"] = true)
    (asked : Text.trim (nameIn (creationRequest written) (creationRequest written).target.params) = name)
    (there : name.isEmpty = false) (other : name ≠ "_session_alice") :
    ∃ next after, (creationOf written).served settings =
        ⟨some (created name apiToken), next, after, some apiToken⟩ ∧ state next = state (stocked name) := by
  have earns : Earns settings ⟨⟨1000, 0⟩, [8]⟩ (creationRequest written).headers
      (Text.trim (nameIn (creationRequest written) (creationRequest written).target.params)) opened (providerOf alice)
      ⟨"alice", "a@b"⟩ apiToken := by
    rw [asked]
    exact opened_earns there other written
  obtain ⟨next, after, granted, left⟩ := earns.createToken
  rw [asked] at granted left
  dsimp only at left
  rw [creation_authorized] at left
  refine ⟨next, after, ?_, left⟩
  have path : (creationOf written).request.target.path = "/api-token" := rfl
  have method : (creationOf written).request.method = "POST" := rfl
  rw [Turn.served_creation path method, ← granted]
  exact if_pos clear

theorem creationOf_served {name : String} (askable : Askable name) :
    ∃ next after, (creationOf name).served settings = ⟨some (created name apiToken), next, after, some apiToken⟩ ∧
      state next = state (stocked name) :=
  creationOf_created askable.clear askable.asked askable.there askable.other

theorem lastLogin_grants (name : String) :
    (lastLogin name).Grants settings ⟨sessionName "bob", tokenOf "bob" "b@b" 9, "bob"⟩ .session := by
  have session : tokenOf "bob" "b@b" 9 ≠ tokenOf "alice" "a@b" 7 :=
    fun same => absurd (ApiClaims.mint_injective same) (by decide)
  have api : tokenOf "bob" "b@b" 9 ≠ apiToken := fun same => absurd (ApiClaims.mint_injective same) (by decide)
  have free : (state (stocked name)).index.containsToken (tokenOf "bob" "b@b" 9) = false :=
    TokenIndex.containsToken_insert api (TokenIndex.containsToken_insert session rfl _ _) _ _
  obtain ⟨last, final, welcomed, -⟩ := loginOf_served bob bob_traded bob_identified free
  refine .session rfl ⟨"c", "/", accepted, bob_traded⟩ (exchangedFor_of_userOf bob_identified) ?_ ?_
  · rw [lastLogin, welcomed]
  · rw [Turn.status?, lastLogin, welcomed, Option.map_some, welcome_status]

theorem lastLogin_deletes_nothing (name other : String) : ¬(lastLogin name).Deletes settings other := by
  have elsewhere : loginTurn.request.target.path ≠ "/api-token" := by decide
  exact fun deletes => elsewhere deletes.path

theorem opening : History settings MemoryStore.empty [loginOf alice 7 MemoryStore.empty] opened :=
  .idle (.serve (loginOf alice 7 MemoryStore.empty) .start) login_state

theorem stocking {name : String} (askable : Askable name) : History settings MemoryStore.empty
    [loginOf alice 7 MemoryStore.empty, creationOf name] (stocked name) := by
  obtain ⟨next, after, served, left⟩ := creationOf_served askable
  exact .idle (.serve (creationOf name) opening) (by rw [served, left])

theorem visits {name : String} (askable : Askable name) : History settings MemoryStore.empty
    ([loginOf alice 7 MemoryStore.empty] ++ creationOf name :: [lastLogin name])
    ((lastLogin name).served settings).store :=
  .serve (lastLogin name) (stocking askable)

end Visit

section

variable {σ : Type} [TokenStore σ] [SnapshotStore σ] {settings : Settings} {grant : Turn σ} {start store : σ}
  {before after : List (Turn σ)}

/-- Every request for an API token that is answered 200 has created one, and the token resolves to its user and its
name is listed through all that follows, as long as no request deletes the name and no session is stored under it. -/
theorem api_token_lasts (empty : state start = .empty)
    (history : History settings start (before ++ grant :: after) store)
    (path : grant.request.target.path = "/api-token") (method : grant.request.method = "POST")
    (succeeded : grant.status? settings = some 200)
    (left : ∀ turn ∈ after, turn.Leaves settings grant.askedName) :
    ∃ user token, grant.Creates settings user token ∧ TokenStore.userOf store token = .ok user ∧
      grant.askedName ∈ TokenStore.nameList store := by
  rcases Turn.post_effect path method with ⟨-, failed⟩ | ⟨user, token, creates⟩
  · exact absurd succeeded failed
  obtain ⟨earlier, later⟩ := history.split rfl
  obtain ⟨held, represents⟩ := (earlier.accounted empty).sound
  have stored : (state (grant.served settings).store).index.Holds ⟨grant.askedName, token, user⟩ := by
    rw [creates.stores.index, (represents.insert ⟨_, token, user⟩).holds_iff]
    exact Registrations.mem_register.mpr (.inl rfl)
  obtain ⟨-, named, registered⟩ := later.holds (grant.represented represents settings) stored left
  refine ⟨user, token, creates, ?_, ?_⟩
  · rw [SnapshotStore.userOf, Snapshot.userOf, TokenIndex.userOf?, registered]
  · rw [SnapshotStore.nameList, TokenIndex.nameList, Dict.mem_keys_iff, named]
    rfl

end

open Visit in
theorem api_token_lasts_laptop :
    state MemoryStore.empty = .empty ∧
    History settings MemoryStore.empty
      ([loginOf alice 7 MemoryStore.empty] ++ creationOf "laptop" :: [lastLogin "laptop"])
      ((lastLogin "laptop").served settings).store ∧
    (creationOf "laptop").request.target.path = "/api-token" ∧ (creationOf "laptop").request.method = "POST" ∧
    (creationOf "laptop").status? settings = some 200 ∧
    (∀ turn ∈ [lastLogin "laptop"], turn.Leaves settings (creationOf "laptop").askedName) ∧
    ∃ user token, (creationOf "laptop").Creates settings user token ∧
      TokenStore.userOf ((lastLogin "laptop").served settings).store token = .ok user ∧
      (creationOf "laptop").askedName ∈ TokenStore.nameList ((lastLogin "laptop").served settings).store := by
  have askable : Askable "laptop" := ⟨by decide +kernel, by decide +kernel, by decide, by decide⟩
  obtain ⟨next, after, served, -⟩ := creationOf_served askable
  have succeeded : (creationOf "laptop").status? settings = some 200 := by
    rw [Turn.status?, served]
    rfl
  have left : ∀ turn ∈ [lastLogin "laptop"], turn.Leaves settings (creationOf "laptop").askedName := by
    intro turn member
    rw [List.mem_singleton.mp member]
    refine .of_no_session (lastLogin_deletes_nothing _ _) fun user same => ?_
    have unlike : (creationOf "laptop").askedName.toList = "laptop".toList := congrArg String.toList askable.asked
    rw [same, sessionName, String.toList_append] at unlike
    cases unlike
  exact ⟨rfl, visits askable, rfl, rfl, succeeded, left,
    api_token_lasts rfl (visits askable) rfl rfl succeeded left⟩

open Visit in
/-- The name that the session of "bob" is going to be stored under is given to an API token first. -/
theorem api_token_lost_login :
    History settings MemoryStore.empty
      ([loginOf alice 7 MemoryStore.empty] ++ creationOf "_session_bob" :: [lastLogin "_session_bob"])
      ((lastLogin "_session_bob").served settings).store ∧
    (creationOf "_session_bob").request.target.path = "/api-token" ∧
    (creationOf "_session_bob").request.method = "POST" ∧
    ((creationOf "_session_bob").served settings).reply = some (created "_session_bob" apiToken) ∧
    (∀ turn ∈ [lastLogin "_session_bob"], ∀ name, ¬turn.Deletes settings name) ∧
    TokenStore.userOf ((lastLogin "_session_bob").served settings).store apiToken = .error .tokenNotFound := by
  have askable : Askable "_session_bob" := ⟨by decide +kernel, by decide +kernel, by decide, by decide⟩
  obtain ⟨next, after, served, -⟩ := creationOf_served askable
  have held : (state (lastLogin "_session_bob").store).index.Holds ⟨"_session_bob", apiToken, "alice"⟩ :=
    TokenIndex.holds_insert opened.state.index ⟨"_session_bob", apiToken, "alice"⟩
  have granted := lastLogin_grants "_session_bob"
  rw [show sessionName "bob" = "_session_bob" by decide] at granted
  have displaced := Turn.Grants.displaces held granted
  refine ⟨visits askable, rfl, rfl, by rw [served], ?_, displaced⟩
  intro turn member name
  rw [List.mem_singleton.mp member]
  exact lastLogin_deletes_nothing _ _

end LoginGateway.Gateway
