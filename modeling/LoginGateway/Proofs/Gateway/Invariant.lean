import LoginGateway.Proofs.Gateway.Credentials
import LoginGateway.Proofs.Gateway.Lasting

namespace LoginGateway

def Denial.Unsound : Denial → Prop
  | .noCredential _ | .credentialFetch _ | .missingCredential _ | .storeFailed _ => True
  | _ => False

theorem Denial.reply_status {denial : Denial} (sound : ¬denial.Unsound) (wording : Gateway.Parsed → Json.Wording) :
    (denial.reply wording).status = 401 := by
  cases denial <;> first | rfl | exact absurd trivial sound

theorem Issued.claims {secret : Octets} {now : Instant} {lifetime : Int} {user token : String}
    (issued : Issued secret now lifetime user token) :
    ∃ claims, SignedToken.verify ApiClaims.decoder secret token = .ok claims ∧ claims.subject = user := by
  obtain ⟨email, salt, expiry, -, rfl⟩ := issued
  exact ⟨_, ApiClaims.verify_mint _ _, rfl⟩

theorem TokenIndex.Represents.holder {index : TokenIndex} {held : Registrations} (represents : index.Represents held)
    {token user : String} (found : index.userOf? token = some user) : ∃ name, index.Holds ⟨name, token, user⟩ := by
  obtain ⟨name, member⟩ := (represents.tokens token user).mp found
  exact ⟨name, (represents.holds_iff _).mpr member⟩

namespace Gateway

open Http
open SnapshotStore (state)

section

variable {σ : Type} [TokenStore σ] [SnapshotStore σ] {settings : Settings} {turns : List (Turn σ)}
  {start store : σ} {entry : Registration} {kind : TokenKind}

theorem denied {now : Instant} {headers : Headers} {wire : Wire} {denial : Denial}
    (denies : (authorize settings now headers store wire).1 = .error (.error denial)) :
    Refused settings now headers (state store) denial ∨ ∃ error, denial = .refreshFailed error := by
  have course := authorize_course settings now headers store wire
  generalize authorize settings now headers store wire = outcome at denies course
  cases course with
  | refused refused =>
    cases denies
    exact .inl refused
  | failed recognized past answer left =>
    cases denies
    exact .inr ⟨_, rfl⟩
  | _ => cases denies

theorem mem_nameList_iff {held : Registrations} (represents : (state store).index.Represents held) {name : String} :
    name ∈ TokenStore.nameList store ↔ ∃ entry ∈ held, entry.name = name := by
  rw [SnapshotStore.nameList, TokenIndex.nameList, Dict.mem_keys_iff, represents.isSome_names]

theorem listed_of_holds {name token user : String} (holds : (state store).index.Holds ⟨name, token, user⟩) :
    name ∈ TokenStore.nameList store := by
  rw [SnapshotStore.nameList, TokenIndex.nameList, Dict.mem_keys_iff, holds.1]
  rfl

theorem resolves_of_holds {name token user : String} (holds : (state store).index.Holds ⟨name, token, user⟩) :
    TokenStore.userOf store token = .ok user := SnapshotStore.resolves holds.2

/-- The name is that of a session which one of the requests has started, or it is one that can be asked for. -/
def Named (settings : Settings) (turns : List (Turn σ)) (name : String) : Prop :=
  (∃ turn ∈ turns, ∃ user token, name = sessionName user ∧ turn.Grants settings ⟨name, token, user⟩ .session) ∨
  name ≠ "" ∧ Text.trim name = name

theorem Turn.Grants.named {turn : Turn σ} (granted : turn.Grants settings entry kind) (among : turn ∈ turns) :
    Named settings turns entry.name := by
  cases granted with
  | session path exchange subject minted succeeded =>
    exact .inl ⟨turn, among, _, _, rfl, .session path exchange subject minted succeeded⟩
  | api path method authorized minted succeeded =>
    rcases Turn.post_cases path method with ⟨-, failed⟩ | ⟨user, token, creates, named, -⟩
    · exact absurd succeeded failed
    · exact .inr ⟨named, Text.trim_trim _⟩

theorem History.usable (empty : state start = .empty) (kept : settings.invalidateOnRefreshFailure = false)
    (history : History settings start turns store) :
    ∀ entry, (state store).index.Holds entry → ((state store).users.find? entry.user).isSome := by
  induction history with
  | start =>
    intro entry holds
    rw [empty] at holds
    cases holds.1
  | idle history same ih =>
    rw [same]
    exact ih
  | serve turn history ih =>
    intro entry holds
    obtain ⟨held, represents⟩ := (history.accounted empty).sound
    -- A token in the store has come with this request, or it was there before and its user had a credential.
    rcases turn.holds_after represents holds with ⟨kind, granted⟩ | ⟨before, -⟩
    · exact granted.usable kept
    · exact turn.keeps_credentials kept (ih entry before)

theorem History.named (empty : state start = .empty) (history : History settings start turns store) :
    ∀ name ∈ TokenStore.nameList store, Named settings turns name := by
  obtain ⟨⟨held, represents⟩, standing⟩ := history.accounted empty
  intro name listed
  obtain ⟨entry, member, rfl⟩ := (mem_nameList_iff represents).mp listed
  obtain ⟨kind, grant, stands⟩ := standing entry ((represents.holds_iff entry).mpr member)
  obtain ⟨before, after, rfl, -⟩ := stands.since
  exact stands.granted.named (by simp)

/-- The store fits together: tokens are the gateway's own and for the users that they are registered for, these have
credentials, and names are those of sessions or such as can be asked for. -/
structure Sound (settings : Settings) (turns : List (Turn σ)) (store : σ) : Prop where
  tokens : ∀ token user, TokenStore.userOf store token = .ok user →
    (∃ claims, SignedToken.verify ApiClaims.decoder settings.secret token = .ok claims ∧ claims.subject = user) ∧
      TokenStore.hasCredential store user = true
  names : ∀ name ∈ TokenStore.nameList store, Named settings turns name

theorem History.fits (empty : state start = .empty) (kept : settings.invalidateOnRefreshFailure = false)
    (history : History settings start turns store) : Sound settings turns store := by
  obtain ⟨⟨held, represents⟩, standing⟩ := history.accounted empty
  constructor
  · intro token user found
    rw [SnapshotStore.userOf, Snapshot.userOf] at found
    split at found
    · rename_i found'
      cases found
      obtain ⟨name, holds⟩ := represents.holder found'
      obtain ⟨kind, grant, stands⟩ := standing _ holds
      refine ⟨stands.granted.stores.issued.claims, ?_⟩
      rw [SnapshotStore.hasCredential, Snapshot.hasCredential, Dict.contains]
      exact history.usable empty kept _ holds
    · cases found
  · exact history.named empty

theorem History.denies_soundly (empty : state start = .empty) (kept : settings.invalidateOnRefreshFailure = false)
    (history : History settings start turns store) {now : Instant} {headers : Headers} {wire : Wire} {denial : Denial}
    (denies : (authorize settings now headers store wire).1 = .error (.error denial)) : ¬denial.Unsound := by
  intro unsound
  rcases denied denies with refused | ⟨error, rfl⟩
  · cases refused with
    | noCredential claimed current found missing =>
      -- Of the four, this alone a store could be in a state for: a token of a user without a credential.
      obtain ⟨held, represents⟩ := (history.accounted empty).sound
      obtain ⟨name, holds⟩ := represents.holder found
      have there := history.usable empty kept _ holds
      rw [missing] at there
      cases there
    | _ => exact unsound
  · exact unsound

/-- The random numbers that come with a request for an API token suffice for its user. -/
def Turn.Supplied (settings : Settings) (turn : Turn σ) : Prop :=
  ∀ identity, (authorize settings turn.moment.now turn.request.headers turn.store turn.wire).1 = .ok identity →
    (state turn.store).index.Supplied settings.secret turn.moment.now turn.moment.salts .api identity.user identity.email

theorem createToken_unfailing {turn : Turn σ} (requested : String)
    (sound : ∀ denial, (authorize settings turn.moment.now turn.request.headers turn.store turn.wire).1 =
      .error (.error denial) → ¬denial.Unsound) (supplied : turn.Supplied settings) :
    (createToken settings turn.moment turn.request.headers requested turn.store turn.wire).reply.map (·.status) ≠
      some 500 := by
  have kept := authorize_index settings turn.moment.now turn.request.headers turn.store turn.wire
  have missing : (missingName "create").status ≠ 500 := by decide
  dsimp only [createToken]
  split
  · exact fun same => missing (Option.some.inj same)
  split
  · exact fun same => absurd (Option.some.inj same) (by simp [Reply.badRequest, Reply.complaint, Reply.json])
  split <;> rename_i result
  · nofun
  · intro same
    have status := Denial.reply_status (sound _ (congrArg Prod.fst result)) settings.wording
    rw [Option.map_some, status] at same
    cases same
  · rename_i identity middle after
    have draws := supplied identity (congrArg Prod.fst result)
    rw [result] at kept
    rw [← kept] at draws
    obtain ⟨token, generated⟩ := SnapshotStore.generate_ok draws
    obtain ⟨next, granted, -⟩ := grantToken_granted generated (Text.trim requested) after
    rw [granted]
    exact fun same => absurd (Option.some.inj same) (by simp [created, Reply.json])

/-- After all that a gateway serves that drops no credentials, its store fits together, no request is denied for what
is wrong with the store, and no request for an API token is answered with a server error. -/
theorem store_stays_sound (empty : state start = .empty) (kept : settings.invalidateOnRefreshFailure = false)
    (history : History settings start turns store) :
    Sound settings turns store ∧
    (∀ now headers wire denial, (authorize settings now headers store wire).1 = .error (.error denial) →
      ¬denial.Unsound) ∧
    ∀ turn : Turn σ, turn.store = store → turn.request.target.path = "/api-token" → turn.request.method = "POST" →
      turn.Supplied settings → turn.status? settings ≠ some 500 := by
  refine ⟨history.fits empty kept, fun now headers wire denial => history.denies_soundly empty kept, ?_⟩
  rintro turn rfl path method supplied
  rw [Turn.status?, Turn.served_creation path method]
  split
  · exact createToken_unfailing _ (fun denial => history.denies_soundly empty kept) supplied
  · exact fun same => absurd (Option.some.inj same) (by decide)

end

open Visit in
theorem store_stays_sound_creation :
    let turn := creationOf "laptop"
    settings.invalidateOnRefreshFailure = false ∧
    History settings MemoryStore.empty [loginOf alice 7 MemoryStore.empty] turn.store ∧
    TokenStore.userOf turn.store (tokenOf "alice" "a@b" 7) = .ok "alice" ∧
    TokenStore.hasCredential turn.store "alice" = true ∧
    "_session_alice" ∈ TokenStore.nameList turn.store ∧
    Named settings [loginOf alice 7 MemoryStore.empty] "_session_alice" ∧
    turn.request.target.path = "/api-token" ∧ turn.request.method = "POST" ∧ turn.Supplied settings ∧
    turn.status? settings ≠ some 500 := by
  intro turn
  have holds : (state turn.store).index.Holds ⟨"_session_alice", tokenOf "alice" "a@b" 7, "alice"⟩ :=
    TokenIndex.holds_insert .empty _
  have registered : TokenStore.userOf turn.store (tokenOf "alice" "a@b" 7) = .ok "alice" := resolves_of_holds holds
  have listed : "_session_alice" ∈ TokenStore.nameList turn.store := listed_of_holds holds
  have supplied : turn.Supplied settings := by
    intro identity authorized
    have known : (authorize settings ⟨1000, 0⟩ (creationRequest "laptop").headers opened (providerOf alice)).1 =
      .ok identity := authorized
    rw [creation_authorized] at known
    cases known
    exact ⟨8, List.mem_singleton_self 8, _, apiToken_made, apiToken_fresh⟩
  obtain ⟨sound, -, answers⟩ := store_stays_sound rfl rfl opening
  exact ⟨rfl, opening, registered, (sound.tokens _ _ registered).2, listed, sound.names _ listed, rfl, rfl, supplied,
    answers turn rfl rfl rfl supplied⟩

end Gateway

end LoginGateway
