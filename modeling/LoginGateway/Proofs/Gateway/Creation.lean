import LoginGateway.Proofs.Gateway.Admission
import LoginGateway.Proofs.Gateway.Revocation

namespace LoginGateway

open Http

namespace TokenIndex

/-- The later index has one registration more, with a name and a token that were not in use, and all else is as it
was. -/
structure Gains (before after : TokenIndex) (entry : Registration) : Prop where
  unnamed : before.containsName entry.name = false
  fresh : before.containsToken entry.token = false
  names : ∀ name, after.names.find? name = if name = entry.name then some entry.token else before.names.find? name
  tokens : ∀ token, after.tokens.find? token =
    if token = entry.token then some entry.user else before.tokens.find? token

variable {before after : TokenIndex} {held : Registrations} {entry : Registration}

theorem Represents.gains (represents : before.Represents held) (entry : Registration)
    (unnamed : before.containsName entry.name = false) (fresh : before.containsToken entry.token = false) :
    before.Gains (before.insert entry.name entry.token entry.user) entry where
  unnamed := unnamed
  fresh := fresh
  names name := by rw [names_insert, represents.unheld fresh]
  tokens token := by
    rw [tokens_insert, containsName_eq_false.mp unnamed]
    rfl

theorem Gains.fresh_of (gains : before.Gains after entry) {token : String}
    (fresh : after.containsToken token = false) : before.containsToken token = false := by
  rw [containsToken_eq_false, gains.tokens] at fresh
  split at fresh
  · cases fresh
  · exact containsToken_eq_false.mpr fresh

theorem Gains.unheld (gains : before.Gains after entry) {token : String} (fresh : before.containsToken token = false)
    (other : token ≠ entry.token) : after.tokens.find? token = none := by
  rw [gains.tokens, if_neg other]
  exact containsToken_eq_false.mp fresh

theorem Gains.holds (gains : before.Gains after entry) : after.Holds entry :=
  ⟨(gains.names _).trans (if_pos rfl), (gains.tokens _).trans (if_pos rfl)⟩

theorem Gains.remove (gains : before.Gains after entry) : after.remove entry.name = before := by
  have vacant := containsName_eq_false.mp gains.unnamed
  have untaken := containsToken_eq_false.mp gains.fresh
  have names : (after.remove entry.name).names = before.names := by
    refine Dict.ext_find? fun name => ?_
    rw [names_remove, gains.names]
    split
    · rename_i same
      rw [same, vacant]
    · rfl
  have tokens : (after.remove entry.name).tokens = before.tokens := by
    refine Dict.ext_find? fun token => ?_
    rw [tokens_remove, gains.holds.1, gains.tokens]
    by_cases same : token = entry.token
    · rw [same, if_pos rfl, untaken]
    · rw [if_neg fun lost => same (Option.some.inj lost).symm, if_neg same]
  calc after.remove entry.name = ⟨(after.remove entry.name).names, (after.remove entry.name).tokens⟩ := rfl
    _ = before := by rw [names, tokens]

theorem Gains.again (gains : before.Gains after entry) (represents : before.Represents held) {token : String}
    (user : String) (fresh : after.containsToken token = false) :
    before.Gains (after.insert entry.name token user) ⟨entry.name, token, user⟩ where
  unnamed := gains.unnamed
  fresh := gains.fresh_of fresh
  names name := by
    rw [names_insert, gains.names]
    split
    · rfl
    · exact represents.unheld (gains.fresh_of fresh) name
  tokens other := by
    rw [tokens_insert, gains.holds.1, gains.tokens]
    by_cases same : other = entry.token
    · rw [same, if_pos rfl, containsToken_eq_false.mp gains.fresh]
    · rw [if_neg fun lost => same (Option.some.inj lost).symm, if_neg same]

theorem Gains.holds_remove (gains : before.Gains after entry) (represents : before.Represents held) {name : String}
    (other : name ≠ entry.name) : (after.remove name).Holds entry := by
  have kept : after.names.find? name ≠ some entry.token := by
    rw [gains.names, if_neg other, ← represents.unheld gains.fresh]
    intro found
    simpa using (Option.filter_eq_some_iff.mp found).2
  constructor
  · rw [names_remove, if_neg other.symm]
    exact gains.holds.1
  · rw [tokens_remove, if_neg kept]
    exact gains.holds.2

end TokenIndex

namespace Gateway

open SnapshotStore (state)

section

variable {σ : Type} [TokenStore σ] {settings : Settings} {moment : Moment} {headers : Headers} {requested : String}
  {store : σ} {wire : Wire}

theorem createToken_barred (settings : Settings) (moment : Moment) (headers : Headers) (wire : Wire)
    (barred : Text.trim requested = "" ∨ TokenStore.containsName store (Text.trim requested) = true) :
    ∃ message, createToken settings moment headers requested store wire =
      ⟨some (.badRequest message), store, wire, none⟩ := by
  unfold createToken
  by_cases blank : (Text.trim requested).isEmpty = true
  · exact ⟨_, if_pos blank⟩
  · rcases barred with empty | taken
    · exact absurd (by rw [empty]; rfl) blank
    · exact ⟨_, (if_neg blank).trans (if_pos taken)⟩

variable [SnapshotStore σ]

theorem grantToken_left (settings : Settings) (moment : Moment) (name : String) (identity : Identity) (store : σ)
    (wire : Wire) :
    (grantToken settings moment name identity store wire).wire = wire ∧
      (state (grantToken settings moment name identity store wire).store).users = (state store).users := by
  cases generated : (TokenStore.generate store (settings.signer moment) .api identity.user identity.email).1 with
  | error error =>
    rw [grantToken_failed generated]
    exact ⟨rfl, rfl⟩
  | ok token =>
    obtain ⟨next, granted, left⟩ := grantToken_granted generated name wire
    rw [granted, left]
    exact ⟨rfl, rfl⟩

theorem createToken_left (there : Text.trim requested ≠ "")
    (free : TokenStore.containsName store (Text.trim requested) = false) :
    (createToken settings moment headers requested store wire).wire =
        (authorize settings moment.now headers store wire).2.2 ∧
      (state (createToken settings moment headers requested store wire).store).users =
        (state (authorize settings moment.now headers store wire).2.1).users := by
  have named : (Text.trim requested).isEmpty = false := by simpa using there
  unfold createToken
  simp only [named, free, Bool.false_eq_true, if_false]
  split <;> rename_i result <;> rw [result]
  · exact ⟨rfl, rfl⟩
  · exact ⟨rfl, rfl⟩
  · exact grantToken_left _ _ _ _ _ _

namespace Turn

variable {turn : Turn σ}

/-- The request gives no name that a token can be created under: several, a blank one, or one that is in use. -/
def Barred (turn : Turn σ) : Prop :=
  unambiguous turn.request.target.params ["name"] = false ∨ turn.askedName = "" ∨
    TokenStore.containsName turn.store turn.askedName = true

/-- The request is answered with a token for whoever it is authorized as. The token says who that is, and it is
registered under the name that the request gives. -/
structure Adds (settings : Settings) (turn : Turn σ) (identity : Identity) (token : String) : Prop where
  told : (turn.served settings).reply = some (created turn.askedName token)
  named : turn.askedName ≠ ""
  authorized : (authorize settings turn.moment.now turn.request.headers turn.store turn.wire).1 = .ok identity
  claims : ∃ claims, SignedToken.verify ApiClaims.decoder settings.secret token = .ok claims ∧
    claims.subject = identity.user ∧ claims.email = identity.email
  gains : (state turn.store).index.Gains (state (turn.served settings).store).index
    ⟨turn.askedName, token, identity.user⟩

omit [SnapshotStore σ] in
theorem served_barred (path : turn.request.target.path = "/api-token") (method : turn.request.method = "POST")
    (barred : turn.Barred) (settings : Settings) :
    ∃ reply, turn.served settings = ⟨some reply, turn.store, turn.wire, none⟩ ∧ reply.status = 400 := by
  rw [served_creation path method]
  by_cases clear : unambiguous turn.request.target.params ["name"] = true
  · rw [if_pos clear]
    obtain ⟨message, refused⟩ := createToken_barred settings turn.moment turn.request.headers turn.wire
      (barred.resolve_left (by simp [clear]))
    exact ⟨_, refused, rfl⟩
  · exact ⟨_, if_neg clear, rfl⟩

theorem served_unbarred (path : turn.request.target.path = "/api-token") (method : turn.request.method = "POST")
    (unbarred : ¬turn.Barred) (settings : Settings) :
    (turn.served settings).wire =
        (authorize settings turn.moment.now turn.request.headers turn.store turn.wire).2.2 ∧
      (state (turn.served settings).store).users =
        (state (authorize settings turn.moment.now turn.request.headers turn.store turn.wire).2.1).users := by
  obtain ⟨clear, there, free⟩ : _ ∧ _ ∧ _ := by simpa [Barred] using unbarred
  rw [served_creation path method, if_pos clear]
  exact createToken_left there free

theorem adds {held : Registrations} (represents : (state turn.store).index.Represents held)
    (path : turn.request.target.path = "/api-token") (method : turn.request.method = "POST")
    (succeeded : turn.status? settings = some 200) : ∃ identity token, turn.Adds settings identity token := by
  have clear : unambiguous turn.request.target.params ["name"] = true := by
    by_contra several
    obtain ⟨reply, refused, status⟩ := served_barred path method (.inl (by simpa using several)) settings
    rw [status?, refused, Option.map_some, status] at succeeded
    cases succeeded
  have served : turn.served settings = _ := served_creation path method
  rw [if_pos clear] at served
  rcases createToken_cases settings turn.moment turn.request.headers (nameIn turn.request turn.request.target.params)
      turn.store turn.wire with ⟨reply, next, after, failed, -, rejects⟩ | ⟨identity, token, earns⟩
  · rw [status?, served, failed] at succeeded
    obtain ⟨told, replied, done⟩ := Option.map_eq_some_iff.mp succeeded
    have error := (rejects told replied).status
    omega
  obtain ⟨next, after, granted, left⟩ := earns.createToken
  obtain ⟨named, free, middle, _, authorized, generated⟩ := earns
  have kept := authorize_index settings turn.moment.now turn.request.headers turn.store turn.wire
  rw [authorized] at kept left
  have fresh := SnapshotStore.generate_free generated
  rw [kept] at fresh
  rw [SnapshotStore.containsName] at free
  obtain ⟨salt, expiry, -, minted⟩ := SnapshotStore.minted generated
  refine ⟨identity, token, by rw [served, granted], by simpa using named, congrArg Prod.fst authorized, ?_, ?_⟩
  · rw [minted]
    exact ⟨_, ApiClaims.verify_mint _ _, rfl, rfl⟩
  · have index : (state next).index = (state turn.store).index.insert turn.askedName token identity.user := by
      rw [left, ← kept]
      rfl
    rw [served, granted, index]
    exact represents.gains ⟨turn.askedName, token, identity.user⟩ free fresh

end Turn

variable {turn deletion : Turn σ} {turns : List (Turn σ)} {start : σ} {name : String}

/-- A request for an API token adds one registration, or it leaves all registrations as they are. One that is barred
by its name leaves everything as it is and sends nothing, whoever makes it; any other sends what its authorization
sends, and changes users as that does. -/
theorem creation_adds (empty : state start = .empty) (history : History settings start turns turn.store)
    (path : turn.request.target.path = "/api-token") (method : turn.request.method = "POST") :
    (turn.status? settings = some 200 → ∃ identity token, turn.Adds settings identity token) ∧
    (turn.status? settings ≠ some 200 →
      (state (turn.served settings).store).index = (state turn.store).index) ∧
    (turn.Barred → turn.status? settings = some 400 ∧ (turn.served settings).store = turn.store ∧
      (turn.served settings).wire = turn.wire) ∧
    (¬turn.Barred →
      (turn.served settings).wire =
          (authorize settings turn.moment.now turn.request.headers turn.store turn.wire).2.2 ∧
        (state (turn.served settings).store).users =
          (state (authorize settings turn.moment.now turn.request.headers turn.store turn.wire).2.1).users) := by
  obtain ⟨held, represents⟩ := (history.accounted empty).sound
  refine ⟨Turn.adds represents path method, fun failed => ?_, fun barred => ?_,
    fun unbarred => Turn.served_unbarred path method unbarred settings⟩
  · rcases Turn.post_effect path method with ⟨quiet, -⟩ | ⟨user, token, creates⟩
    · exact quiet.index
    · exact absurd (by rw [Turn.status?, creates.told]; rfl) failed
  · obtain ⟨reply, refused, status⟩ := Turn.served_barred path method barred settings
    rw [Turn.status?, refused, Option.map_some, status]
    exact ⟨rfl, rfl, rfl⟩

end

open Visit in
theorem creation_adds_laptop :
    let turn := creationOf "laptop"
    History settings MemoryStore.empty [loginOf alice 7 MemoryStore.empty] turn.store ∧
      turn.request.target.path = "/api-token" ∧ turn.request.method = "POST" ∧ turn.status? settings = some 200 ∧
      ∃ identity token, turn.Adds settings identity token := by
  intro turn
  have askable : Askable "laptop" := ⟨by decide +kernel, by decide +kernel, by decide, by decide⟩
  obtain ⟨next, after, served, -⟩ := creationOf_served askable
  have succeeded : turn.status? settings = some 200 :=
    congrArg (fun served => served.reply.map (·.status)) served
  exact ⟨opening, rfl, rfl, succeeded, (creation_adds rfl opening rfl rfl).1 succeeded⟩

section

variable {σ : Type} {turn deletion : Turn σ} {settings : Settings} {name : String} {turns : List (Turn σ)} {start : σ}

/-- The request is about the token of a name, which it gives in its query or in a form. -/
structure Turn.Gives (turn : Turn σ) (method name : String) : Prop where
  path : turn.request.target.path = "/api-token"
  method : turn.request.method = method
  clear : unambiguous turn.request.target.params ["name"] = true
  given : nameIn turn.request turn.request.target.params = name

theorem Turn.AsksDeletion.deleting (asks : turn.AsksDeletion name) : turn.Gives "DELETE" name :=
  ⟨asks.path, asks.method, asks.gives.read.1, asks.gives.read.2⟩

variable [TokenStore σ] [SnapshotStore σ]

theorem Turn.Gives.deletes (deleting : turn.Gives "DELETE" name) (there : Text.trim name ≠ "") (settings : Settings) :
    turn.status? settings = some 200 ∧
      state (turn.served settings).store = (state turn.store).deleteToken name := by
  have unblank : (Text.trim name).isEmpty = false := by simpa using there
  obtain ⟨told, left⟩ := deleteToken_spec _ name turn.store
  have served := Turn.served_deletion deleting.path deleting.method deleting.clear settings
  rw [deleting.given] at served
  rw [Turn.status?, served, left, Option.map_some, told, unblank]
  exact ⟨rfl, rfl⟩

section

variable {known : TokenIndex} {held : Registrations} {entry : Registration}

theorem Turn.Gives.undoes (deleting : turn.Gives "DELETE" name) (there : Text.trim name ≠ "")
    (gains : known.Gains (state turn.store).index entry) (same : entry.name = name) (settings : Settings) :
    TokenStore.userOf (turn.served settings).store entry.token = .error .tokenNotFound ∧
      (state (turn.served settings).store).index = known := by
  have undone : (state (turn.served settings).store).index = known := by
    rw [(deleting.deletes there settings).2, ← same]
    exact gains.remove
  have gone := TokenIndex.containsToken_eq_false.mp gains.fresh
  exact ⟨SnapshotStore.unresolved ((congrArg (·.userOf? entry.token) undone).trans gone), undone⟩

theorem Turn.Gives.misses (deleting : turn.Gives "DELETE" name) (there : Text.trim name ≠ "")
    (represents : known.Represents held) (gains : known.Gains (state turn.store).index entry)
    (other : entry.name ≠ name) (settings : Settings) :
    TokenStore.userOf (turn.served settings).store entry.token = .ok entry.user ∧
      entry.name ∈ TokenStore.nameList (turn.served settings).store := by
  have holds : (state (turn.served settings).store).index.Holds entry := by
    rw [(deleting.deletes there settings).2]
    exact gains.holds_remove represents other.symm
  exact ⟨resolves_of_holds holds, listed_of_holds holds⟩

end

/-- A deletion right after a creation, for the same text, is answered 200. If there are no blanks around the text, the
new token resolves no longer and all registrations are as they were before the two; if there are, the new token and its
name stay. -/
theorem deletion_undoes_creation (empty : state start = .empty) (history : History settings start turns turn.store)
    (creating : turn.Gives "POST" name) (succeeded : turn.status? settings = some 200)
    (deleting : deletion.Gives "DELETE" name) (next : state deletion.store = state (turn.served settings).store) :
    ∃ identity token, turn.Adds settings identity token ∧ deletion.status? settings = some 200 ∧
      (Text.trim name = name →
        TokenStore.userOf (deletion.served settings).store token = .error .tokenNotFound ∧
          (state (deletion.served settings).store).index = (state turn.store).index) ∧
      (Text.trim name ≠ name →
        TokenStore.userOf (deletion.served settings).store token = .ok identity.user ∧
          Text.trim name ∈ TokenStore.nameList (deletion.served settings).store) := by
  obtain ⟨held, represents⟩ := (history.accounted empty).sound
  obtain ⟨identity, token, adds⟩ := Turn.adds represents creating.path creating.method succeeded
  have asked : turn.askedName = Text.trim name := congrArg Text.trim creating.given
  have there := adds.named
  have gains := adds.gains
  rw [asked] at there gains
  rw [← next] at gains
  exact ⟨identity, token, adds, (deleting.deletes there settings).1,
    fun tidy => deleting.undoes there gains tidy settings,
    fun untidy => deleting.misses there represents gains untidy settings⟩

end

namespace Visit

theorem creationOf_gives {written name : String}
    (clear : unambiguous (creationRequest written).target.params ["name"] = true)
    (given : nameIn (creationRequest written) (creationRequest written).target.params = name) :
    (creationOf written).Gives "POST" name := ⟨rfl, rfl, clear, given⟩

theorem deletionByQuery_found {σ : Type} [TokenStore σ] [SnapshotStore σ] (name : String) (store : σ) :
    state (deletionByQuery name store).store = state store := rfl

end Visit

open Visit in
theorem deletion_undoes_creation_laptop :
    let turn := creationOf "laptop"
    let deletion := deletionByQuery "laptop" (turn.served settings).store
    History settings MemoryStore.empty [loginOf alice 7 MemoryStore.empty] turn.store ∧ turn.Gives "POST" "laptop" ∧
      turn.status? settings = some 200 ∧ deletion.Gives "DELETE" "laptop" ∧
      ∃ identity token, turn.Adds settings identity token ∧ deletion.status? settings = some 200 ∧
        TokenStore.userOf (deletion.served settings).store token = .error .tokenNotFound ∧
        (state (deletion.served settings).store).index = (state turn.store).index := by
  intro turn deletion
  have gives : turn.Gives "POST" "laptop" := creationOf_gives (by decide +kernel) (by decide +kernel)
  have tidy : Text.trim "laptop" = "laptop" := by decide +kernel
  obtain ⟨next, after, served, -⟩ := creationOf_created gives.clear
    ((congrArg Text.trim gives.given).trans tidy) (by decide) (by decide)
  have succeeded : turn.status? settings = some 200 :=
    congrArg (fun served => served.reply.map (·.status)) served
  have deleting : deletion.Gives "DELETE" "laptop" := (deletionByQuery_asks _ _ (by decide +kernel)).deleting
  obtain ⟨identity, token, adds, status, undone, -⟩ :=
    deletion_undoes_creation rfl opening gives succeeded deleting (deletionByQuery_found _ _)
  exact ⟨opening, gives, succeeded, deleting, identity, token, adds, status, undone tidy⟩

open Visit in
theorem deletion_misses_untidy :
    let turn := creationOf "+laptop"
    let deletion := deletionByQuery " laptop" (turn.served settings).store
    History settings MemoryStore.empty [loginOf alice 7 MemoryStore.empty] turn.store ∧ turn.Gives "POST" " laptop" ∧
      (turn.served settings).reply = some (created "laptop" apiToken) ∧ turn.status? settings = some 200 ∧
      deletion.Gives "DELETE" " laptop" ∧ deletion.request.target.query = turn.request.target.query ∧
      deletion.status? settings = some 200 ∧
      TokenStore.userOf (deletion.served settings).store apiToken = .ok "alice" ∧
      "laptop" ∈ TokenStore.nameList (deletion.served settings).store := by
  intro turn deletion
  have gives : turn.Gives "POST" " laptop" := creationOf_gives (by decide +kernel) (by decide +kernel)
  have trimmed : Text.trim " laptop" = "laptop" := by decide +kernel
  obtain ⟨next, after, served, left⟩ := creationOf_created gives.clear
    ((congrArg Text.trim gives.given).trans trimmed) (by decide) (by decide)
  have deleting : deletion.Gives "DELETE" " laptop" := (deletionByQuery_asks _ _ (by decide +kernel)).deleting
  have there : Text.trim " laptop" ≠ "" := by rw [trimmed]; decide
  obtain ⟨held, represents⟩ := (opening.accounted rfl).sound
  have found : state deletion.store = (state opened).storeToken "laptop" apiToken "alice" := by
    refine (deletionByQuery_found _ _).trans ?_
    rw [show turn.served settings = _ from served]
    exact left
  have gains : (state opened).index.Gains (state deletion.store).index ⟨"laptop", apiToken, "alice"⟩ := by
    rw [found]
    exact represents.gains ⟨"laptop", apiToken, "alice"⟩ (by decide +kernel) apiToken_fresh
  obtain ⟨resolves, listed⟩ := deleting.misses there represents gains (by decide) settings
  refine ⟨opening, gives, congrArg Served.reply served, congrArg (fun served => served.reply.map (·.status)) served,
    deleting, by decide +kernel, (deleting.deletes there settings).1, resolves, listed⟩

end Gateway

end LoginGateway
