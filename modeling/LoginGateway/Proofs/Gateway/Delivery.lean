import LoginGateway.Proofs.Gateway.Standing
import LoginGateway.Proofs.Http.Fields
import LoginGateway.Proofs.Token.Presented

namespace LoginGateway

open Http Json

theorem Issued.isValue {secret : Octets} {now : Instant} {lifetime : Int} {user token : String}
    (issued : Issued secret now lifetime user token) : isValue (Text.encode token) = true := by
  obtain ⟨email, salt, expiry, -, rfl⟩ := issued
  exact SignedToken.isValue_mint secret _

namespace Gateway

open SnapshotStore (state)

theorem isValue_cookieText {name : String} (legal : isValue (Text.encode name) = true) (value : String) :
    isValue (Text.encode (cookieText name value)) = isValue (Text.encode value) := by
  have equals : isValue (Text.encode "=") = true := by decide
  have path : isValue (Text.encode "; Path=/") = true := by decide +kernel
  simp only [cookieText, Text.encode_append, isValue_append, legal, equals, path, Bool.true_and, Bool.and_true]

theorem isValue_sessionName (user : String) : isValue (Text.encode (sessionName user)) = isValue (Text.encode user) := by
  have front : isValue (Text.encode "_session_") = true := by decide +kernel
  rw [sessionName, Text.encode_append, isValue_append, front, Bool.true_and]

/-- The cookies of a session, if the user's name can stand in a header field. -/
def sessionCookies (settings : Settings) (token user : String) : List String :=
  if isValue (Text.encode user) then
    [cookieText settings.tokenCookie token, cookieText settings.sessionCookie (sessionName user)]
  else []

def Settings.LegalCookies (settings : Settings) : Prop :=
  isValue (Text.encode settings.tokenCookie) = true ∧ isValue (Text.encode settings.sessionCookie) = true

instance (settings : Settings) : Decidable settings.LegalCookies := by unfold Settings.LegalCookies; infer_instance

theorem welcome_cookies {settings : Settings} {token : String} (legal : settings.LegalCookies)
    (carried : isValue (Text.encode token) = true) (destination user : String) :
    (welcome settings destination token user).cookies = sessionCookies settings token user := by
  have cookies : [cookieText settings.tokenCookie token, cookieText settings.sessionCookie (sessionName user)].all
      (fun cookie => isValue (Text.encode cookie)) = isValue (Text.encode user) := by
    simp only [List.all_cons, List.all_nil, isValue_cookieText legal.1, isValue_cookieText legal.2, carried,
      isValue_sessionName, Bool.true_and, Bool.and_true]
  simp only [welcome, sessionCookies, cookies]
  split <;> rfl

theorem welcome_location (settings : Settings) (destination token user : String) :
    (welcome settings destination token user).location = some destination := by
  dsimp only [welcome]
  split <;> rfl

namespace Turn

variable {σ : Type} [TokenStore σ] {settings : Settings} {turn : Turn σ}

theorem served_callback (path : turn.request.target.path = "/callback") (method : turn.request.method = "GET") :
    turn.served settings =
      if unambiguous turn.request.target.params callbackNames then
        callback settings turn.moment turn.request.target.params turn.store turn.wire
      else ⟨some .ambiguousQuery, turn.store, turn.wire, none⟩ := by
  rw [served_of_method (by rw [method]; decide)]
  unfold routed route
  rw [path]
  exact if_pos (.inl method)

variable [SnapshotStore σ]

/-- The request logs a user in: its state token leads to the destination, the ID token that its code is traded for
is the user's, and the token that it mints is now the user's. -/
structure StartsSession (settings : Settings) (turn : Turn σ) (destination user token : String) : Prop where
  destined : ∃ ticket claims, turn.request.target.params.get? "state" = some ticket ∧
    SignedToken.verify StateClaims.decoder settings.secret ticket = .ok claims ∧ claims.destination = destination
  subject : ∃ exchanged, turn.Exchanges settings exchanged ∧ ExchangedFor user exchanged
  minted : (turn.served settings).minted = some token
  registered : TokenStore.userOf (turn.served settings).store token = .ok user

structure Fails (settings : Settings) (turn : Turn σ) : Prop where
  rejects : ∀ reply, (turn.served settings).reply = some reply → Rejects reply
  store : (turn.served settings).store = turn.store
  minted : (turn.served settings).minted = none

theorem callback_completes (path : turn.request.target.path = "/callback") (method : turn.request.method = "GET") :
    turn.Fails settings ∨
    ∃ destination exchanged user token,
      LogsIn settings turn.moment turn.request.target.params turn.store turn.wire destination exchanged user token ∧
      ∃ next after, turn.served settings = ⟨some (welcome settings destination token user), next, after, some token⟩ ∧
        state next = ((state turn.store).storeToken (sessionName user) token user).storeCredential user
          exchanged.credential := by
  by_cases clear : unambiguous turn.request.target.params callbackNames
  · have served : turn.served settings = _ := (served_callback path method).trans (if_pos clear)
    rcases callback_cases settings turn.moment turn.request.target.params turn.store turn.wire with
      ⟨reply, after, failed, rejects⟩ | ⟨destination, exchanged, user, token, logsIn⟩
    · rw [failed] at served
      refine .inl ⟨fun told replied => rejects told ?_, by rw [served], by rw [served]⟩
      rw [← replied, served]
    · obtain ⟨next, after, welcomed, left⟩ := logsIn.callback
      exact .inr ⟨destination, exchanged, user, token, logsIn, next, after, served.trans welcomed, left⟩
  · have served : turn.served settings = _ := (served_callback path method).trans (if_neg clear)
    refine .inl ⟨fun told replied => ?_, by rw [served], by rw [served]⟩
    rw [served] at replied
    cases replied
    exact ⟨by decide, rfl, rfl⟩

theorem callback_served (path : turn.request.target.path = "/callback") (method : turn.request.method = "GET") :
    turn.Fails settings ∨
    ∃ destination user token, turn.StartsSession settings destination user token ∧
      isValue (Text.encode token) = true ∧
      (turn.served settings).reply = some (welcome settings destination token user) := by
  rcases callback_completes path method with failed |
    ⟨destination, exchanged, user, token, ⟨⟨code, accepted, traded⟩, email, identified, generated⟩, next, after, served,
      left⟩
  · exact .inl failed
  refine .inr ⟨destination, user, token, ⟨?_, ?_, by rw [served], ?_⟩, (SnapshotStore.issued generated).isValue,
    by rw [served]⟩
  · obtain ⟨ticket, claims, ticketed, verified, -, destined⟩ := (admitted_of_accept accepted).ticket
    exact ⟨ticket, claims, ticketed, verified, destined⟩
  · exact ⟨exchanged, ⟨code, destination, accepted, traded⟩, exchangedFor_of_userOf identified⟩
  · have found : (state next).index.userOf? token = some user := by
      rw [left]
      exact (TokenIndex.tokens_insert _ _ _ _ _).trans (if_pos rfl)
    rw [served, SnapshotStore.userOf, Snapshot.userOf, found]

end Turn

namespace Visit

def providerOf (payload : String) : Wire :=
  let idToken := "header." ++ payload ++ ".signature"
  ⟨fun _ => .answered ⟨200, some (Json.object [("access_token", Json.quote "access"),
    ("id_token", Json.quote idToken)])⟩, []⟩

def exchangedOf (payload : String) : Exchanged :=
  ⟨⟨"access", "", none, none⟩, some ("header." ++ payload ++ ".signature")⟩

def loginOf {σ : Type} (payload : String) (salt : UInt64) (store : σ) : Turn σ :=
  ⟨⟨⟨1000, 0⟩, [salt]⟩, loginTurn.request, store, providerOf payload⟩

theorem accepted : accept settings ⟨1000, 0⟩ loginTurn.request.target.params = .ok ("c", "/") := by decide +kernel

theorem clear : unambiguous loginTurn.request.target.params callbackNames = true := by decide +kernel

def tokenOf (user email : String) (salt : UInt64) : String :=
  SignedToken.mint settings.secret (ApiClaims.json ⟨user, email, salt, some 4600⟩)

theorem session_made (user email : String) (salt : UInt64) :
    ApiClaims.issue? user email salt ⟨1000, 0⟩ TokenKind.session.lifetime = some ⟨user, email, salt, some 4600⟩ := by
  have good : Claims.expiryAfter? ⟨1000, 0⟩ TokenKind.session.lifetime = some 4600 := by decide +kernel
  rw [ApiClaims.issue?, good, Option.map_some]

theorem loginOf_served {σ : Type} [TokenStore σ] [SnapshotStore σ] (payload : String) {user email : String}
    {salt : UInt64} {store : σ} (traded : (settings.client.exchangeCode ⟨1000, 0⟩ "c" (providerOf payload)).1 =
      .ok (exchangedOf payload))
    (identified : userOf (exchangedOf payload) = .ok (user, email))
    (free : (state store).index.containsToken (tokenOf user email salt) = false) :
    ∃ next after, (loginOf payload salt store).served settings =
        ⟨some (welcome settings "/" (tokenOf user email salt) user), next, after, some (tokenOf user email salt)⟩ ∧
      state next = ((state store).storeToken (sessionName user) (tokenOf user email salt) user).storeCredential user
        ⟨"access", "", none, none⟩ := by
  have logsIn : LogsIn settings (loginOf payload salt store).moment (loginOf payload salt store).request.target.params
      store (providerOf payload) "/" (exchangedOf payload) user (tokenOf user email salt) :=
    ⟨⟨"c", accepted, traded⟩, email, identified, SnapshotStore.generate_first (session_made user email salt) free⟩
  obtain ⟨next, after, welcomed, left⟩ := logsIn.callback
  have path : (loginOf payload salt store).request.target.path = "/callback" := rfl
  have method : (loginOf payload salt store).request.method = "GET" := rfl
  refine ⟨next, after, ?_, left⟩
  rw [Turn.served_callback path method, ← welcomed]
  exact if_pos clear

theorem free_empty (token : String) : (state MemoryStore.empty).index.containsToken token = false := rfl

def payloadOf (user email : String) : String :=
  Text.ascii (Base64.encode Base64.urlSafe (Json.object [("sub", quote user), ("email", quote email)]))

theorem traded (payload : String) :
    (settings.client.exchangeCode ⟨1000, 0⟩ "c" (providerOf payload)).1 = .ok (exchangedOf payload) := by
  obtain ⟨url, reachable⟩ : ∃ url, Http.reachable? settings.client.tokenEndpoint = some url :=
    Option.isSome_iff_exists.mp (by decide +kernel)
  have read : decode TokenResponse.decoder (Json.object [("access_token", quote "access"),
      ("id_token", quote ("header." ++ payload ++ ".signature"))]) =
      .ok ⟨"access", none, none, none, some ("header." ++ payload ++ ".signature")⟩ := by
    have written := text_object (.cons ((text_quote "access").member "access_token")
      (.cons ((text_quote ("header." ++ payload ++ ".signature")).member "id_token") .nil))
    rw [written.decode TokenResponse.decoder]
    simp [TokenResponse.decoder, record, objectRecord, TokenResponse.fields, field, require]
  have there : TokenResponse.nonempty (some ("header." ++ payload ++ ".signature")) =
      some ("header." ++ payload ++ ".signature") := by
    simp [TokenResponse.nonempty, Option.filter]
  simp only [ProviderClient.exchangeCode, ProviderClient.requestToken, ProviderClient.request?, reachable,
    Option.map_some, fetch, Wire.send, providerOf]
  simp [isSuccess, read, Except.mapError, TokenResponse.exchanged, TokenResponse.expiryOf, there, exchangedOf]
  rfl

theorem identified {user : String} (named : user ≠ "") (email : String) :
    userOf (exchangedOf (payloadOf user email)) = .ok (user, email) := by
  have ascii : ∀ octet ∈ Base64.encode Base64.urlSafe (Json.object [("sub", quote user), ("email", quote email)]),
      octet < 0x80 := SignedToken.forall_segment (forall_octet (by decide)) _
  have parts : Text.encode ("header." ++ payloadOf user email ++ ".signature") =
      Text.encode "header" ++ SignedToken.dot ::
        (Base64.encode Base64.urlSafe (Json.object [("sub", quote user), ("email", quote email)]) ++
          SignedToken.dot :: Text.encode "signature") := by
    have front : Text.encode "header." = Text.encode "header" ++ [SignedToken.dot] := by decide +kernel
    have back : Text.encode ".signature" = SignedToken.dot :: Text.encode "signature" := by decide +kernel
    rw [Text.encode_append, Text.encode_append, front, back, payloadOf, Text.encode_ascii ascii]
    simp
  have read : decode IdClaims.decoder (Json.object [("sub", quote user), ("email", quote email)]) =
      .ok ⟨some user, some email⟩ := by
    have written := text_object
      (.cons ((text_quote user).member "sub") (.cons ((text_quote email).member "email") .nil))
    rw [written.decode IdClaims.decoder]
    simp [IdClaims.decoder, record, objectRecord, IdClaims.fields, field]
  have claims := SignedToken.readUnverified_of_parts IdClaims.decoder parts (by decide +kernel) (by decide +kernel)
  rw [read] at claims
  exact userOf_ok rfl claims named

def alice : String := "eyJzdWIiOiJhbGljZSIsImVtYWlsIjoiYUBiIn0"

theorem alice_traded : (settings.client.exchangeCode ⟨1000, 0⟩ "c" (providerOf alice)).1 = .ok (exchangedOf alice) :=
  traded alice

theorem alice_identified : userOf (exchangedOf alice) = .ok ("alice", "a@b") := by decide +kernel

theorem legal : settings.LegalCookies := by decide +kernel

end Visit

section

variable {σ : Type} [TokenStore σ] [SnapshotStore σ] {settings : Settings} {turn : Turn σ}

/-- A callback is answered with a redirect exactly if it logs a user in. The redirect leads to the destination of
the state token and sets the cookies of the session, if the user's name can stand in a header field, or else none.
Any other answer is an error without cookies, and then the store is as it was. -/
theorem callback_delivers (legal : settings.LegalCookies) (path : turn.request.target.path = "/callback")
    (method : turn.request.method = "GET") :
    (∀ reply, (turn.served settings).reply = some reply →
      (reply.status = 303 ↔ ∃ destination user token, turn.StartsSession settings destination user token ∧
        reply.location = some destination ∧ reply.cookies = sessionCookies settings token user) ∧
      (reply.status ≠ 303 → Rejects reply)) ∧
    (turn.status? settings ≠ some 303 → turn.Fails settings) := by
  rcases Turn.callback_served path method with failed | ⟨destination, user, token, started, carried, replied⟩
  · refine ⟨fun reply answered => ?_, fun _ => failed⟩
    have rejects := failed.rejects reply answered
    refine ⟨⟨fun done => ?_, ?_⟩, fun _ => rejects⟩
    · have error := rejects.status
      omega
    · rintro ⟨destination, user, token, started, -⟩
      cases started.minted.symm.trans failed.minted
  · have status := welcome_status settings destination token user
    refine ⟨fun reply answered => ?_, fun other => ?_⟩
    · obtain rfl := Option.some.inj (replied.symm.trans answered)
      refine ⟨⟨fun _ => ?_, fun _ => status⟩, fun other => absurd status other⟩
      exact ⟨destination, user, token, started, welcome_location settings destination token user,
        welcome_cookies legal carried destination user⟩
    · refine absurd ?_ other
      rw [Turn.status?, replied, Option.map_some, status]

end

open Visit in
theorem callback_delivers_login :
    let turn := loginOf alice 7 MemoryStore.empty
    settings.LegalCookies ∧ turn.request.target.path = "/callback" ∧ turn.request.method = "GET" ∧
      ∃ reply destination user token, (turn.served settings).reply = some reply ∧
        turn.StartsSession settings destination user token ∧ reply.location = some destination ∧
        reply.cookies = sessionCookies settings token user := by
  obtain ⟨next, after, served, -⟩ := loginOf_served alice alice_traded alice_identified (free_empty _)
  intro turn
  have path : turn.request.target.path = "/callback" := rfl
  have method : turn.request.method = "GET" := rfl
  have replied := congrArg Served.reply served
  have redirects := ((callback_delivers legal path method).1 _ replied).1
  obtain ⟨destination, user, token, started, location, cookies⟩ := redirects.mp (welcome_status settings _ _ _)
  exact ⟨legal, path, method, _, destination, user, token, replied, started, location, cookies⟩

open Visit in
/-- The provider's name for the user has a line break in it. -/
theorem callback_undelivered_name :
    let turn := loginOf "eyJzdWIiOiJhXG5iIiwiZW1haWwiOiJhQGIifQ" 7 MemoryStore.empty
    settings.LegalCookies ∧ turn.request.target.path = "/callback" ∧ turn.request.method = "GET" ∧
      turn.status? settings = some 303 ∧ (turn.served settings).reply.map (·.cookies) = some [] ∧
      (turn.served settings).store ≠ turn.store := by
  have identified : userOf (exchangedOf "eyJzdWIiOiJhXG5iIiwiZW1haWwiOiJhQGIifQ") = .ok ("a\nb", "a@b") := by
    decide +kernel
  obtain ⟨next, after, served, left⟩ :=
    loginOf_served "eyJzdWIiOiJhXG5iIiwiZW1haWwiOiJhQGIifQ" (by decide +kernel) identified (free_empty _)
  have illegal : ¬isValue (Text.encode "a\nb") = true := by decide +kernel
  intro turn
  refine ⟨legal, rfl, rfl, ?_, ?_, ?_⟩
  · exact (congrArg (fun served => served.reply.map (·.status)) served).trans
      (congrArg some (welcome_status settings _ _ _))
  · refine (congrArg (fun served => served.reply.map (·.cookies)) served).trans (congrArg some ?_)
    exact (welcome_cookies legal (SignedToken.isValue_mint _ _) _ _).trans (if_neg illegal)
  · intro same
    have stored : (state next).users.find? "a\nb" = some ⟨"access", "", none, none⟩ := by
      rw [left]
      exact (Dict.find?_insert _ _ _ _).trans (if_pos rfl)
    have unchanged : next = MemoryStore.empty := (congrArg Served.store served).symm.trans same
    rw [unchanged] at stored
    cases stored

end Gateway

end LoginGateway
