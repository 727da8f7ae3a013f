import LoginGateway.Proofs.Gateway.Credentials
import LoginGateway.Proofs.Gateway.Lasting
import LoginGateway.Proofs.Token.Cookies

namespace LoginGateway

open Http

theorem Credential.Past.later {credential : Credential} {earlier later : Instant} (past : credential.Past earlier)
    (ordered : ¬later.Before earlier) : credential.Past later := by
  obtain ⟨expiry, named, before⟩ := past
  refine ⟨expiry, named, ?_⟩
  simp only [Instant.Before] at before ordered ⊢
  omega

namespace Gateway

open PresentedToken
open SnapshotStore (state)

section

variable {σ : Type} [TokenStore σ] [SnapshotStore σ] {settings : Settings} {start store : σ} {turns : List (Turn σ)}
  {user email token : String} {credential : Credential}

theorem History.keeps_current (history : History settings start turns store)
    (held : (state start).users.find? user = some credential)
    (left : ∀ turn ∈ turns, ¬credential.Past turn.moment.now ∧ turn.Leaves settings (sessionName user)) :
    (state store).users.find? user = some credential := by
  induction history with
  | start => exact held
  | idle history same ih =>
    rw [same]
    exact ih left
  | serve turn history ih =>
    obtain ⟨earlier, last⟩ := List.forall_mem_append.mp left
    obtain ⟨current, leaves⟩ := last turn (List.mem_singleton_self turn)
    exact turn.keeps_current (ih earlier) current fun token => leaves.unclaimed token user

namespace Turn

variable {turn later : Turn σ}

/-- The request starts a session of the user: its token is registered and says the email, and the credential is
stored. -/
structure Opens (settings : Settings) (turn : Turn σ) (user email token : String) (credential : Credential) : Prop where
  minted : ∃ salt expiry, Claims.expiryAfter? turn.moment.now TokenKind.session.lifetime = some expiry ∧
    token = SignedToken.mint settings.secret (ApiClaims.json ⟨user, email, salt, some expiry⟩)
  holds : (state (turn.served settings).store).index.Holds ⟨sessionName user, token, user⟩
  stored : (state (turn.served settings).store).users.find? user = some credential

/-- The later request comes within the hour and while the credential is good, and what has been served in between has
neither replaced the session nor deleted it. -/
structure Lasts (settings : Settings) (turn later : Turn σ) (user : String) (credential : Credential) : Prop where
  history : ∃ between, History settings (turn.served settings).store between later.store ∧
    ∀ other ∈ between, other.Leaves settings (sessionName user) ∧ ¬later.moment.now.Before other.moment.now
  timely : later.moment.now.seconds ≤ turn.moment.now.seconds + TokenKind.session.lifetime
  unexpired : ¬credential.Past later.moment.now

theorem Opens.authorizes (opens : turn.Opens settings user email token credential)
    (sound : ∃ held, (state turn.store).index.Represents held) (lasts : turn.Lasts settings later user credential)
    (presented : PresentedToken.ofRequest later.request.headers settings.tokenCookie = .ok token) :
    authorize settings later.moment.now later.request.headers later.store later.wire =
      (.ok ⟨user, email⟩, later.store, later.wire) := by
  obtain ⟨salt, expiry, expires, rfl⟩ := opens.minted
  obtain ⟨between, history, left⟩ := lasts.history
  obtain ⟨held, represents⟩ := sound
  have leaves : ∀ other ∈ between, other.Leaves settings (sessionName user) := fun other member => (left other member).1
  obtain ⟨-, named, registered⟩ := history.holds (turn.represented represents settings) opens.holds leaves
  have stored : (state later.store).users.find? user = some credential := by
    refine history.keeps_current opens.stored fun other member => ⟨fun past => ?_, leaves other member⟩
    exact lasts.unexpired (past.later (left other member).2)
  have claimed : Claimed settings later.request.headers _ ⟨user, email, salt, some expiry⟩ :=
    ⟨presented, ApiClaims.verify_mint _ _⟩
  have current : ¬Lapsed ⟨user, email, salt, some expiry⟩ later.moment.now := by
    rintro ⟨second, ends, lapsed⟩
    cases ends
    have last := Claims.toInt_expiryAfter? expires
    have timely := lasts.timely
    omega
  have recognized : Recognized settings later.moment.now later.request.headers (state later.store) ⟨user, email⟩
      credential := .user claimed current registered stored
  exact recognized.authorize_current lasts.unexpired

end Turn

theorem LogsIn.opens {turn : Turn σ} {destination : String} {exchanged : Exchanged} {next : σ} {after : Wire}
    (identified : userOf exchanged = .ok (user, email))
    (logsIn : LogsIn settings turn.moment turn.request.target.params turn.store turn.wire destination exchanged user token)
    (served : turn.served settings = ⟨some (welcome settings destination token user), next, after, some token⟩)
    (left : state next = ((state turn.store).storeToken (sessionName user) token user).storeCredential user
      exchanged.credential) :
    turn.Opens settings user email token exchanged.credential := by
  obtain ⟨-, email', identified', generated⟩ := logsIn
  obtain ⟨-, rfl⟩ := Prod.mk.inj (Except.ok.inj (identified.symm.trans identified'))
  constructor
  · exact SnapshotStore.minted generated
  · rw [served, left]
    exact (state turn.store).index.holds_insert ⟨sessionName user, token, user⟩
  · rw [served, left]
    exact Snapshot.find?_storeCredential_self _ _ _

omit [TokenStore σ] [SnapshotStore σ] in
theorem returned_cookieText {name : String} (legal : CookieName name) (value : String) :
    returned (cookieText name value) = name ++ "=" ++ returned value := by
  have front : ';' ∉ (name ++ "=").toList := by simp [legal.undivided]
  have marked : "; Path=/".toList.takeWhile (· != ';') = [] := by simp
  rw [cookieText, returned_attributes _ marked, returned_append front]

theorem returned_sessionName (user : String) : returned (sessionName user) = sessionName (returned user) :=
  returned_append (by simp) user

theorem returned_mint (secret claims : Octets) :
    returned (SignedToken.mint secret claims) = SignedToken.mint secret claims :=
  returned_whole fun member => (SignedToken.mint_unquoted secret claims ';' member).1 rfl

theorem readable_sessionCookie {name user : String} (legal : CookieName name)
    (carried : isValue (Text.encode user) = true) :
    Readable (returned (cookieText name (sessionName user))) ↔ ∀ c ∈ (returned user).toList, c.toNat < 0x80 := by
  have joint : Readable "=" := by simp [Readable]
  have front : Readable "_session_" := by simp [Readable]
  rw [returned_cookieText legal, returned_sessionName, sessionName]
  simp only [readable_append, legal.readable, joint, front, true_and]
  rw [isValue_encode_iff] at carried
  refine forall₂_congr fun c member => ?_
  have kept : c ∈ user.toList := by
    rw [returned, String.toList_ofList] at member
    exact (List.takeWhile_prefix _).subset member
  have legal := carried c kept
  omega

theorem Turn.callback_opens {turn : Turn σ} {reply : Reply} (legal : settings.LegalCookies)
    (path : turn.request.target.path = "/callback") (method : turn.request.method = "GET")
    (replied : (turn.served settings).reply = some reply) (done : reply.status = 303) :
    ∃ exchanged user email token, turn.Exchanges settings exchanged ∧ userOf exchanged = .ok (user, email) ∧
      turn.Opens settings user email token exchanged.credential ∧ reply.cookies = sessionCookies settings token user := by
  rcases Turn.callback_completes path method with failed |
    ⟨destination, exchanged, user, token, logsIn, next, after, served, left⟩
  · have error := (failed.rejects reply replied).status
    omega
  obtain ⟨⟨code, accepted, traded⟩, email, identified, generated⟩ := logsIn
  have told : reply = welcome settings destination token user := by
    rw [served] at replied
    exact (Option.some.inj replied).symm
  refine ⟨exchanged, user, email, token, ⟨code, destination, accepted, traded⟩, identified,
    LogsIn.opens identified ⟨⟨code, accepted, traded⟩, email, identified, generated⟩ served left, ?_⟩
  rw [told, welcome_cookies legal (SnapshotStore.issued generated).isValue]

theorem presents_token {headers : Headers} {secret claims : Octets} {value : String}
    (tokenNamed : CookieName settings.tokenCookie) (sessionNamed : CookieName settings.sessionCookie)
    (apart : settings.sessionCookie ≠ settings.tokenCookie) (bare : headers.first? "authorization" = none)
    (sent : headers.all "cookie" = [cookieField
        [returned (cookieText settings.tokenCookie (SignedToken.mint secret claims)),
          returned (cookieText settings.sessionCookie value)]] ∨
      headers.all "cookie" = [cookieField
        [returned (cookieText settings.sessionCookie value),
          returned (cookieText settings.tokenCookie (SignedToken.mint secret claims))]])
    (readable : Readable (returned (cookieText settings.sessionCookie value))) :
    ofRequest headers settings.tokenCookie = .ok (SignedToken.mint secret claims) := by
  have single : ∀ {one other : String}, ∀ cookie ∈ [returned one, returned other], ';' ∉ cookie.toList := by
    intro one other cookie member
    rcases List.mem_pair.mp member with rfl | rfl <;> exact returned_single _
  -- In front of the token, the other cookie must not be taken for it.
  have unlike : ∀ found, cookiePair? (returned (cookieText settings.sessionCookie value)).toList ≠
      some (settings.tokenCookie, found) := by
    intro found same
    have parts : (returned (cookieText settings.sessionCookie value)).toList =
        settings.sessionCookie.toList ++ '=' :: (returned value).toList := by
      rw [returned_cookieText sessionNamed]
      simp
    rw [parts, cookiePair?_eq sessionNamed] at same
    exact apart (congrArg Prod.fst (Option.some.inj same))
  have carries : Carries headers settings.tokenCookie
      (returned (cookieText settings.tokenCookie (SignedToken.mint secret claims))) := by
    rcases sent with field | field
    · exact ⟨[], [_], ⟨bare, ⟨[], field⟩, single⟩, by simpa using readable, by simp⟩
    · exact ⟨[_], [], ⟨bare, ⟨[], field⟩, single⟩, by simpa using readable, by simpa using unlike⟩
  rw [returned_cookieText tokenNamed, returned_mint] at carries
  exact ofRequest_carried tokenNamed carries

/-- With the cookies named as they are by default, a browser that has got both is let in as the user for as long as the
session lasts, in whichever order it sends them, if the provider's name for the user is ASCII up to its first semicolon.
If it is not, the request counts as one without a token. -/
theorem browser_cookies_authorize {turn : Turn σ} {reply : Reply} {first second : String} (empty : state start = .empty)
    (history : History settings start turns turn.store) (tokenNamed : settings.tokenCookie = defaultTokenCookie)
    (sessionNamed : settings.sessionCookie = defaultSessionCookie) (path : turn.request.target.path = "/callback")
    (method : turn.request.method = "GET") (replied : (turn.served settings).reply = some reply)
    (done : reply.status = 303) (cookies : reply.cookies = [first, second]) :
    ∃ exchanged user email, turn.Exchanges settings exchanged ∧ userOf exchanged = .ok (user, email) ∧
      ∀ later : Turn σ, turn.Lasts settings later user exchanged.credential →
        later.request.headers.first? "authorization" = none →
        (later.request.headers.all "cookie" = [cookieField [returned first, returned second]] ∨
          later.request.headers.all "cookie" = [cookieField [returned second, returned first]]) →
        ((∀ c ∈ (returned user).toList, c.toNat < 0x80) →
          authorize settings later.moment.now later.request.headers later.store later.wire =
            (.ok ⟨user, email⟩, later.store, later.wire)) ∧
        ((∃ c ∈ (returned user).toList, 0x80 ≤ c.toNat) →
          authorize settings later.moment.now later.request.headers later.store later.wire =
            (.error (.error (.noToken .missing)), later.store, later.wire)) := by
  have tokenLegal : CookieName settings.tokenCookie := by
    rw [tokenNamed]
    simp [CookieName, defaultTokenCookie]
  have sessionLegal : CookieName settings.sessionCookie := by
    rw [sessionNamed]
    simp [CookieName, defaultSessionCookie]
  have apart : settings.sessionCookie ≠ settings.tokenCookie := by
    rw [tokenNamed, sessionNamed]
    decide
  obtain ⟨exchanged, user, email, token, traded, identified, opens, set⟩ :=
    Turn.callback_opens ⟨tokenLegal.isValue, sessionLegal.isValue⟩ path method replied done
  refine ⟨exchanged, user, email, traded, identified, fun later lasts bare sent => ?_⟩
  rw [cookies, sessionCookies] at set
  split at set
  · rename_i carried
    cases set
    obtain ⟨salt, expiry, expires, rfl⟩ := opens.minted
    constructor
    · intro ascii
      have readable := (readable_sessionCookie sessionLegal carried).mpr ascii
      have presented := presents_token tokenLegal sessionLegal apart bare sent readable
      exact opens.authorizes (history.accounted empty).sound lasts presented
    · rintro ⟨c, member, beyond⟩
      -- One character is enough: the field is not read, and with it goes the token.
      have unreadable : ¬Readable (returned (cookieText settings.sessionCookie (sessionName user))) := by
        intro readable
        have ascii := (readable_sessionCookie sessionLegal carried).mp readable c member
        omega
      have absent : ofRequest later.request.headers settings.tokenCookie = .error .missing := by
        rcases sent with field | field
        · exact ofRequest_unreadable bare field ⟨_, List.mem_cons_of_mem _ List.mem_cons_self, unreadable⟩ _
        · exact ofRequest_unreadable bare field ⟨_, List.mem_cons_self, unreadable⟩ _
      have refused : Refused settings later.moment.now later.request.headers (state later.store) (.noToken .missing) :=
        .noToken absent
      exact refused.authorize
  · cases set

end

namespace Visit

def accented : String := "eyJzdWIiOiLDqSIsImVtYWlsIjoiYUBiIn0"

def cookiesOf (user : String) : List String :=
  [cookieText defaultTokenCookie (tokenOf user "a@b" 7), cookieText defaultSessionCookie (sessionName user)]

def returnOf (payload user : String) : Turn MemoryStore where
  moment := ⟨⟨4600, 0⟩, []⟩
  request := ⟨"GET", ⟨"/", none⟩, [("cookie", cookieField ((cookiesOf user).map returned))], []⟩
  store := ((loginOf payload 7 MemoryStore.empty).served settings).store
  wire := providerOf payload

theorem loginOf_replied (payload : String) {user : String} (traded : (settings.client.exchangeCode ⟨1000, 0⟩ "c"
      (providerOf payload)).1 = .ok (exchangedOf payload)) (identified : userOf (exchangedOf payload) = .ok (user, "a@b"))
    (carried : isValue (Text.encode user) = true) :
    ∃ reply, ((loginOf payload 7 MemoryStore.empty).served settings).reply = some reply ∧ reply.status = 303 ∧
      reply.cookies = cookiesOf user := by
  obtain ⟨next, after, served, -⟩ := loginOf_served payload traded identified (free_empty _)
  refine ⟨_, congrArg Served.reply served, welcome_status settings _ _ _, ?_⟩
  exact (welcome_cookies legal (SignedToken.isValue_mint _ _) _ _).trans (if_pos carried)

theorem returnOf_lasts (payload user : String) :
    (loginOf payload 7 MemoryStore.empty).Lasts settings (returnOf payload user) user ⟨"access", "", none, none⟩ := by
  have history : History settings ((loginOf payload 7 MemoryStore.empty).served settings).store []
      (returnOf payload user).store := by
    dsimp only [returnOf]
    exact .start
  have unexpired : ¬Credential.Past ⟨"access", "", none, none⟩ ⟨4600, 0⟩ := by
    rintro ⟨expiry, named, -⟩
    cases named
  have timely : (4600 : Int) ≤ 1000 + TokenKind.session.lifetime := by decide
  exact ⟨⟨[], history, nofun⟩, timely, unexpired⟩

theorem alice_ascii : ∀ c ∈ (returned "alice").toList, c.toNat < 0x80 := by
  rw [returned_whole (by simp)]
  simp

end Visit

open Visit in
theorem browser_cookies_authorize_alice :
    let turn := loginOf alice 7 MemoryStore.empty
    let later := returnOf alice "alice"
    History settings MemoryStore.empty [] turn.store ∧ turn.request.target.path = "/callback" ∧
      turn.request.method = "GET" ∧ (∃ reply first second, (turn.served settings).reply = some reply ∧
        reply.status = 303 ∧ reply.cookies = [first, second] ∧
        later.request.headers.all "cookie" = [cookieField [returned first, returned second]]) ∧
      turn.Lasts settings later "alice" ⟨"access", "", none, none⟩ ∧
      authorize settings later.moment.now later.request.headers later.store later.wire =
        (.ok ⟨"alice", "a@b"⟩, later.store, later.wire) := by
  intro turn later
  obtain ⟨reply, replied, done, cookies⟩ := loginOf_replied alice alice_traded alice_identified (by decide +kernel)
  have history : History settings MemoryStore.empty [] turn.store := .start
  have lasts : turn.Lasts settings later "alice" ⟨"access", "", none, none⟩ := returnOf_lasts alice "alice"
  have trades : turn.Exchanges settings (exchangedOf alice) := ⟨"c", "/", accepted, alice_traded⟩
  obtain ⟨exchanged, user, email, traded, identified, authorizes⟩ :=
    browser_cookies_authorize rfl history rfl rfl rfl rfl replied done cookies
  obtain rfl := traded.unique trades
  obtain ⟨rfl, rfl⟩ := Prod.mk.inj (Except.ok.inj (identified.symm.trans alice_identified))
  have authorized := (authorizes later lasts rfl (.inl rfl)).1 alice_ascii
  exact ⟨history, rfl, rfl, ⟨reply, _, _, replied, done, cookies, rfl⟩, lasts, authorized⟩

open Visit in
/-- The provider's name for the user is "é". -/
theorem browser_cookies_unread :
    let turn := loginOf accented 7 MemoryStore.empty
    let later := returnOf accented "é"
    History settings MemoryStore.empty [] turn.store ∧ turn.request.target.path = "/callback" ∧
      turn.request.method = "GET" ∧ turn.Exchanges settings (exchangedOf accented) ∧
      userOf (exchangedOf accented) = .ok ("é", "a@b") ∧
      (∃ reply first second, (turn.served settings).reply = some reply ∧ reply.status = 303 ∧
        reply.cookies = [first, second] ∧
        later.request.headers.all "cookie" = [cookieField [returned first, returned second]]) ∧
      later.request.headers.first? "authorization" = none ∧
      turn.Lasts settings later "é" ⟨"access", "", none, none⟩ ∧
      (authorize settings later.moment.now later.request.headers later.store later.wire).1 =
        .error (.error (.noToken .missing)) := by
  intro turn later
  have traded : (settings.client.exchangeCode ⟨1000, 0⟩ "c" (providerOf accented)).1 = .ok (exchangedOf accented) := by
    decide +kernel
  have identified : userOf (exchangedOf accented) = .ok ("é", "a@b") := by decide +kernel
  have carried : isValue (Text.encode "é") = true := by decide +kernel
  have named : CookieName settings.sessionCookie := by simp [CookieName, settings, defaultSessionCookie]
  obtain ⟨reply, replied, done, cookies⟩ := loginOf_replied accented traded identified carried
  have beyond : ¬∀ c ∈ (returned "é").toList, c.toNat < 0x80 := by
    rw [returned_whole (by simp)]
    simp
  have unreadable := mt (readable_sessionCookie named carried).mp beyond
  have absent : ofRequest later.request.headers settings.tokenCookie = .error .missing :=
    ofRequest_unreadable rfl rfl ⟨_, List.mem_cons_of_mem _ List.mem_cons_self, unreadable⟩ _
  have refused : Refused settings later.moment.now later.request.headers (state later.store) (.noToken .missing) :=
    .noToken absent
  refine ⟨.start, rfl, rfl, ⟨"c", "/", accepted, traded⟩, identified, ⟨reply, _, _, replied, done, cookies, rfl⟩, rfl,
    returnOf_lasts accented "é", ?_⟩
  rw [refused.authorize]

end Gateway

end LoginGateway
