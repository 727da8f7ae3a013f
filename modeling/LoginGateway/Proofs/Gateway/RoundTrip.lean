import LoginGateway.Proofs.Gateway.Sessions
import LoginGateway.Proofs.Provider.AuthorizationUrl

namespace LoginGateway

open Http

def Http.Printable (text : String) : Prop := ∀ c ∈ text.toList, 0x20 ≤ c.toNat ∧ c.toNat ≠ 0x7F

theorem Http.Printable.isValue {text : String} (printable : Printable text) : isValue (Text.encode text) = true := by
  rw [isValue_encode_iff]
  exact fun c member => .inl (printable c member)

theorem Http.only?_append {front back : Params} {name : String} (absent : only? front name = some none) :
    only? (front ++ back) name = only? back name := by
  have none : front.filter (·.1 == name) = [] := by
    unfold only? at absent
    split at absent
    · assumption
    · cases absent
    · cases absent
  rw [only?, List.filter_append, none, List.nil_append, only?]

theorem ProviderClient.only?_loginParams (client : ProviderClient) (state : String) (scopes : List String)
    (offline : Bool) : only? (client.loginParams state scopes offline) "state" = some (some state) := by
  cases offline <;> rfl

namespace Gateway

open PresentedToken
open SnapshotStore (state)

section

variable {σ : Type} [TokenStore σ] {settings : Settings}

theorem destination_eq (params : Params) :
    destination params = if (params.get? "rd").getD "" = "" then "/" else (params.get? "rd").getD "" := by
  unfold destination
  cases params.get? "rd" with
  | none => rfl
  | some rd =>
    by_cases empty : rd = ""
    · subst empty
      rfl
    · simp [Option.filter, empty]

structure Settings.Fit (settings : Settings) : Prop where
  endpoint : isValue (Text.encode settings.client.authorizationEndpoint) = true
  unfragmented : '#' ∉ settings.client.authorizationEndpoint.toList
  stateless : only? (Target.ofText settings.client.authorizationEndpoint).params "state" = some none
  tokenCookie : CookieName settings.tokenCookie
  sessionCookie : CookieName settings.sessionCookie

theorem login_leads (fit : settings.Fit) {now : Instant} {expiry : Int64}
    (dated : Claims.expiryAfter? now Claims.stateLifetime = some expiry) (params : Params) :
    ∃ location, login settings now params = some (.redirect 307 location) ∧
      only? (Target.ofText location).params "state" =
        some (some (SignedToken.mint settings.secret (StateClaims.json ⟨destination params, some expiry⟩))) := by
  have issued : StateClaims.issue? (destination params) now = some ⟨destination params, some expiry⟩ := by
    rw [StateClaims.issue?, dated]
    rfl
  refine ⟨settings.client.authorizationUrl
    (SignedToken.mint settings.secret (StateClaims.json ⟨destination params, some expiry⟩))
    (Scopes.forLogin ((params.get? "extra_scopes").getD "") ((params.get? "cross_client").getD "")
      settings.offlineAsScope) (!settings.offlineAsScope), ?_, ?_⟩
  · rw [login, issued]
    exact if_pos (ProviderClient.isValue_authorizationUrl fit.endpoint _ _ _)
  · rw [ProviderClient.params_authorizationUrl fit.unfragmented, only?_append fit.stateless,
      ProviderClient.only?_loginParams]

theorem Turn.served_login {turn : Turn σ} (path : turn.request.target.path = "/login")
    (method : turn.request.method = "GET") (clear : unambiguous turn.request.target.params loginNames = true) :
    turn.served settings = ⟨login settings turn.moment.now turn.request.target.params, turn.store, turn.wire, none⟩ := by
  rw [served_of_method (by rw [method]; decide)]
  unfold routed route
  rw [path]
  refine (if_pos (.inl method)).trans ?_
  exact if_pos clear

variable [SnapshotStore σ]

/-- The browser comes back within five minutes with the state token, and with a code that the provider takes for this
user. -/
structure Turn.Returns (settings : Settings) (turn : Turn σ) (since : Instant) (ticket : String) (exchanged : Exchanged)
    (user email : String) : Prop where
  path : turn.request.target.path = "/callback"
  method : turn.request.method = "GET"
  clear : unambiguous turn.request.target.params callbackNames = true
  unrefused : turn.request.target.params.get? "error" = none
  ticket : turn.request.target.params.get? "state" = some ticket
  timely : turn.moment.now.seconds ≤ since.seconds + Claims.stateLifetime
  traded : ∃ code, turn.request.target.params.get? "code" = some code ∧ code ≠ "" ∧
    (settings.client.exchangeCode turn.moment.now code turn.wire).1 = .ok exchanged
  identified : ∃ idToken, exchanged.idToken = some idToken ∧
    SignedToken.readUnverified IdClaims.decoder idToken = .ok ⟨some user, some email⟩
  named : user ≠ ""
  supplied : (state turn.store).index.Supplied settings.secret turn.moment.now turn.moment.salts .session user email

theorem Turn.Returns.logsIn {turn : Turn σ} {since : Instant} {expiry : Int64} {destination user email : String}
    {exchanged : Exchanged} (dated : Claims.expiryAfter? since Claims.stateLifetime = some expiry)
    (leads : destination ≠ "" ∧ isValue (Text.encode destination) = true)
    (returns : turn.Returns settings since (SignedToken.mint settings.secret (StateClaims.json ⟨destination, some expiry⟩))
      exchanged user email) :
    ∃ token next after, turn.served settings =
        ⟨some (welcome settings destination token user), next, after, some token⟩ ∧
      turn.Opens settings user email token exchanged.credential := by
  obtain ⟨code, brought, there, traded⟩ := returns.traded
  obtain ⟨idToken, present, read⟩ := returns.identified
  obtain ⟨token, generated⟩ := SnapshotStore.generate_ok returns.supplied
  have current : expiredAt (some expiry) turn.moment.now = false := by
    have last := Claims.toInt_expiryAfter? dated
    have timely := returns.timely
    simp only [expiredAt, decide_eq_false_iff_not]
    omega
  have admitted : Admitted settings turn.moment.now turn.request.target.params code destination :=
    ⟨returns.unrefused, ⟨brought, there⟩, ⟨_, _, returns.ticket, StateClaims.verify_mint _ _, current, rfl⟩, leads⟩
  have identified := userOf_ok present read returns.named
  have logsIn : LogsIn settings turn.moment turn.request.target.params turn.store turn.wire destination exchanged user
      token := ⟨⟨code, admitted.accept, traded⟩, email, identified, generated⟩
  obtain ⟨next, after, welcomed, left⟩ := logsIn.callback
  have served : turn.served settings = ⟨some (welcome settings destination token user), next, after, some token⟩ := by
    rw [Turn.served_callback returns.path returns.method, if_pos returns.clear, welcomed]
  exact ⟨token, next, after, served, LogsIn.opens identified logsIn served left⟩

/-- A login is answered with a URL in whose query there is one state token. A browser that comes back with it in time
and logs in arrives where it wanted to go, with two cookies; and whoever sends the first of them back is let in as the
user, with the email from the ID token, for as long as the session lasts. -/
theorem login_round_trip {login : Turn σ} {rd : String} (fit : settings.Fit)
    (path : login.request.target.path = "/login") (method : login.request.method = "GET")
    (clear : unambiguous login.request.target.params loginNames = true)
    (asked : (login.request.target.params.get? "rd").getD "" = rd) (printable : Printable rd)
    (dated : (Claims.expiryAfter? login.moment.now Claims.stateLifetime).isSome) :
    ∃ location ticket, (login.served settings).reply = some (.redirect 307 location) ∧
      only? (Target.ofText location).params "state" = some (some ticket) ∧
      ∀ (start : σ) (turns : List (Turn σ)) (back : Turn σ) (exchanged : Exchanged) (user email : String),
        state start = .empty → History settings start turns back.store → Printable user →
        back.Returns settings login.moment.now ticket exchanged user email →
        ∃ token reply, (back.served settings).reply = some reply ∧ reply.status = 303 ∧
          reply.location = some (if rd = "" then "/" else rd) ∧
          reply.cookies =
            [cookieText settings.tokenCookie token, cookieText settings.sessionCookie (sessionName user)] ∧
          ∀ later : Turn σ, back.Lasts settings later user exchanged.credential →
            Carries later.request.headers settings.tokenCookie (returned (cookieText settings.tokenCookie token)) →
            authorize settings later.moment.now later.request.headers later.store later.wire =
                (.ok ⟨user, email⟩, later.store, later.wire) ∧
              (later.AsksVerification → later.status? settings = some 200) := by
  obtain ⟨expiry, ends⟩ := Option.isSome_iff_exists.mp dated
  obtain ⟨location, answered, state⟩ := login_leads fit ends login.request.target.params
  have leads : destination login.request.target.params = if rd = "" then "/" else rd := by rw [destination_eq, asked]
  refine ⟨location, _, by rw [Turn.served_login path method clear, answered], state, ?_⟩
  intro start turns back exchanged user email empty history named returns
  rw [leads] at returns
  have legal : (if rd = "" then "/" else rd) ≠ "" ∧ isValue (Text.encode (if rd = "" then "/" else rd)) = true := by
    split
    · exact ⟨by decide, by decide⟩
    · rename_i there
      exact ⟨there, printable.isValue⟩
  obtain ⟨token, next, after, served, opens⟩ := returns.logsIn ends legal
  obtain ⟨salt, second, expires, rfl⟩ := opens.minted
  have cookies := welcome_cookies ⟨fit.tokenCookie.isValue, fit.sessionCookie.isValue⟩
    (SignedToken.isValue_mint settings.secret (ApiClaims.json ⟨user, email, salt, some second⟩))
    (if rd = "" then "/" else rd) user
  rw [sessionCookies, if_pos named.isValue] at cookies
  refine ⟨_, _, congrArg Served.reply served, welcome_status settings _ _ _, welcome_location settings _ _ _, cookies, ?_⟩
  intro later lasts carries
  rw [returned_cookieText fit.tokenCookie, returned_mint] at carries
  have presented := ofRequest_carried fit.tokenCookie carries
  have authorized := opens.authorizes (history.accounted empty).sound lasts presented
  refine ⟨authorized, fun asks => ?_⟩
  exact (Turn.verified_iff asks).mpr ⟨_, user, presented, ⟨user, email⟩, rfl, congrArg Prod.fst authorized⟩

end

namespace Visit

def departure : Turn MemoryStore :=
  ⟨⟨⟨1000, 0⟩, []⟩, ⟨"GET", ⟨"/login", none⟩, [], []⟩, MemoryStore.empty, providerOf alice⟩

theorem departure_dated : Claims.expiryAfter? departure.moment.now Claims.stateLifetime = some 1300 := by decide +kernel

theorem fit : settings.Fit where
  endpoint := by decide +kernel
  unfragmented := by simp [settings]
  stateless := by decide +kernel
  tokenCookie := by simp [CookieName, settings, defaultTokenCookie]
  sessionCookie := by simp [CookieName, settings, defaultSessionCookie]

theorem back_returns :
    (loginOf alice 7 MemoryStore.empty).Returns settings departure.moment.now
      (SignedToken.mint settings.secret (StateClaims.json ⟨"/", some 1300⟩)) (exchangedOf alice) "alice" "a@b" where
  path := rfl
  method := rfl
  clear := clear
  unrefused := by decide +kernel
  ticket := by decide +kernel
  timely := by decide
  traded := ⟨"c", by decide +kernel, by decide, alice_traded⟩
  identified := ⟨_, rfl, by decide +kernel⟩
  named := by decide
  supplied := ⟨7, List.mem_singleton_self 7, _, session_made "alice" "a@b" 7, free_empty _⟩

end Visit

open Visit in
theorem login_round_trip_alice :
    let back := loginOf alice 7 MemoryStore.empty
    let later := returnOf alice "alice"
    settings.Fit ∧ departure.request.target.path = "/login" ∧ departure.request.method = "GET" ∧
      unambiguous departure.request.target.params loginNames = true ∧ Printable "" ∧
      (Claims.expiryAfter? departure.moment.now Claims.stateLifetime).isSome = true ∧
      ∃ location ticket, (departure.served settings).reply = some (.redirect 307 location) ∧
        only? (Target.ofText location).params "state" = some (some ticket) ∧
        History settings MemoryStore.empty [] back.store ∧ Printable "alice" ∧
        back.Returns settings departure.moment.now ticket (exchangedOf alice) "alice" "a@b" ∧
        back.Lasts settings later "alice" ⟨"access", "", none, none⟩ ∧
        ∃ token reply, (back.served settings).reply = some reply ∧ reply.status = 303 ∧ reply.location = some "/" ∧
          Carries later.request.headers settings.tokenCookie (returned (cookieText settings.tokenCookie token)) ∧
          authorize settings later.moment.now later.request.headers later.store later.wire =
            (.ok ⟨"alice", "a@b"⟩, later.store, later.wire) := by
  intro back later
  have clear : unambiguous departure.request.target.params loginNames = true := by decide
  have blank : Printable "" := by simp [Printable]
  have printable : Printable "alice" := by simp [Printable]
  have dated : (Claims.expiryAfter? departure.moment.now Claims.stateLifetime).isSome = true := by
    rw [departure_dated]
    rfl
  have history : History settings MemoryStore.empty [] back.store := .start
  have lasts : back.Lasts settings later "alice" ⟨"access", "", none, none⟩ := returnOf_lasts alice "alice"
  obtain ⟨location, ticket, answered, single, arrives⟩ := login_round_trip fit rfl rfl clear rfl blank dated
  -- The one state token in the URL is the one that the browser comes back with.
  obtain ⟨url, leads, read⟩ := login_leads fit departure_dated departure.request.target.params
  have same : location = url := by
    rw [Turn.served_login rfl rfl clear, leads] at answered
    exact (congrArg Reply.location (Option.some.inj answered)).symm |> Option.some.inj
  have ticketed : ticket = SignedToken.mint settings.secret (StateClaims.json ⟨"/", some 1300⟩) := by
    rw [same, read] at single
    exact (Option.some.inj (Option.some.inj single)).symm
  have returns : back.Returns settings departure.moment.now ticket (exchangedOf alice) "alice" "a@b" := by
    rw [ticketed]
    exact back_returns
  obtain ⟨token, reply, replied, done, arrived, cookies, authorizes⟩ :=
    arrives MemoryStore.empty [] back (exchangedOf alice) "alice" "a@b" rfl history printable returns
  have carries : Carries later.request.headers settings.tokenCookie (returned (cookieText settings.tokenCookie token)) := by
    obtain ⟨other, told, -, brought⟩ := loginOf_replied alice alice_traded alice_identified printable.isValue
    obtain rfl := Option.some.inj (told.symm.trans replied)
    have set := (List.cons.inj (cookies.symm.trans brought)).1
    have readable : Readable (returned (cookieText defaultSessionCookie (sessionName "alice"))) :=
      (readable_sessionCookie fit.sessionCookie printable.isValue).mpr alice_ascii
    have undivided : ∀ cookie ∈ (cookiesOf "alice").map returned, ';' ∉ cookie.toList := by
      intro cookie member
      obtain ⟨whole, -, rfl⟩ := List.mem_map.mp member
      exact returned_single whole
    rw [set]
    exact ⟨[], [_], ⟨rfl, ⟨[], rfl⟩, undivided⟩, by simpa using readable, by simp⟩
  exact ⟨fit, rfl, rfl, clear, blank, dated, location, ticket, answered, single, history, printable, returns, lasts, token,
    reply, replied, done, arrived, carries, (authorizes later lasts carries).1⟩

end Gateway

end LoginGateway
