import LoginGateway.Proofs.Encoding.Form
import LoginGateway.Proofs.Gateway.Invariant

namespace LoginGateway

open Http Json

theorem TokenIndex.Represents.eq_empty {index : TokenIndex} (represents : index.Represents ∅) : index = .empty := by
  obtain ⟨names, tokens⟩ := index
  have unnamed : names = .empty := by
    apply Dict.ext_find?
    intro name
    rw [Dict.find?_empty, Option.eq_none_iff_forall_ne_some]
    intro token found
    obtain ⟨user, member⟩ := (represents.names name token).mp found
    exact Finset.notMem_empty _ member
  have untaken : tokens = .empty := by
    apply Dict.ext_find?
    intro token
    rw [Dict.find?_empty, Option.eq_none_iff_forall_ne_some]
    intro user found
    obtain ⟨name, member⟩ := (represents.tokens token user).mp found
    exact Finset.notMem_empty _ member
  rw [unnamed, untaken, TokenIndex.empty]

theorem TokenIndex.remove_remove (index : TokenIndex) (name : String) :
    (index.remove name).remove name = index.remove name := by
  have absent : (index.remove name).names.find? name = none := (index.names_remove name name).trans (if_pos rfl)
  rw [TokenIndex.remove, TokenIndex.removal, absent]

namespace Gateway

open SnapshotStore (state)

section

variable {σ : Type} {settings : Settings} {turn first again : Turn σ} {name other : String} {turns : List (Turn σ)}
  {start store : σ}

/-- The request gives the name form-encoded, in its query or in a body that is not too large to be read. -/
inductive GivesName (request : Incoming) (name : String) : Prop where
  | query (given : request.target.query = some (Form.encode [("name", name)])) (formless : request.form? = none)
  | body {contentType : String} (clear : unambiguous request.target.params ["name"] = true)
      (typed : (request.headers.first? "content-type").bind readable? = some contentType)
      (isForm : formType.toList.isPrefixOf contentType.toList = true)
      (given : request.body = Text.encode (Form.encode [("name", name)])) (bearable : request.body.length ≤ bodyLimit)

/-- The request asks for the deletion of a token by its name, and its target is not too long to be served. -/
structure Turn.AsksDeletion (turn : Turn σ) (name : String) : Prop where
  path : turn.request.target.path = "/api-token"
  method : turn.request.method = "DELETE"
  short : turn.request.target.length ≤ targetLimit
  gives : GivesName turn.request name

theorem GivesName.read {request : Incoming} (gives : GivesName request name) :
    unambiguous request.target.params ["name"] = true ∧ nameIn request request.target.params = name := by
  have single : unambiguous [("name", name)] ["name"] = true := by simp [unambiguous, only?]
  cases gives with
  | query given formless =>
    have params : request.target.params = [("name", name)] := by
      rw [Target.params, given, Option.getD_some, Form.decode_encode]
    rw [params]
    refine ⟨single, ?_⟩
    simp [nameIn, requestedName, formless, Params.get?]
  | body clear typed isForm given bearable =>
    have form : request.form? = some [("name", name)] := by
      have read : formType.toList.isPrefixOf _ = true ∧ request.body.length ≤ bodyLimit := ⟨isForm, bearable⟩
      rw [Incoming.form?, typed]
      simp only [read, and_self, if_true]
      rw [given, Form.decode_encode]
    refine ⟨clear, ?_⟩
    rw [nameIn, form, Option.filter_some, if_pos single]
    simp [requestedName, Params.get?]

theorem Turn.AsksDeletion.unique (asks : turn.AsksDeletion name) (asks' : turn.AsksDeletion other) : name = other :=
  asks.gives.read.2.symm.trans asks'.gives.read.2

theorem nameIn_unread {request : Incoming} (unnamed : request.target.params.get? "name" = none)
    (unbearable : bodyLimit < request.body.length) :
    unambiguous request.target.params ["name"] = true ∧ nameIn request request.target.params = "" := by
  have formless : request.form? = none := by
    unfold Incoming.form?
    split
    · exact if_neg fun read => Nat.not_le_of_lt unbearable read.2
    · rfl
  have absent : request.target.params.filter (·.1 == "name") = [] := by
    rw [List.filter_eq_nil_iff]
    rintro ⟨key, value⟩ member same
    rw [Params.get?, List.lookup_eq_none_iff] at unnamed
    have different := unnamed (key, value) member
    simp_all
  constructor
  · simp [unambiguous, only?, absent]
  · rw [nameIn, formless, requestedName, unnamed]
    rfl

variable [TokenStore σ]

theorem Turn.served_deletion (path : turn.request.target.path = "/api-token") (method : turn.request.method = "DELETE")
    (clear : unambiguous turn.request.target.params ["name"] = true) (settings : Settings) :
    turn.served settings =
      ⟨some (deleteToken settings (nameIn turn.request turn.request.target.params) turn.store).1,
        (deleteToken settings (nameIn turn.request turn.request.target.params) turn.store).2, turn.wire, none⟩ := by
  rw [served_of_method (by rw [method]; decide), routed_tokens path]
  unfold serveTokens
  rw [method]
  simp only [withQuery, clear, if_true]

theorem Turn.AsksDeletion.served (asks : turn.AsksDeletion name) (settings : Settings) :
    turn.served settings =
      ⟨some (deleteToken settings name turn.store).1, (deleteToken settings name turn.store).2, turn.wire, none⟩ := by
  obtain ⟨clear, named⟩ := asks.gives.read
  rw [served_deletion asks.path asks.method clear, named]

theorem Turn.served_unread (path : turn.request.target.path = "/api-token") (method : turn.request.method = "DELETE")
    (unnamed : turn.request.target.params.get? "name" = none) (unbearable : bodyLimit < turn.request.body.length)
    (settings : Settings) :
    turn.served settings = ⟨some (missingName "delete"), turn.store, turn.wire, none⟩ := by
  obtain ⟨clear, named⟩ := nameIn_unread unnamed unbearable
  rw [served_deletion path method clear, named]
  rfl

def listedNames : Decoder (List String) :=
  record [field "tokens" false (listOf text) id fun _ names => some names] none (require "tokens")

theorem read_listTokens (store : σ) :
    (listTokens store).body.map (decode listedNames) = some (.ok (TokenStore.nameList store)) := by
  have names : (Node.list ((TokenStore.nameList store).map textNode) true).Text
      (Json.list ((TokenStore.nameList store).map quote)) := text_list (forall₂_map fun name _ => text_quote name)
  have written := text_object (.cons (names.member "tokens") .nil)
  have read : listOf text (.list ((TokenStore.nameList store).map textNode) true) = .ok (TokenStore.nameList store) := by
    rw [listOf, mapM_map_ok (fun name _ => text_textNode name)]
    rfl
  show some (decode listedNames (Json.object [("tokens", Json.list ((TokenStore.nameList store).map quote))])) = _
  rw [written.decode listedNames]
  simp [listedNames, record, objectRecord, field, read, require]

theorem Turn.served_list (path : turn.request.target.path = "/api-token") (method : turn.request.method = "GET") :
    turn.served settings = ⟨some (listTokens turn.store), turn.store, turn.wire, none⟩ := by
  rw [served_of_method (by rw [method]; decide), routed_tokens path]
  unfold serveTokens
  rw [method]
  rfl

variable [SnapshotStore σ]

theorem Turn.AsksDeletion.status (asks : turn.AsksDeletion name) (there : (Text.trim name).isEmpty = false) :
    turn.status? settings = some 200 := by
  rw [Turn.status?, asks.served, Option.map_some, (deleteToken_spec _ name turn.store).1, there]
  rfl

theorem Turn.AsksDeletion.deletes (asks : turn.AsksDeletion name) (there : (Text.trim name).isEmpty = false)
    (settings : Settings) : state (turn.served settings).store = (state turn.store).deleteToken name := by
  rw [asks.served, (deleteToken_spec _ name turn.store).2, there]
  rfl

omit [SnapshotStore σ] in
theorem Named.unblank (named : Named settings turns name) : (Text.trim name).isEmpty = false := by
  rcases named with ⟨turn, -, user, token, rfl, -⟩ | ⟨there, trimmed⟩
  · have begins : '_' ∈ (sessionName user).toList := by simp [sessionName]
    exact Text.trim_of_mem begins (by decide)
  · rw [trimmed]
    simpa using there

/-- Only the registration under the name goes. Where no name is blank, that holds of a blank one too. -/
theorem Turn.AsksDeletion.withdraws {held : Registrations} (asks : turn.AsksDeletion name) (settings : Settings)
    (represents : (state turn.store).index.Represents held)
    (unblank : ∀ entry ∈ held, (Text.trim entry.name).isEmpty = false) :
    (state (turn.served settings).store).index.Represents (held.withdraw name) ∧
      (state (turn.served settings).store).users = (state turn.store).users := by
  cases blank : (Text.trim name).isEmpty with
  | true =>
    have whole : held.withdraw name = held := by
      ext entry
      rw [Registrations.mem_withdraw]
      refine ⟨And.left, fun member => ⟨member, ?_⟩⟩
      rintro rfl
      rw [unblank entry member] at blank
      cases blank
    rw [asks.served, (deleteToken_spec _ name turn.store).2, blank, whole]
    exact ⟨represents, rfl⟩
  | false =>
    rw [asks.deletes blank]
    exact ⟨represents.remove name, rfl⟩

theorem Turn.AsksDeletion.repeated (asks : first.AsksDeletion name) (asks' : again.AsksDeletion name)
    (same : state again.store = state (first.served settings).store) :
    (again.served settings).reply = (first.served settings).reply ∧
      state (again.served settings).store = state (first.served settings).store := by
  obtain ⟨told, left⟩ := deleteToken_spec _ name first.store
  obtain ⟨told', left'⟩ := deleteToken_spec _ name again.store
  rw [asks.served] at same ⊢
  rw [asks'.served]
  refine ⟨congrArg some (told'.trans told.symm), ?_⟩
  rw [left', same, left]
  split
  · rfl
  · show Snapshot.deleteToken (Snapshot.deleteToken (state first.store) name) name = _
    rw [Snapshot.deleteToken, Snapshot.deleteToken, TokenIndex.remove_remove]

theorem History.unblank {held : Registrations} (empty : state start = .empty)
    (history : History settings start turns store) (represents : (state store).index.Represents held) :
    ∀ entry ∈ held, (Text.trim entry.name).isEmpty = false := by
  intro entry member
  have listed : entry.name ∈ TokenStore.nameList store := (mem_nameList_iff represents).mpr ⟨entry, member, rfl⟩
  exact (history.named empty _ listed).unblank

theorem History.withdraws {held : Registrations} (represents : (state start).index.Represents held)
    (unblank : ∀ entry ∈ held, (Text.trim entry.name).isEmpty = false) (history : History settings start turns store)
    (asks : ∀ turn ∈ turns, ∃ name, turn.AsksDeletion name) :
    ∃ left : Registrations, (state store).index.Represents left ∧
      (∀ entry, entry ∈ left ↔ entry ∈ held ∧ ∀ turn ∈ turns, ¬turn.AsksDeletion entry.name) ∧
      (state store).users = (state start).users := by
  induction history with
  | start => exact ⟨held, represents, by simp, rfl⟩
  | idle history same ih =>
    rw [same]
    exact ih asks
  | serve turn history ih =>
    have ⟨earlier, last⟩ := List.forall_mem_append.mp asks
    obtain ⟨name, asked⟩ := last turn (List.mem_singleton_self turn)
    obtain ⟨left, represented, kept, users⟩ := ih earlier
    obtain ⟨after, unchanged⟩ := asked.withdraws settings represented
      fun entry member => unblank entry ((kept entry).mp member).1
    refine ⟨left.withdraw name, after, fun entry => ?_, unchanged.trans users⟩
    have spared : entry.name ≠ name ↔ ¬turn.AsksDeletion entry.name := by
      rw [not_iff_not]
      exact ⟨fun same => same ▸ asked, fun asked' => asked'.unique asked⟩
    rw [Registrations.mem_withdraw, kept, List.forall_mem_append, List.forall_mem_singleton, spared, and_assoc]

theorem History.stays_empty (empty : (state start).index = .empty) (history : History settings start turns store)
    (ungranted : ∀ turn ∈ turns, ∀ entry kind, ¬turn.Grants settings entry kind) : (state store).index = .empty := by
  induction history with
  | start => exact empty
  | idle history same ih =>
    rw [same]
    exact ih ungranted
  | serve turn history ih =>
    have ⟨earlier, last⟩ := List.forall_mem_append.mp ungranted
    rcases turn.effect settings with same | ⟨entry, kind, granted⟩ | ⟨name, deletes⟩
    · rw [same, ih earlier]
    · exact absurd granted (last turn (List.mem_singleton_self turn) entry kind)
    · rw [deletes.removes, ih earlier]
      rfl

theorem denied_of_empty (empty : (state store).index = .empty) (now : Instant) (headers : Headers) (wire : Wire) :
    ∃ denial, authorize settings now headers store wire = (.error (.error denial), store, wire) := by
  rcases recognized_or_refused settings now headers (state store) with ⟨identity, credential, recognized⟩ |
    ⟨denial, refused⟩
  · cases recognized with
    | user claimed current registered stored =>
      rw [empty] at registered
      cases registered
  · exact ⟨denial, refused.authorize⟩

/-- The name goes from the list, and its token resolves no longer. Other names and tokens and all users stay. -/
structure Turn.Revokes (settings : Settings) (turn : Turn σ) (name : String) : Prop where
  status : turn.status? settings = some 200
  users : (state (turn.served settings).store).users = (state turn.store).users
  names : ∀ other, other ∈ TokenStore.nameList (turn.served settings).store ↔
    other ∈ TokenStore.nameList turn.store ∧ other ≠ name
  tokens : ∃ token user, (state turn.store).index.Holds ⟨name, token, user⟩ ∧
    TokenStore.userOf (turn.served settings).store token = .error .tokenNotFound ∧
    ∀ other, other ≠ token →
      TokenStore.userOf (turn.served settings).store other = TokenStore.userOf turn.store other

theorem Turn.AsksDeletion.revokes {held : Registrations} (asks : turn.AsksDeletion name)
    (represents : (state turn.store).index.Represents held)
    (unblank : ∀ entry ∈ held, (Text.trim entry.name).isEmpty = false)
    (listed : name ∈ TokenStore.nameList turn.store) : turn.Revokes settings name := by
  obtain ⟨entry, member, rfl⟩ := (mem_nameList_iff represents).mp listed
  have there := unblank entry member
  have holds := (represents.holds_iff entry).mpr member
  have left := asks.deletes there settings
  constructor
  · exact asks.status there
  · rw [left]
    rfl
  · intro other
    simp only [SnapshotStore.nameList, TokenIndex.nameList, Dict.mem_keys_iff, left, Snapshot.deleteToken,
      TokenIndex.names_remove]
    by_cases same : other = entry.name <;> simp [same]
  · refine ⟨entry.token, entry.user, holds, ?_, fun other different => ?_⟩
    · rw [SnapshotStore.userOf, left, Snapshot.userOf, Snapshot.deleteToken, TokenIndex.userOf?,
        TokenIndex.tokens_remove, if_pos holds.1]
    · have kept : (state turn.store).index.names.find? entry.name ≠ some other := by
        rw [holds.1]
        exact fun same => different (Option.some.inj same).symm
      rw [SnapshotStore.userOf, SnapshotStore.userOf, left, Snapshot.userOf, Snapshot.userOf, Snapshot.deleteToken,
        TokenIndex.userOf?, TokenIndex.userOf?, TokenIndex.tokens_remove, if_neg kept]

structure Revocable (settings : Settings) (store : σ) : Prop where
  listed : ∀ turn : Turn σ, turn.store = store → turn.request.target.path = "/api-token" →
    turn.request.method = "GET" → turn.status? settings = some 200 ∧
      ((turn.served settings).reply.bind (·.body)).map (decode listedNames) = some (.ok (TokenStore.nameList store))
  complete : ∀ (turns : List (Turn σ)) (final : σ), History settings store turns final →
    (∀ turn ∈ turns, ∃ name, turn.AsksDeletion name) →
    (∀ name ∈ TokenStore.nameList store, ∃ turn ∈ turns, turn.AsksDeletion name) →
    state final = ⟨.empty, (state store).users⟩ ∧
    ∀ (later : List (Turn σ)) (last : σ), History settings final later last →
      (∀ turn ∈ later, ∀ entry kind, ¬turn.Grants settings entry kind) →
      ∀ now headers wire, ∃ denial, authorize settings now headers last wire = (.error (.error denial), last, wire)
  single : ∀ (turn : Turn σ) (name : String), turn.store = store → turn.AsksDeletion name →
    name ∈ TokenStore.nameList store → turn.Revokes settings name
  repeated : ∀ (first again : Turn σ) (name : String), first.store = store → first.AsksDeletion name →
    again.AsksDeletion name → state again.store = state (first.served settings).store →
    (again.served settings).reply = (first.served settings).reply ∧
      state (again.served settings).store = state (first.served settings).store
  unread : ∀ turn : Turn σ, turn.store = store → turn.request.target.path = "/api-token" →
    turn.request.method = "DELETE" → turn.request.target.params.get? "name" = none →
    bodyLimit < turn.request.body.length → turn.status? settings = some 400 ∧ (turn.served settings).store = store

/-- In every state that a gateway comes to from an empty store, the list of names is all that it takes to revoke its
tokens, together or one by one. -/
theorem tokens_revocable (empty : state start = .empty) (history : History settings start turns store) :
    Revocable settings store := by
  obtain ⟨held, represents⟩ := (history.accounted empty).sound
  have unblank := history.unblank empty represents
  constructor
  · rintro turn rfl path method
    rw [Turn.status?, Turn.served_list path method]
    exact ⟨rfl, read_listTokens turn.store⟩
  · intro deletions final deleted asks every
    obtain ⟨left, represented, kept, users⟩ := deleted.withdraws represents unblank asks
    have none : left = ∅ := by
      rw [Finset.eq_empty_iff_forall_notMem]
      intro entry member
      obtain ⟨before, spared⟩ := (kept entry).mp member
      have listed : entry.name ∈ TokenStore.nameList store := (mem_nameList_iff represents).mpr ⟨entry, before, rfl⟩
      obtain ⟨turn, among, asked⟩ := every entry.name listed
      exact spared turn among asked
    rw [none] at represented
    have bare : state final = ⟨.empty, (state store).users⟩ := by
      rw [← represented.eq_empty, ← users]
    refine ⟨bare, fun later last continued ungranted now headers wire => ?_⟩
    exact denied_of_empty (continued.stays_empty represented.eq_empty ungranted) now headers wire
  · rintro turn name rfl asks listed
    exact asks.revokes represents unblank listed
  · rintro first again name - asks asks' same
    exact asks.repeated asks' same
  · rintro turn rfl path method unnamed unbearable
    rw [Turn.status?, turn.served_unread path method unnamed unbearable]
    exact ⟨rfl, rfl⟩

end

namespace Visit

def deletionByQuery {σ : Type} (name : String) (store : σ) : Turn σ where
  moment := ⟨⟨1000, 0⟩, []⟩
  request := ⟨"DELETE", ⟨"/api-token", some (Form.encode [("name", name)])⟩, [], []⟩
  store := store
  wire := providerOf alice

def deletionByForm {σ : Type} (name : String) (store : σ) : Turn σ where
  moment := ⟨⟨1000, 0⟩, []⟩
  request := ⟨"DELETE", ⟨"/api-token", none⟩, [("content-type", Text.encode formType)],
    Text.encode (Form.encode [("name", name)])⟩
  store := store
  wire := providerOf alice

section

variable {σ : Type} [TokenStore σ] [SnapshotStore σ] {turns : List (Turn σ)} {start store : σ}

theorem deletedByQuery (name : String) (history : History settings start turns store) :
    History settings start (turns ++ [deletionByQuery name store])
      ((deletionByQuery name store).served settings).store := .serve (deletionByQuery name store) history

theorem deletedByForm (name : String) (history : History settings start turns store) :
    History settings start (turns ++ [deletionByForm name store])
      ((deletionByForm name store).served settings).store := .serve (deletionByForm name store) history

end

section

variable {σ : Type} (name : String) (store : σ)

theorem deletionByQuery_asks (short : (deletionByQuery name store).request.target.length ≤ targetLimit) :
    (deletionByQuery name store).AsksDeletion name := ⟨rfl, rfl, short, .query rfl rfl⟩

theorem form_typed : (Headers.first? [("content-type", Text.encode formType)] "content-type").bind readable? =
    some formType := by decide +kernel

theorem deletionByForm_body :
    (deletionByForm name store).request.body = Text.encode (Form.encode [("name", name)]) := rfl

theorem deletionByForm_asks
    (bearable : (deletionByForm name store).request.body.length ≤ bodyLimit) :
    (deletionByForm name store).AsksDeletion name := by
  have short : Target.length ⟨"/api-token", none⟩ ≤ targetLimit := by decide +kernel
  exact ⟨rfl, rfl, short, .body rfl form_typed (by decide +kernel) rfl bearable⟩

theorem deletionByForm_unread [TokenStore σ]
    (unbearable : bodyLimit < (deletionByForm name store).request.body.length) :
    (deletionByForm name store).served settings =
      ⟨some (missingName "delete"), store, (deletionByForm name store).wire, none⟩ :=
  Turn.served_unread rfl rfl rfl unbearable settings

end

theorem stocked_names {name listed : String} (member : listed ∈ TokenStore.nameList (stocked name)) :
    listed = name ∨ listed = "_session_alice" := by
  rw [SnapshotStore.nameList, TokenIndex.nameList, Dict.mem_keys_iff] at member
  by_contra other
  obtain ⟨unlike, elsewhere⟩ := not_or.mp other
  have opened : (state opened).index.names.find? listed = none :=
    (TokenIndex.names_insert _ _ _ _ _).trans (if_neg elsewhere)
  have absent : (state (stocked name)).index.names.find? listed = none :=
    (TokenIndex.names_insert _ _ _ _ _).trans ((if_neg unlike).trans (congrArg (Option.filter (· != apiToken)) opened))
  rw [absent] at member
  cases member

end Visit

open Visit in
theorem tokens_revocable_laptop :
    let first := deletionByForm "laptop" (stocked "laptop")
    let second := deletionByQuery "_session_alice" (first.served settings).store
    History settings MemoryStore.empty [loginOf alice 7 MemoryStore.empty, creationOf "laptop"] (stocked "laptop") ∧
      History settings (stocked "laptop") [first, second] (second.served settings).store ∧
      first.AsksDeletion "laptop" ∧ second.AsksDeletion "_session_alice" ∧ first.Revokes settings "laptop" ∧
      state (second.served settings).store = ⟨.empty, (state (stocked "laptop")).users⟩ := by
  intro first second
  have askable : Askable "laptop" := ⟨by decide +kernel, by decide +kernel, by decide, by decide⟩
  have history := stocking askable
  have revocable : Revocable settings (stocked "laptop") := tokens_revocable rfl history
  have deleted : History settings (stocked "laptop") [first, second] (second.served settings).store :=
    deletedByQuery "_session_alice" (deletedByForm "laptop" .start)
  have asked : first.AsksDeletion "laptop" := deletionByForm_asks _ _ (by decide +kernel)
  have asked' : second.AsksDeletion "_session_alice" := deletionByQuery_asks _ _ (by decide +kernel)
  have holds : (state (stocked "laptop")).index.Holds ⟨"laptop", apiToken, "alice"⟩ :=
    TokenIndex.holds_insert opened.state.index ⟨"laptop", apiToken, "alice"⟩
  have listed : "laptop" ∈ TokenStore.nameList (stocked "laptop") := listed_of_holds holds
  refine ⟨history, deleted, asked, asked', revocable.single first "laptop" rfl asked listed, ?_⟩
  refine (revocable.complete [first, second] _ deleted ?_ ?_).1
  · intro turn member
    simp only [List.mem_cons, List.not_mem_nil, or_false] at member
    rcases member with rfl | rfl
    · exact ⟨_, asked⟩
    · exact ⟨_, asked'⟩
  · intro name member
    rcases stocked_names member with rfl | rfl
    · exact ⟨first, List.mem_cons_self, asked⟩
    · exact ⟨second, List.mem_cons_of_mem _ List.mem_cons_self, asked'⟩

namespace Visit

def slashes (n : Nat) : String := String.ofList (List.replicate n '/')

theorem slashes_long (n : Nat) (store : σ) :
    3 * n < (deletionByForm (sessionName (slashes n)) store).request.body.length := by
  have escaped : (Form.encodeChar '/').length = 3 := by decide
  have chars : (slashes n).toList = List.replicate n '/' := String.toList_ofList
  have name : (Form.encodeText (sessionName (slashes n))).length =
      (Form.encodeText "_session_").length + n * 3 := by
    rw [Form.encodeText, sessionName, String.toList_append, List.flatMap_append, List.length_append, chars,
      List.length_flatMap (l := List.replicate n '/'), List.map_replicate, List.sum_replicate_nat, escaped,
      Form.encodeText]
  rw [deletionByForm_body, Form.encode_octets, List.length_map, List.map_cons, List.map_nil,
    List.intercalate_singleton, Form.formPair, List.length_append, List.length_cons, name]
  omega

def longLogin (n : Nat) : Turn MemoryStore := loginOf (payloadOf (slashes n) "a@b") 7 MemoryStore.empty

theorem longLogin_holds {n : Nat} (there : 0 < n) :
    (state ((longLogin n).served settings).store).index.Holds
      ⟨sessionName (slashes n), tokenOf (slashes n) "a@b" 7, slashes n⟩ := by
  have named : slashes n ≠ "" := by
    intro blank
    have nothing := congrArg String.toList blank
    rw [slashes, String.toList_ofList] at nothing
    have none := (List.replicate_eq_nil_iff '/').mp nothing
    omega
  obtain ⟨next, after, served, left⟩ :=
    loginOf_served (payloadOf (slashes n) "a@b") (traded _) (identified named "a@b") (free_empty _)
  have reached : ((longLogin n).served settings).store = next := congrArg Served.store served
  rw [reached, left]
  exact TokenIndex.holds_insert .empty ⟨sessionName (slashes n), tokenOf (slashes n) "a@b" 7, slashes n⟩

theorem undeleted_of_holds {n : Nat} (long : bodyLimit < 3 * n) {store : MemoryStore} {token user : String}
    (holds : (state store).index.Holds ⟨sessionName (slashes n), token, user⟩) :
    let name := sessionName (slashes n)
    let deletion := deletionByForm name store
    deletion.request.target.path = "/api-token" ∧ deletion.request.method = "DELETE" ∧
      deletion.request.body = Text.encode (Form.encode [("name", name)]) ∧
      name ∈ TokenStore.nameList deletion.store ∧ deletion.status? settings = some 400 ∧
      name ∈ TokenStore.nameList (deletion.served settings).store ∧
      TokenStore.userOf (deletion.served settings).store token = .ok user := by
  have unread := deletionByForm_unread (sessionName (slashes n)) store (long.trans (slashes_long n store))
  intro name deletion
  have refused : deletion.status? settings = some 400 := by
    rw [Turn.status?, unread]
    rfl
  rw [unread]
  exact ⟨rfl, rfl, deletionByForm_body _ _, listed_of_holds holds, refused, listed_of_holds holds,
    resolves_of_holds holds⟩

theorem longLogin_undeleted {n : Nat} (long : bodyLimit < 3 * n) :
    History settings MemoryStore.empty [longLogin n] ((longLogin n).served settings).store ∧
      let name := sessionName (slashes n)
      let deletion := deletionByForm name ((longLogin n).served settings).store
      deletion.request.target.path = "/api-token" ∧ deletion.request.method = "DELETE" ∧
        deletion.request.body = Text.encode (Form.encode [("name", name)]) ∧
        name ∈ TokenStore.nameList deletion.store ∧ deletion.status? settings = some 400 ∧
        name ∈ TokenStore.nameList (deletion.served settings).store ∧
        TokenStore.userOf (deletion.served settings).store (tokenOf (slashes n) "a@b" 7) = .ok (slashes n) :=
  ⟨.serve (longLogin n) .start, undeleted_of_holds long (longLogin_holds (by omega))⟩

end Visit

open Visit in
/-- A user's name has 700,002 slashes, each of which takes three octets in a form. -/
theorem name_undeleted_overlong :
    History settings MemoryStore.empty [longLogin 700002] ((longLogin 700002).served settings).store ∧
      let name := sessionName (slashes 700002)
      let deletion := deletionByForm name ((longLogin 700002).served settings).store
      deletion.request.target.path = "/api-token" ∧ deletion.request.method = "DELETE" ∧
        deletion.request.body = Text.encode (Form.encode [("name", name)]) ∧
        name ∈ TokenStore.nameList deletion.store ∧ deletion.status? settings = some 400 ∧
        name ∈ TokenStore.nameList (deletion.served settings).store ∧
        TokenStore.userOf (deletion.served settings).store (tokenOf (slashes 700002) "a@b" 7) =
          .ok (slashes 700002) :=
  longLogin_undeleted (by decide)

end Gateway

end LoginGateway
