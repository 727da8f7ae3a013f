import LoginGateway.Proofs.Backend.SecretExchange

namespace LoginGateway.ClusterSecret

open Http

abbrev Holdings := String → String → Option (Dict String)

def Holdings.set (held : Holdings) (space name : String) (data : Dict String) : Holdings :=
  fun otherSpace otherName => if otherSpace = space ∧ otherName = name then some data else held otherSpace otherName

inductive Call where
  | read (space name : String)
  | replace (space name : String) (data : Dict String)
  | create (space name : String) (data : Dict String)

def Allowed (bearer : String) (request : Request) : Prop :=
  request.headers.first? "authorization" = some (received (Text.encode ("Bearer " ++ bearer)))

def Describes (request : Request) (space name : String) (data : Dict String) : Prop :=
  request.headers.first? "content-type" = some (Text.encode "application/json") ∧
    described? request.body = some (space, name, data)

inductive Asks (server : String) (request : Request) : Call → Prop
  | read {space name : String} (method : request.method = "GET") (legal : LegalName space ∧ LegalName name)
      (address : Url.parse? (addressOf server space name) = some request.url) : Asks server request (.read space name)
  | replace {space name : String} {data : Dict String} (method : request.method = "PUT")
      (legal : LegalName space ∧ LegalName name)
      (address : Url.parse? (addressOf server space name) = some request.url)
      (describes : Describes request space name data) : Asks server request (.replace space name data)
  | create {space name : String} {data : Dict String} (method : request.method = "POST")
      (legal : LegalName space ∧ LegalName name) (address : Url.parse? (collectionOf server space) = some request.url)
      (describes : Describes request space name data) : Asks server request (.create space name data)

def Call.Answered (held : Holdings) (reaction : Reaction) : Call → Prop
  | .read space name => ∃ response, reaction = .answered response ∧
    match held space name with
    | none => response.status = 404
    | some data => isSuccess response.status = true ∧ (data ≠ .empty → response.body.bind shownData? = some data)
  | .replace space name _ => ∃ response, reaction = .answered response ∧
    if (held space name).isSome then isSuccess response.status = true else response.status = 404
  | .create space name _ => ∃ response, reaction = .answered response ∧
    if (held space name).isSome then response.status = 409 else isSuccess response.status = true

def Call.effect (held : Holdings) : Call → Holdings
  | .read _ _ => held
  | .replace space name data => if (held space name).isSome then held.set space name data else held
  | .create space name data => if (held space name).isSome then held else held.set space name data

/-- The server answers by what it holds after all requests so far, and holds what it was asked to. -/
structure Faithful (server bearer : String) (react : List Request → Reaction) (held : List Request → Holdings) :
    Prop where
  answers : ∀ {request call} before, Allowed bearer request → Asks server request call →
    call.Answered (held before) (react (request :: before))
  keeps : ∀ {request call} before, Allowed bearer request → Asks server request call →
    held (request :: before) = call.effect (held before)

section Faithful

variable {secret : ClusterSecret} {own collection : Url} {held : List Request → Holdings}

theorem allowed_asked (secret : ClusterSecret) (method : String) (url : Url) (body : Option Octets) :
    Allowed secret.bearer (secret.asked method url body) := rfl

theorem Addressable.asks_read (addressable : Addressable secret) (leads : LeadsTo secret.url own) :
    Asks secret.server (secret.asked "GET" own none) (.read secret.space secret.name) :=
  .read rfl ⟨addressable.space, addressable.name⟩ (by rw [← url_eq]; exact leads.1)

theorem Addressable.asks_replace (addressable : Addressable secret) (leads : LeadsTo secret.url own) (data : Octets) :
    Asks secret.server (secret.asked "PUT" own (some (secret.body data)))
      (.replace secret.space secret.name (dataOf data)) :=
  .replace rfl ⟨addressable.space, addressable.name⟩ (by rw [← url_eq]; exact leads.1)
    ⟨rfl, secret.described?_body data⟩

theorem Addressable.asks_create (addressable : Addressable secret) (leads : LeadsTo secret.collectionUrl collection)
    (data : Octets) :
    Asks secret.server (secret.asked "POST" collection (some (secret.body data)))
      (.create secret.space secret.name (dataOf data)) :=
  .create rfl ⟨addressable.space, addressable.name⟩ (by rw [← collectionUrl_eq]; exact leads.1)
    ⟨rfl, secret.described?_body data⟩

theorem Faithful.save (faithful : Faithful secret.server secret.bearer secret.wire.react held)
    (addressable : Addressable secret) (leads : LeadsTo secret.url own)
    (leadsToAll : LeadsTo secret.collectionUrl collection) (data : Octets) :
    ∃ sent, Backend.save secret data = (.ok (), secret.having sent) ∧
      held sent = (held secret.wire.sent).set secret.space secret.name (dataOf data) := by
  have replaces := faithful.answers secret.wire.sent (allowed_asked ..) (addressable.asks_replace leads data)
  have replaced := faithful.keeps secret.wire.sent (allowed_asked ..) (addressable.asks_replace leads data)
  obtain ⟨response, answered, told⟩ := replaces
  rw [Call.effect] at replaced
  rw [addressable.save_eq leads leadsToAll, answered, succeeds]
  -- A PUT is done if the secret is there. If it is not, the PUT changes nothing, and so the POST finds none either.
  by_cases there : (held secret.wire.sent secret.space secret.name).isSome = true
  · rw [if_pos there] at told replaced
    rw [if_pos told]
    exact ⟨_, rfl, replaced⟩
  · rw [if_neg there] at told replaced
    have creates := faithful.answers (secret.asked "PUT" own (some (secret.body data)) :: secret.wire.sent)
      (allowed_asked ..) (addressable.asks_create leadsToAll data)
    have created := faithful.keeps (secret.asked "PUT" own (some (secret.body data)) :: secret.wire.sent)
      (allowed_asked ..) (addressable.asks_create leadsToAll data)
    obtain ⟨second, answered, done⟩ := creates
    rw [replaced, if_neg there] at done
    rw [Call.effect, replaced, if_neg there] at created
    have undone : ¬isSuccess response.status = true := fun success => ne_404_of_isSuccess success told
    rw [if_neg undone, answered, changed_answer, succeeds, if_pos done]
    exact ⟨_, rfl, created⟩

theorem Faithful.load (faithful : Faithful secret.server secret.bearer secret.wire.react held)
    (addressable : Addressable secret) (leads : LeadsTo secret.url own) {data : Octets}
    (stored : held secret.wire.sent secret.space secret.name = some (dataOf data)) :
    (Backend.load secret).1 = .ok (some data) ∧ held (Backend.load secret).2.wire.sent = held secret.wire.sent := by
  have answers := faithful.answers secret.wire.sent (allowed_asked ..) (addressable.asks_read leads)
  have kept := faithful.keeps secret.wire.sent (allowed_asked ..) (addressable.asks_read leads)
  obtain ⟨response, answered, told⟩ := answers
  rw [stored] at told
  obtain ⟨success, shows⟩ := told
  have nonempty : dataOf data ≠ .empty := by
    intro empty
    have found := find?_dataOf data
    rw [empty, Dict.find?_empty] at found
    cases found
  obtain ⟨body, complete, shown⟩ := Option.bind_eq_some_iff.mp (shows nonempty)
  rw [addressable.load_eq leads, answered]
  refine ⟨?_, kept⟩
  simp only [answer, loaded_shown success complete, blobOf_dataOf shown]
  rfl

end Faithful

def stores (initial : Holdings) : List Request → Holdings
  | [] => initial
  | request :: before =>
    match described? request.body with
    | some (space, name, data) =>
      if request.method = "PUT" then Call.effect (stores initial before) (.replace space name data)
      else if request.method = "POST" then Call.effect (stores initial before) (.create space name data)
      else stores initial before
    | none => stores initial before

def addressed? (url : Url) : Option (String × String) :=
  match ((Text.split (· == '/') url.path.toList).map String.ofList).reverse with
  | name :: _ :: space :: _ => some (space, name)
  | _ => none

def responds (initial : Holdings) : List Request → Reaction
  | [] => .dropped
  | request :: before =>
    .answered <|
      if request.method = "GET" then
        match (addressed? request.url).bind fun (space, name) => stores initial before space name with
        | some data => ⟨200, some (showing data)⟩
        | none => ⟨404, some []⟩
      else
        match described? request.body with
        | some (space, name, _) =>
          if request.method = "PUT" then ⟨if (stores initial before space name).isSome then 200 else 404, some []⟩
          else ⟨if (stores initial before space name).isSome then 409 else 201, some []⟩
        | none => ⟨400, some []⟩

theorem addressed?_eq {server : String} {origin url : Url} (leads : LeadsTo server origin)
    (plain : ∀ c ∈ server.toList, 0x20 < c.val ∧ c ≠ '?' ∧ c ≠ '#') {space name : String}
    (legal : LegalName space ∧ LegalName name) (address : Url.parse? (addressOf server space name) = some url) :
    addressed? url = some (space, name) := by
  obtain ⟨root, goesOn⟩ := Url.parse?_below leads.1 leads.2 plain
  have segments := address_segments legal
  rw [addressOf, goesOn _ (List.cons_ne_nil _ _) segments] at address
  cases address
  have single : ∀ segment ∈ ["api", "v1", "namespaces", space, "secrets", name], ∀ c ∈ segment.toList,
      (c == '/') = false :=
    fun segment member c among => beq_eq_false_iff_ne.mpr ((segments segment member).single c among).1
  have pieces : Text.split (· == '/') (root ++ Url.below ["api", "v1", "namespaces", space, "secrets", name]).toList =
      Text.split (· == '/') root.toList ++
        ["api", "v1", "namespaces", space, "secrets", name].map String.toList := by
    rw [String.toList_append, Url.below_toList, Text.split_append_cons (by rfl)]
    exact congrArg _ (Url.split_below rfl single)
  simp only [addressed?, pieces]
  simp

theorem faithful_responds {server : String} {origin : Url} (leads : LeadsTo server origin)
    (plain : ∀ c ∈ server.toList, 0x20 < c.val ∧ c ≠ '?' ∧ c ≠ '#') (bearer : String) (initial : Holdings) :
    Faithful server bearer (responds initial) (stores initial) where
  answers := by
    intro request call before _ asks
    cases asks with
    | @read space name method legal address =>
      refine ⟨_, rfl, ?_⟩
      rw [if_pos method, addressed?_eq leads plain legal address, Option.bind_some]
      dsimp only
      cases stores initial before space name with
      | none => rfl
      | some data => exact ⟨rfl, fun _ => shownData?_showing data⟩
    | @replace space name data method legal address describes =>
      have other : ¬request.method = "GET" := by simp [method]
      refine ⟨_, rfl, ?_⟩
      rw [if_neg other, describes.2]
      simp only [if_pos method]
      cases stores initial before space name <;> rfl
    | @create space name data method legal address describes =>
      have other : ¬request.method = "GET" ∧ ¬request.method = "PUT" := by simp [method]
      refine ⟨_, rfl, ?_⟩
      rw [if_neg other.1, describes.2]
      simp only [if_neg other.2]
      cases stores initial before space name <;> rfl
  keeps := by
    intro request call before _ asks
    cases asks with
    | read method =>
      have other : ¬request.method = "PUT" ∧ ¬request.method = "POST" := by simp [method]
      rw [stores]
      split
      · exact (if_neg other.1).trans (if_neg other.2)
      · rfl
    | replace method legal address describes =>
      rw [stores, describes.2]
      exact if_pos method
    | create method legal address describes =>
      have other : ¬request.method = "PUT" := by simp [method]
      rw [stores, describes.2]
      exact (if_neg other).trans (if_pos method)

def oneElsewhere : Holdings := fun space _ => if space = "vault" then some (dataOf [7]) else none

def ownSecret : ClusterSecret :=
  ⟨⟨responds oneElsewhere, []⟩, "http://localhost:8001", "t0", "gateway", defaultName⟩

theorem addressable_ownSecret : Addressable ownSecret where
  server := ⟨⟨"http", some (.name "localhost"), some 8001, "/", none⟩, by decide +kernel, .inl rfl⟩
  plain := by simp [ownSecret]
  bearer := by decide +kernel
  space := ⟨by simp [ownSecret], by simp [ownSecret]; decide, by simp [ownSecret], by simp [ownSecret]⟩
  name := ⟨by simp [ownSecret, defaultName], by simp [ownSecret, defaultName]; decide,
    by simp [ownSecret, defaultName], by simp [ownSecret, defaultName]⟩

/-- Whatever is answered, a load and a save ask for the secret as they should and tell what came of it; and with a
server that keeps its secrets, a save is done, what it saved is loaded after it, and all other secrets are what they
were. -/
theorem saves_and_loads {secret : ClusterSecret} (addressable : Addressable secret) (data : Octets) :
    ∃ get put post : Request,
      (get.method = "GET" ∧ Url.parse? secret.url = some get.url) ∧
      (put.method = "PUT" ∧ Url.parse? secret.url = some put.url) ∧
      (post.method = "POST" ∧ Url.parse? secret.collectionUrl = some post.url) ∧
      post.body = put.body ∧ described? put.body = some (secret.space, secret.name, dataOf data) ∧
      Loads secret get ∧ Saves secret data put post ∧
      ∀ held, Faithful secret.server secret.bearer secret.wire.react held →
        ∃ saved, Backend.save secret data = (.ok (), saved) ∧
          (Backend.load saved).1 = .ok (some data) ∧
          ∀ space name, (space, name) ≠ (secret.space, secret.name) →
            held saved.wire.sent space name = held secret.wire.sent space name ∧
            held (Backend.load saved).2.wire.sent space name = held secret.wire.sent space name := by
  obtain ⟨own, collection, leads, leadsToAll⟩ := addressable.located
  refine ⟨secret.asked "GET" own none, secret.asked "PUT" own (some (secret.body data)),
    secret.asked "POST" collection (some (secret.body data)), ⟨rfl, leads.1⟩, ⟨rfl, leads.1⟩, ⟨rfl, leadsToAll.1⟩, rfl,
    secret.described?_body data, addressable.loads leads, addressable.saves leads leadsToAll data, ?_⟩
  intro held faithful
  obtain ⟨sent, saved, holds⟩ := faithful.save addressable leads leadsToAll data
  have stored : held sent secret.space secret.name = some (dataOf data) := by
    rw [holds, Holdings.set, if_pos ⟨rfl, rfl⟩]
  have others : ∀ space name, (space, name) ≠ (secret.space, secret.name) →
      held sent space name = held secret.wire.sent space name := by
    intro space name other
    rw [holds, Holdings.set, if_neg (by simpa using other)]
  have later : Faithful (secret.having sent).server (secret.having sent).bearer (secret.having sent).wire.react held :=
    faithful
  obtain ⟨loaded, kept⟩ := later.load (addressable.having sent) leads stored
  refine ⟨secret.having sent, saved, loaded, fun space name other => ⟨others space name other, ?_⟩⟩
  rw [kept]
  exact others space name other

theorem saves_and_loads_ownSecret :
    ∃ saved, Backend.save ownSecret [0x80, 0x00] = (.ok (), saved) ∧
      (Backend.load saved).1 = .ok (some [0x80, 0x00]) ∧
      stores oneElsewhere saved.wire.sent "vault" defaultName = some (dataOf [7]) := by
  have addressable := addressable_ownSecret
  obtain ⟨origin, leads⟩ := addressable.server
  have faithful := faithful_responds leads addressable.plain ownSecret.bearer oneElsewhere
  obtain ⟨_, _, _, _, _, _, _, _, _, _, keeps⟩ := saves_and_loads addressable [0x80, 0x00]
  obtain ⟨saved, done, loaded, others⟩ := keeps _ faithful
  exact ⟨saved, done, loaded, (others "vault" defaultName (by simp [ownSecret])).1⟩

end LoginGateway.ClusterSecret
