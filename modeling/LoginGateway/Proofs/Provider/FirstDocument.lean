import LoginGateway.Proofs.Provider.Answers
import LoginGateway.Proofs.Text.Pieces
import LoginGateway.Provider.Discovery

namespace LoginGateway

open Http Json

namespace Http.Wire

def resent (wire : Wire) (request : Request) (times : Nat) : Wire :=
  { wire with sent := List.replicate times request ++ wire.sent }

theorem resent_succ (wire : Wire) (request : Request) (times : Nat) :
    (wire.resent request 1).resent request times = wire.resent request (times + 1) := by
  simp [resent, List.replicate_succ', List.append_assoc]

/-- These are the next reactions, if the same request is sent again and again. -/
def Plays (request : Request) : Wire → List Reaction → Prop
  | _, [] => True
  | wire, reaction :: rest => wire.react (request :: wire.sent) = reaction ∧ Plays request (wire.resent request 1) rest

end Http.Wire

/-- The text ends in any number of slashes, and the base is what stands before all of them. -/
def Slashed (base text : String) : Prop :=
  base.toList.getLast? ≠ some '/' ∧ ∃ count, text = base ++ String.ofList (List.replicate count '/')

theorem exists_slashed (text : String) : ∃ base, Slashed base text := by
  have slashes : ∀ c ∈ text.toList.rtakeWhile (· == '/'), c = '/' := fun c member => by
    simpa using List.mem_rtakeWhile_imp member
  refine ⟨String.ofList (text.toList.rdropWhile (· == '/')), fun last => ?_,
    (text.toList.rtakeWhile (· == '/')).length, ?_⟩
  · rw [String.toList_ofList] at last
    obtain ⟨nonempty, last⟩ := List.mem_getLast?_eq_getLast (Option.mem_def.mpr last)
    exact List.rdropWhile_last_not _ _ nonempty (beq_iff_eq.mpr last.symm)
  · rw [← List.eq_replicate_of_mem slashes, ← String.ofList_append, List.rdropWhile_append_rtakeWhile,
      String.ofList_toList]

namespace Discovery

variable {issuer base : String} {request : Request} {url : Url} {reaction : Reaction} {metadata : ProviderMetadata}
  {wire : Wire}

theorem location_of_slashed (slashed : Slashed base issuer) :
    location issuer = base ++ "/.well-known/openid-configuration" := by
  obtain ⟨last, count, rfl⟩ := slashed
  have dropped : ∀ c ∈ List.replicate count '/', (c == '/') = true := by simp
  have kept : ∀ c ∈ base.toList.getLast?, (c == '/') = false := by
    rintro c here
    rw [beq_eq_false_iff_ne]
    rintro rfl
    exact last here
  rw [location, String.toList_append, String.toList_ofList, Text.stripEnd_append dropped, Text.stripEnd_of_last kept,
    String.ofList_toList]

def Accepts (issuer : String) (reaction : Reaction) (metadata : ProviderMetadata) : Prop :=
  reaction.Bears ProviderMetadata.decoder metadata ∧ metadata.issuer = issuer

/-- What is passed over: no answer, one without success, one without a document, and one of another issuer. -/
inductive Skips (issuer : String) : Reaction → Prop where
  | dropped : Skips issuer .dropped
  | refused {response : Response} (undone : ¬(200 ≤ response.status ∧ response.status < 300)) :
      Skips issuer (.answered response)
  | bare {reaction : Reaction} (bare : reaction.Bare ProviderMetadata.decoder) : Skips issuer reaction
  | foreign {reaction : Reaction} {metadata : ProviderMetadata}
      (bears : reaction.Bears ProviderMetadata.decoder metadata) (other : metadata.issuer ≠ issuer) :
      Skips issuer reaction

theorem skips_or_accepts (issuer : String) (reaction : Reaction) :
    Skips issuer reaction ∨ ∃ metadata, Accepts issuer reaction metadata := by
  have told := Reaction.told_read .discoveryDocument ProviderMetadata.decoder reaction
  generalize reaction.read .discoveryDocument ProviderMetadata.decoder = outcome at told
  cases told with
  | dropped => exact .inl .dropped
  | refused undone => exact .inl (.refused undone)
  | bare bare => exact .inl (.bare bare)
  | @borne _ metadata bears =>
    by_cases same : metadata.issuer = issuer
    · exact .inr ⟨metadata, bears, same⟩
    · exact .inl (.foreign bears same)

theorem Skips.not_accepts (skips : Skips issuer reaction) : ¬Accepts issuer reaction metadata := by
  rintro ⟨bears, same⟩
  cases skips with
  | dropped =>
    obtain ⟨_, _, answered, -⟩ := bears
    cases answered
  | refused undone =>
    obtain ⟨_, _, ⟨⟩, done, -⟩ := bears
    exact undone done
  | bare bare => exact bears.not_bare bare
  | foreign bears' other =>
    cases bears.unique bears'
    exact other same

theorem exists_first_accepted {reactions : List Reaction}
    (there : ∃ reaction ∈ reactions, ∃ metadata, Accepts issuer reaction metadata) :
    ∃ before accepted after metadata, reactions = before ++ accepted :: after ∧
      (∀ reaction ∈ before, Skips issuer reaction) ∧ Accepts issuer accepted metadata := by
  induction reactions with
  | nil =>
    obtain ⟨_, member, -⟩ := there
    cases member
  | cons first rest ih =>
    rcases skips_or_accepts issuer first with skips | ⟨metadata, accepts⟩
    · obtain ⟨reaction, member, metadata, accepts⟩ := there
      have later := (List.mem_cons.mp member).resolve_left fun same => skips.not_accepts (same ▸ accepts)
      obtain ⟨before, accepted, after, metadata, rfl, skip, accepts⟩ := ih ⟨reaction, later, metadata, accepts⟩
      exact ⟨first :: before, accepted, after, metadata, rfl, List.forall_mem_cons.mpr ⟨skips, skip⟩, accepts⟩
    · exact ⟨[], first, rest, metadata, rfl, List.forall_mem_nil _, accepts⟩

theorem request?_of_reachable (reachable : reachable? (location issuer) = some url) :
    ∃ request, request? issuer = some request ∧
      request.received.method = "GET" ∧ request.received.url = url ∧ request.received.body = [] := by
  unfold request?
  rw [reachable]
  exact ⟨_, rfl, rfl, rfl, rfl⟩

theorem discover_unreachable (unreachable : reachable? (location issuer) = none) (wire : Wire) :
    discover issuer wire = (.error .unreachable, wire) := by
  have unasked : request? issuer = none := by rw [request?, unreachable, Option.map_none]
  unfold discover
  rw [unasked, fetch]

theorem discover_send (asked : request? issuer = some request) (wire : Wire) :
    discover issuer wire =
      ((wire.send request).1.read .discoveryDocument ProviderMetadata.decoder >>= fun metadata =>
          if metadata.issuer = issuer then .ok metadata else .error (.issuerMismatch issuer metadata.issuer),
        wire.resent request.received 1) := by
  unfold discover
  rw [asked, fetch_send]
  cases (wire.send request).1.read .discoveryDocument ProviderMetadata.decoder with
  | error error => rfl
  | ok metadata =>
    rw [ok_bind]
    dsimp only
    split <;> rfl

theorem discover_ok_iff (asked : request? issuer = some request) :
    (discover issuer wire).1 = .ok metadata ↔ Accepts issuer (wire.send request).1 metadata := by
  rw [discover_send asked, Accepts, ← Reaction.read_ok_iff]
  constructor
  · intro found
    obtain ⟨document, read, checked⟩ := of_bind_ok found
    split at checked
    · rename_i same
      cases checked
      exact ⟨read, same⟩
    · cases checked
  · rintro ⟨read, same⟩
    rw [read, ok_bind, if_pos same]

-- Otherwise the check unfolds the whole way from the URL to the decoded document.
attribute [local irreducible] discover in
theorem discoverWithin_succ (issuer : String) (tries : Nat) (wire : Wire) :
    discoverWithin issuer (tries + 1) wire =
      match discover issuer wire with
      | (.ok metadata, wire) => (some metadata, wire)
      | (.error _, wire) => discoverWithin issuer tries wire := rfl

theorem discoverWithin_accepts (asked : request? issuer = some request)
    (accepts : Accepts issuer (wire.send request).1 metadata) (tries : Nat) :
    discoverWithin issuer (tries + 1) wire = (some metadata, wire.resent request.received 1) := by
  have found : discover issuer wire = (.ok metadata, wire.resent request.received 1) :=
    Prod.ext ((discover_ok_iff asked).mpr accepts) (by rw [discover_send asked])
  rw [discoverWithin_succ, found]

theorem discoverWithin_skips (asked : request? issuer = some request) (skips : Skips issuer (wire.send request).1)
    (tries : Nat) :
    discoverWithin issuer (tries + 1) wire = discoverWithin issuer tries (wire.resent request.received 1) := by
  have sent : (discover issuer wire).2 = wire.resent request.received 1 := by rw [discover_send asked]
  rw [discoverWithin_succ]
  split
  · rename_i metadata after found
    exact absurd ((discover_ok_iff asked).mp (congrArg Prod.fst found)) skips.not_accepts
  · rename_i error after failed
    rw [← sent, failed]

/-- Either the tries go as far as the document, or each of them has sent its request and there is none. -/
theorem discoverWithin_first (asked : request? issuer = some request) {before after : List Reaction}
    (skip : ∀ reaction ∈ before, Skips issuer reaction) (accepts : Accepts issuer reaction metadata) {wire : Wire}
    (plays : wire.Plays request.received (before ++ reaction :: after)) (tries : Nat) :
    discoverWithin issuer tries wire =
      if before.length < tries then (some metadata, wire.resent request.received (before.length + 1))
      else (none, wire.resent request.received tries) := by
  -- Every reaction that is passed over takes one try, and leaves a wire that plays the rest.
  induction before generalizing wire tries with
  | nil =>
    obtain ⟨rfl, -⟩ := plays
    cases tries with
    | zero => rfl
    | succ tries => exact discoverWithin_accepts asked accepts tries
  | cons first rest ih =>
    obtain ⟨rfl, plays⟩ := plays
    obtain ⟨skips, skip⟩ := List.forall_mem_cons.mp skip
    cases tries with
    | zero => rfl
    | succ tries =>
      rw [discoverWithin_skips asked skips, ih skip plays, Http.Wire.resent_succ, Http.Wire.resent_succ,
        List.length_cons]
      simp only [Nat.add_lt_add_iff_right]

/-- A try asks for the document at its place under the issuer's URL without the slashes at its end, and succeeds just
with a document that names the issuer as it is configured. Of many tries the first with such a document counts: the
reactions before it are passed over, and one request, always the same, is sent for each reaction up to it. Nothing is
sent where the URL cannot be reached. -/
theorem first_document_found (issuer : String) :
    (∃ base, Slashed base issuer) ∧ ∀ base, Slashed base issuer →
      (∀ url, reachable? (base ++ "/.well-known/openid-configuration") = some url → ∃ request : Request,
        (request.method = "GET" ∧ request.url = url ∧ request.body = []) ∧ ∀ wire : Wire,
          (discover issuer wire).2 = wire.resent request 1 ∧
          (∀ metadata, (discover issuer wire).1 = .ok metadata ↔
            Accepts issuer (wire.react (request :: wire.sent)) metadata) ∧
          ∀ reactions, wire.Plays request reactions →
            (∃ reaction ∈ reactions, ∃ metadata, Accepts issuer reaction metadata) →
            ∃ before reaction after metadata, reactions = before ++ reaction :: after ∧
              (∀ skipped ∈ before, Skips issuer skipped) ∧ Accepts issuer reaction metadata ∧
              ∀ tries, discoverWithin issuer tries wire =
                if before.length < tries then (some metadata, wire.resent request (before.length + 1))
                else (none, wire.resent request tries)) ∧
      (reachable? (base ++ "/.well-known/openid-configuration") = none →
        ∀ wire, discover issuer wire = (.error .unreachable, wire)) := by
  refine ⟨exists_slashed issuer, fun base slashed => ?_⟩
  have place := congrArg reachable? (location_of_slashed slashed)
  refine ⟨fun url reachable => ?_, fun unreachable => discover_unreachable (place.trans unreachable)⟩
  obtain ⟨request, asked, posed⟩ := request?_of_reachable (place.trans reachable)
  refine ⟨request.received, posed, fun wire => ⟨by rw [discover_send asked], fun metadata => discover_ok_iff asked,
    fun reactions plays accepted => ?_⟩⟩
  obtain ⟨before, reaction, after, metadata, rfl, skip, accepts⟩ := exists_first_accepted accepted
  exact ⟨before, reaction, after, metadata, rfl, skip, accepts, discoverWithin_first asked skip accepts plays⟩

theorem first_document_found_slashes :
    let issuer := "http://idp//"
    let document := fun issuer : String => Json.object [("issuer", Json.quote issuer),
      ("authorization_endpoint", Json.quote "http://idp/auth"), ("token_endpoint", Json.quote "http://idp/token")]
    let reactions : List Reaction := [.dropped, .answered ⟨503, none⟩, .answered ⟨200, none⟩,
      .answered ⟨200, some (document "http://idp")⟩, .answered ⟨200, some (document issuer)⟩]
    let wire : Wire := ⟨fun sent => reactions.getD (sent.length - 1) .dropped, []⟩
    Slashed "http://idp" issuer ∧ ∃ url request metadata,
      reachable? "http://idp/.well-known/openid-configuration" = some url ∧ request.url = url ∧
      wire.Plays request reactions ∧ metadata.issuer = issuer ∧
      (discoverWithin issuer reactions.length wire).1 = some metadata := by
  intro issuer document reactions wire
  have slashed : Slashed "http://idp" issuer := ⟨by decide, 2, rfl⟩
  have read : decode ProviderMetadata.decoder (document issuer) =
      .ok ⟨issuer, "http://idp/auth", "http://idp/token", []⟩ := by decide +kernel
  have accepts : Accepts issuer (.answered ⟨200, some (document issuer)⟩) ⟨issuer, _, _, _⟩ :=
    ⟨⟨_, _, rfl, by decide, rfl, read⟩, rfl⟩
  obtain ⟨url, reachable⟩ : ∃ url, reachable? "http://idp/.well-known/openid-configuration" = some url :=
    Option.isSome_iff_exists.mp (by decide +kernel)
  obtain ⟨request, ⟨-, located, -⟩, found⟩ := ((first_document_found issuer).2 _ slashed).1 url reachable
  have plays : wire.Plays request reactions := ⟨rfl, rfl, rfl, rfl, rfl, trivial⟩
  obtain ⟨before, reaction, after, metadata, split, -, accepted, tries⟩ :=
    (found wire).2.2 reactions plays ⟨_, List.mem_of_getLast? rfl, _, accepts⟩
  have early : before.length < reactions.length := by
    rw [split, List.length_append, List.length_cons]
    omega
  refine ⟨slashed, url, request, metadata, reachable, located, plays, accepted.2, ?_⟩
  rw [tries, if_pos early]

end Discovery

end LoginGateway
