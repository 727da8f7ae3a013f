import LoginGateway.Proofs.Json.Records
import LoginGateway.Proofs.Json.Replacement
import LoginGateway.Proofs.Provider.Answers
import Mathlib.Logic.Relation

namespace LoginGateway

open Http Json

def Credential.redacted (credential : Credential) : Credential := { credential with accessToken := "" }

def Exchanged.redacted (exchanged : Exchanged) : Exchanged :=
  { exchanged with credential := exchanged.credential.redacted }

theorem Credential.usableRefreshToken_of_redacted {credential other : Credential}
    (same : credential.redacted = other.redacted) : credential.usableRefreshToken = other.usableRefreshToken :=
  congrArg (·.usableRefreshToken) same

namespace TokenResponse

def redacted (response : TokenResponse) : TokenResponse := { response with accessToken := "" }

theorem exchanged_redacted (response : TokenResponse) (now : Instant) :
    response.redacted.exchanged now = (response.exchanged now).map Exchanged.redacted := by
  have expires : response.redacted.expiresIn = response.expiresIn := rfl
  unfold exchanged
  rw [expires]
  cases expiryOf now response.expiresIn <;> rfl

def Readable (raw : Octets) : Prop := Body raw ∧ ∃ token, readText? raw = some token

/-- The bodies are the same octets but for the text of an access token. It is the value of a member of that name of the
outermost object, or else the first item of the outermost list. -/
inductive OneReplaced : Octets → Octets → Prop where
  | member {before rest raw raw' key : Octets} {members : List (Octets × Node)}
      (next : ValueNext before (.object members key)) (named : readText? key = some "access_token")
      (text : Readable raw) (text' : Readable raw') :
      OneReplaced (before ++ 0x22 :: (raw ++ 0x22 :: rest)) (before ++ 0x22 :: (raw' ++ 0x22 :: rest))
  | item {before rest raw raw' : Octets} (next : ValueNext before (.list [])) (text : Readable raw)
      (text' : Readable raw') :
      OneReplaced (before ++ 0x22 :: (raw ++ 0x22 :: rest)) (before ++ 0x22 :: (raw' ++ 0x22 :: rest))

/-- The bodies are the same octets but for the texts of access tokens. -/
def SameButAccess : Octets → Octets → Prop := Relation.ReflTransGen OneReplaced

def Draft.redacted (draft : Draft) : Draft := { draft with accessToken := draft.accessToken.map fun _ => "" }

theorem Draft.of_redacted {draft other : Draft} (same : draft.redacted = other.redacted) :
    ∃ token, other = { draft with accessToken := token } ∧ draft.accessToken.isSome = token.isSome := by
  have given := congrArg (·.accessToken.isSome) same
  simp only [redacted, Option.isSome_map] at given
  refine ⟨other.accessToken, ?_, given⟩
  simp only [redacted, mk.injEq] at same
  obtain ⟨-, tokenType, refreshToken, expiresIn, idToken⟩ := same
  rw [tokenType, refreshToken, expiresIn, idToken]

theorem seen_redacted {draft other : Draft} (same : draft.redacted = other.redacted) :
    ∀ field ∈ fields, field.seen draft = field.seen other := by
  obtain ⟨token, rfl, given⟩ := Draft.of_redacted same
  simp [fields, field, given]

theorem read_redacted {draft other : Draft} (same : draft.redacted = other.redacted) (node : Node) :
    ∀ field ∈ fields, (field.read node draft).map Draft.redacted = (field.read node other).map Draft.redacted := by
  simp only [fields, List.forall_mem_cons]
  refine ⟨?_, ?_, ?_, ?_, ?_, nofun⟩ <;> apply map_read_field <;> intro value
  · exact congrArg (fun shown : Draft => { shown with accessToken := some "" }) same
  · exact congrArg (fun shown : Draft => { shown with tokenType := some value }) same
  · exact congrArg (fun shown : Draft => { shown with refreshToken := some value }) same
  · exact congrArg (fun shown : Draft => { shown with expiresIn := some value }) same
  · exact congrArg (fun shown : Draft => { shown with idToken := some value }) same

inductive MemberAlike : Octets × Node → Octets × Node → Prop where
  | same (member : Octets × Node) : MemberAlike member member
  | accessToken {key key' raw raw' : Octets} {token token' : String} (named : readText? key = some "access_token")
      (named' : readText? key' = some "access_token") (read : readText? raw = some token)
      (read' : readText? raw' = some token') : MemberAlike (key, .text raw) (key', .text raw')

theorem readMember_accessToken {key raw : Octets} {token : String} (named : readText? key = some "access_token")
    (read : readText? raw = some token) (draft : Draft) :
    readMember ignored fields draft (key, .text raw) =
      if draft.accessToken.isSome then .error (.duplicateField "access_token")
      else .ok { draft with accessToken := some token } := by
  have text : Json.text (.text raw) = .ok token := by simp only [Json.text, read]
  simp [readMember, named, fields, field, text]

theorem readMember_redacted {draft other : Draft} {member member' : Octets × Node}
    (alike : MemberAlike member member') (same : draft.redacted = other.redacted) :
    (readMember ignored fields draft member).map Draft.redacted =
      (readMember ignored fields other member').map Draft.redacted := by
  cases alike with
  | same => exact readMember_view (seen_redacted same) (read_redacted same _) same
  | accessToken named named' read read' =>
    have seen : draft.accessToken.isSome = other.accessToken.isSome := seen_redacted same _ List.mem_cons_self
    rw [readMember_accessToken named read, readMember_accessToken named' read', seen]
    split
    · rfl
    · have rest : { draft with accessToken := some "" } = { other with accessToken := some "" } :=
        congrArg (fun shown : Draft => { shown with accessToken := some "" }) same
      exact congrArg Except.ok rest

def ofDraft (draft : Draft) : Except DecodeError TokenResponse := do
  let accessToken ← require "access_token" draft.accessToken
  return ⟨accessToken, draft.tokenType.getD none, draft.refreshToken.getD none, draft.expiresIn.getD none,
    draft.idToken.getD none⟩

theorem ofDraft_redacted {draft other : Draft} (same : draft.redacted = other.redacted) :
    (ofDraft draft).map redacted = (ofDraft other).map redacted := by
  obtain ⟨token, rfl, given⟩ := Draft.of_redacted same
  unfold ofDraft
  cases token with
  | none =>
    have absent : draft.accessToken = none := Option.not_isSome_iff_eq_none.mp (by simp [given])
    rw [absent]
  | some token =>
    obtain ⟨own, present⟩ := Option.isSome_iff_exists.mp given
    rw [present]
    rfl

theorem decoder_object {members members' : List (Octets × Node)} (alike : List.Forall₂ MemberAlike members members')
    (closed : Bool) :
    (decoder (.object members closed)).map redacted = (decoder (.object members' closed)).map redacted := by
  have drafts : (members.foldlM (readMember ignored fields) {}).map Draft.redacted =
      (members'.foldlM (readMember ignored fields) {}).map Draft.redacted := by
    refine foldlM_view ?_ alike rfl
    intro draft other member member'
    exact readMember_redacted
  refine map_bind_eq drafts fun draft draft' same => ?_
  cases closed with
  | false => rfl
  | true => exact ofDraft_redacted same

theorem decoder_list {raw raw' : Octets} {token token' : String} (read : readText? raw = some token)
    (read' : readText? raw' = some token') (items : List Node) (closed : Bool) :
    (decoder (.list (.text raw :: items) closed)).map redacted =
      (decoder (.list (.text raw' :: items) closed)).map redacted := by
  have first : ∀ {raw token}, readText? raw = some token → readItems fields {} (.text raw :: items) =
      readItems fields.tail { accessToken := some token } items := by
    intro raw token read
    have text : Json.text (.text raw) = .ok token := by simp only [Json.text, read]
    simp only [fields, readItems, field, text, map_ok, ok_bind, List.tail_cons]
  have drafts : (readItems fields {} (.text raw :: items)).map Draft.redacted =
      (readItems fields {} (.text raw' :: items)).map Draft.redacted := by
    rw [first read, first read']
    have start : Draft.redacted { accessToken := some token } = Draft.redacted { accessToken := some token' } := rfl
    refine readItems_view (fun field among draft other node same => ?_) start items
    exact read_redacted same node field (List.mem_of_mem_tail among)
  refine map_bind_eq drafts fun draft draft' same => ?_
  cases closed with
  | false => rfl
  | true =>
    rcases of_map_eq (ofDraft_redacted same) with ⟨error, failed, failed'⟩ | ⟨response, response', done, done', alike⟩
    · exact congrArg (fun outcome => (Except.mapError (fun _ => DecodeError.malformed) outcome).map redacted)
        (failed.trans failed'.symm)
    · show ((ofDraft draft).mapError _).map _ = ((ofDraft draft').mapError _).map _
      rw [done, done']
      exact congrArg Except.ok alike

theorem decode_of_parse {body other : Octets} {node node' : Node} {ends : Bool} (parsed : parse body = ⟨node, ends⟩)
    (parsed' : parse other = ⟨node', ends⟩) (alike : (decoder node).map redacted = (decoder node').map redacted) :
    (decode decoder body).map redacted = (decode decoder other).map redacted := by
  simp only [decode, parsed, parsed']
  refine map_bind_eq alike fun response response' same => ?_
  cases ends with
  | false => rfl
  | true => exact congrArg Except.ok same

theorem OneReplaced.decode {body other : Octets} (replaced : OneReplaced body other) :
    (decode decoder body).map redacted = (decode decoder other).map redacted := by
  cases replaced with
  | @member before rest raw raw' key members next named text text' =>
    obtain ⟨body, token, read⟩ := text
    obtain ⟨body', token', read'⟩ := text'
    obtain ⟨root, ends, filled, parsed⟩ := parse_text_next next rest
    refine decode_of_parse (parsed raw body) (parsed raw' body') ?_
    cases filled with
    | object later closed =>
      have same (kept : List (Octets × Node)) : List.Forall₂ MemberAlike kept kept :=
        List.forall₂_same.mpr fun member _ => .same member
      simp only [List.reverse_append, List.reverse_cons, List.append_assoc, List.singleton_append]
      exact decoder_object (List.rel_append (same _) (.cons (.accessToken named named read read') (same _))) closed
  | @item before rest raw raw' next text text' =>
    obtain ⟨body, token, read⟩ := text
    obtain ⟨body', token', read'⟩ := text'
    obtain ⟨root, ends, filled, parsed⟩ := parse_text_next next rest
    refine decode_of_parse (parsed raw body) (parsed raw' body') ?_
    cases filled with
    | list later closed =>
      simp only [List.reverse_append, List.reverse_cons, List.reverse_nil, List.nil_append, List.singleton_append]
      exact decoder_list read read' later.reverse closed

/-- Bodies that differ in access tokens only are read as answers that differ in nothing else, or are refused for the
same reason. -/
theorem SameButAccess.decode {body other : Octets} (alike : SameButAccess body other) :
    (decode decoder body).map redacted = (decode decoder other).map redacted := by
  induction alike with
  | refl => rfl
  | tail _ replaced ih => exact ih.trans replaced.decode

end TokenResponse

/-- The reactions are the same, or both are answers of success whose bodies differ in access tokens only. -/
inductive Http.Reaction.SameButAccess : Reaction → Reaction → Prop where
  | same (reaction : Reaction) : SameButAccess reaction reaction
  | success {status : Nat} {body other : Octets} (succeeded : isSuccess status = true)
      (alike : TokenResponse.SameButAccess body other) :
      SameButAccess (.answered ⟨status, some body⟩) (.answered ⟨status, some other⟩)

/-- Two wires that have been sent the same and now are sent the same once more, if the one is sent anything: to that
they react alike. -/
structure Http.Wire.Beside (wire other after : Wire) : Prop where
  sent : wire.sent = other.sent
  reactions : after.sent ≠ wire.sent → (wire.react after.sent).SameButAccess (other.react after.sent)

/-- The errors are the same, or both are about token responses that cannot be read, break the same rule, and differ in
access tokens only. -/
inductive ProviderError.Alike : ProviderError → ProviderError → Prop where
  | same (error : ProviderError) : Alike error error
  | unread {body other : Octets} {error : DecodeError} (alike : TokenResponse.SameButAccess body other)
      (unread : decode TokenResponse.decoder body = .error error) :
      Alike (.tokenResponse (.unreadable ⟨body, error⟩)) (.tokenResponse (.unreadable ⟨other, error⟩))

inductive Failure.Alike {ε : Type} (alike : ε → ε → Prop) : Failure ε → Failure ε → Prop where
  | error {error other : ε} (same : alike error other) : Alike alike (.error error) (.error other)
  | crash : Alike alike .crash .crash

theorem Http.Reaction.SameButAccess.read {reaction other : Reaction} (alike : reaction.SameButAccess other) :
    Agree ProviderError.Alike TokenResponse.redacted (reaction.read .tokenResponse TokenResponse.decoder)
      (other.read .tokenResponse TokenResponse.decoder) := by
  cases alike with
  | same => exact .refl ProviderError.Alike.same _
  | success succeeded alike =>
    simp only [Reaction.read, succeeded, Bool.not_true, Bool.false_eq_true, if_false]
    rcases of_map_eq alike.decode with ⟨error, failed, failed'⟩ | ⟨response, response', read, read', same⟩
    · rw [failed, failed']
      exact .error (.unread alike failed)
    · rw [read, read']
      exact .ok same

theorem TokenResponse.exchanged_alike {response response' : TokenResponse}
    (same : response.redacted = response'.redacted) (now : Instant) :
    Agree (Failure.Alike ProviderError.Alike) Exchanged.redacted (response.exchanged now)
      (response'.exchanged now) := by
  have told : (response.exchanged now).map Exchanged.redacted = (response'.exchanged now).map Exchanged.redacted := by
    rw [← exchanged_redacted, ← exchanged_redacted, same]
  rcases of_map_eq told with ⟨failure, failed, failed'⟩ | ⟨exchanged, exchanged', done, done', alike⟩
  · rw [failed, failed']
    cases failure with
    | error error => exact .error (.error (.same error))
    | crash => exact .error .crash
  · rw [done, done']
    exact .ok alike

namespace ProviderClient

variable {wire other : Wire}

theorem requestToken_alike (client : ProviderClient) (now : Instant) (form : List (String × String))
    (beside : wire.Beside other (client.requestToken now form wire).2) :
    Agree (Failure.Alike ProviderError.Alike) Exchanged.redacted (client.requestToken now form wire).1
        (client.requestToken now form other).1 ∧
      (client.requestToken now form wire).2.sent = (client.requestToken now form other).2.sent := by
  cases asked : client.request? form with
  | none =>
    have unsent : ∀ wire, client.requestToken now form wire = (.error (.error .unreachable), wire) := by
      intro wire
      unfold requestToken
      rw [asked, fetch]
    rw [unsent, unsent]
    exact ⟨.error (.error (.same _)), beside.sent⟩
  | some request =>
    rw [requestToken_send asked, requestToken_send asked]
    rw [requestToken_send asked] at beside
    have asked' : (other.send request).2.sent = (wire.send request).2.sent :=
      congrArg (request.received :: ·) beside.sent.symm
    have alike : (wire.send request).1.SameButAccess (other.send request).1 := by
      show (wire.react (wire.send request).2.sent).SameButAccess (other.react (other.send request).2.sent)
      rw [asked']
      exact beside.reactions (List.cons_ne_self _ _)
    refine ⟨?_, asked'.symm⟩
    have read := alike.read
    dsimp only
    generalize (wire.send request).1.read .tokenResponse TokenResponse.decoder = outcome at read ⊢
    generalize (other.send request).1.read .tokenResponse TokenResponse.decoder = outcome' at read ⊢
    cases read with
    | error alike => exact .error (.error alike)
    | ok same => exact TokenResponse.exchanged_alike same now

theorem exchangeCode_alike (client : ProviderClient) (now : Instant) (code : String)
    (beside : wire.Beside other (client.exchangeCode now code wire).2) :
    Agree (Failure.Alike ProviderError.Alike) Exchanged.redacted (client.exchangeCode now code wire).1
        (client.exchangeCode now code other).1 ∧
      (client.exchangeCode now code wire).2.sent = (client.exchangeCode now code other).2.sent := by
  unfold exchangeCode at beside ⊢
  exact client.requestToken_alike now (client.codeForm code) beside

theorem refresh_alike (client : ProviderClient) (now : Instant) {credential credential' : Credential}
    (same : credential.redacted = credential'.redacted)
    (beside : wire.Beside other (client.refresh now credential wire).2) :
    Agree (Failure.Alike ProviderError.Alike) Credential.redacted (client.refresh now credential wire).1
        (client.refresh now credential' other).1 ∧
      (client.refresh now credential wire).2.sent = (client.refresh now credential' other).2.sent := by
  have tokens := Credential.usableRefreshToken_of_redacted same
  cases usable : credential.usableRefreshToken with
  | none =>
    have usable' := tokens.symm.trans usable
    simp only [refresh, usable, usable']
    exact ⟨.error (.error (.same _)), beside.sent⟩
  | some token =>
    rw [refresh_requested usable] at beside ⊢
    rw [refresh_requested (tokens.symm.trans usable)]
    dsimp only at beside ⊢
    obtain ⟨answered, sent⟩ := client.requestToken_alike now (client.refreshForm token) beside
    refine ⟨?_, sent⟩
    generalize (client.requestToken now (client.refreshForm token) wire).1 = outcome at answered ⊢
    generalize (client.requestToken now (client.refreshForm token) other).1 = outcome' at answered ⊢
    cases answered with
    | error alike => exact .error alike
    | ok alike =>
      have rest := congrArg Exchanged.credential alike
      exact .ok (congrArg (fun shown : Credential =>
        { shown with refreshToken := some (shown.refreshToken.getD token) }) rest)

end ProviderClient

end LoginGateway
