import LoginGateway.Proofs.Store.SavedState

namespace LoginGateway

open Json

theorem TokenIndex.each_of_mapDecoder_ok {α : Type} {decoder : Decoder α} {members : List (Octets × Node)}
    {closed : Bool} {dict : Dict α} (read : mapDecoder decoder (.object members closed) = .ok dict) :
    ∀ member ∈ members, ∃ value, decoder member.2 = .ok value := by
  obtain ⟨entries, listed, -⟩ := of_map_ok read
  rw [nullable_object] at listed
  obtain ⟨entries, listed, -⟩ := of_map_ok listed
  exact each_of_membersOf_ok listed

theorem Credential.unread {members : List (Octets × Node)}
    (untold : ∀ member ∈ members, readText? member.1 ≠ some "access_token") (credential : Credential) :
    Credential.decoder (.object members true) ≠ .ok credential := by
  intro read
  rw [decoder, record_object] at read
  obtain ⟨draft, taken, done⟩ := of_bind_ok read
  obtain ⟨token, required, -⟩ := of_bind_ok done
  have unseen : draft.accessToken.isSome = false := lawful.unread List.mem_cons_self untold taken
  rw [Option.isSome_eq_false_iff, Option.isNone_iff_eq_none] at unseen
  rw [unseen] at required
  cases required

namespace Snapshot

/-- A document with a flaw, whatever else there is in it: what is written for a state, say, with one map more, without
one access token, or with something else in the place of a text. -/
inductive Flawed : Node → Prop
  | repeated {name : String} {first second : Octets × Node} {others members : List (Octets × Node)}
      (own : name ∈ fields.map (·.name)) (named : readText? first.1 = some name)
      (named' : readText? second.1 = some name) (twice : members.Perm (first :: second :: others)) :
      Flawed (.object members true)
  | incomplete {map user : Octets} {credential users members : List (Octets × Node)}
      (named : readText? map = some "users") (among : (map, .object users true) ∈ members)
      (known : (user, .object credential true) ∈ users)
      (untold : ∀ member ∈ credential, readText? member.1 ≠ some "access_token") : Flawed (.object members true)
  | mistyped {map key : Octets} {value : Node} {entries members : List (Octets × Node)} {name : String}
      (own : name = "names" ∨ name = "tokens") (named : readText? map = some name)
      (among : (map, .object entries true) ∈ members) (entry : (key, value) ∈ entries)
      (other : ∀ raw, value ≠ .text raw) : Flawed (.object members true)

theorem exists_field {name : String} (own : name ∈ fields.map (·.name)) :
    ∃ field, fields.find? (·.name == name) = some field := by
  obtain ⟨field, among, rfl⟩ := List.mem_map.mp own
  rw [← Option.isSome_iff_exists, List.find?_isSome]
  exact ⟨field, among, beq_self_eq_true _⟩

theorem exists_textField {name : String} (own : name = "names" ∨ name = "tokens") :
    ∃ get set, fields.find? (·.name == name) = some (field name true (TokenIndex.mapDecoder text) get set) := by
  rcases own with rfl | rfl
  · exact ⟨_, _, congrArg (List.find? _) fields_eq⟩
  · exact ⟨_, _, congrArg (List.find? _) fields_eq⟩

theorem read_of_decoder_ok {members : List (Octets × Node)} {closed : Bool} {snapshot : Snapshot}
    (read : decoder (.object members closed) = .ok snapshot) {member : Octets × Node} (among : member ∈ members)
    {name : String} (named : readText? member.1 = some name) {field : RecordField Draft}
    (known : fields.find? (·.name == name) = some field) : ∃ draft next, field.read member.2 draft = .ok next := by
  obtain ⟨draft, taken, -⟩ := of_bind_ok read
  obtain ⟨before, after, taken⟩ := taken_of_foldlM taken among
  exact ⟨before, after, (taken.read named known).2⟩

theorem Flawed.unread {node : Node} (flawed : Flawed node) (snapshot : Snapshot) : decoder node ≠ .ok snapshot := by
  intro read
  cases flawed with
  | repeated own named named' twice =>
    -- wherever the two stand, they can be taken first
    obtain ⟨field, known⟩ := exists_field own
    obtain ⟨draft, taken, -⟩ := of_bind_ok read
    exact lawful.not_repeated known twice named named' taken
  | incomplete named among known untold =>
    obtain ⟨draft, next, read⟩ := read_of_decoder_ok read among named (congrArg (List.find? _) fields_eq)
    obtain ⟨users, read, -⟩ := of_map_ok read
    obtain ⟨credential, decoded⟩ := TokenIndex.each_of_mapDecoder_ok read _ known
    exact Credential.unread untold credential decoded
  | mistyped own named among entry other =>
    obtain ⟨get, set, known⟩ := exists_textField own
    obtain ⟨draft, next, read⟩ := read_of_decoder_ok read among named known
    obtain ⟨texts, read, -⟩ := of_map_ok read
    obtain ⟨content, decoded⟩ := TokenIndex.each_of_mapDecoder_ok read _ entry
    obtain ⟨raw, same⟩ := of_text_ok decoded
    exact other raw same

/-- Whatever stands for a state is read as that state, all of it: as what the store itself writes would be, and so as
just that state unless a credential expires at a leap second within a minute, which no text tells from the second
after it. What is flawed is not read even in part, however much of it is in order. -/
theorem tolerant_reading (snapshot : Snapshot) :
    snapshot.Rendered snapshot.json ∧
    (∀ data, snapshot.Rendered data →
      (snapshot.Valid → Snapshot.ofJson? data = some snapshot.asWritten) ∧
      (Snapshot.ofJson? data = some snapshot ↔ snapshot.Valid ∧ snapshot.OnMinute)) ∧
    ∀ node data, Flawed node → node.Text data → Snapshot.ofJson? data = none := by
  refine ⟨snapshot.rendered_json, fun data rendered => ⟨rendered.ofJson?, ofJson?_valid, ?_⟩, ?_⟩
  · rintro ⟨valid, whole⟩
    exact rendered.ofJson?_self valid whole
  intro node data flawed text
  rw [Snapshot.ofJson?, text.decode decoder]
  cases read : decoder node with
  | error error => rfl
  | ok other => exact (flawed.unread other read).elim

def tokenless : Snapshot where
  index := .empty
  users := .ofList [("alice", ⟨"access", "", none, none⟩), ("bob", ⟨"other", "Bearer", some "refresh", none⟩)]

def tokenlessNode : Node :=
  .object [memberNode "note" (textNode "moved"),
    memberNode "users" (.object
      [memberNode "bob" (.object [memberNode "refresh_token" (textNode "refresh"),
        memberNode "token_type" (textNode "Bearer"), memberNode "access_token" (textNode "other")] true),
       memberNode "alice" (.object [memberNode "scope" (textNode "all"), memberNode "expiry" .null,
        memberNode "token_type" (textNode ""), memberNode "access_token" (textNode "access")] true)] true),
    memberNode "names" .null] true

theorem form_tokenlessNode : tokenless.Form tokenlessNode := by
  have stranger (names : List String) (name content : String) (other : name ∉ names) :
      ∀ member ∈ [memberNode name (textNode content)], Stranger names member := by
    rintro member (_ | ⟨_, ⟨⟩⟩)
    exact ⟨⟨name, readText?_escape name, other⟩, content, readText?_escape content⟩
  refine .object (.present (.null rfl)) (.absent rfl) (.present (.object (List.reverse_perm _) ?_))
    (.object (stranger _ "note" "moved" (by decide)) (List.reverse_perm _).symm)
  refine .cons ⟨rfl, ?_⟩ (.cons ⟨rfl, ?_⟩ .nil)
  · exact .object (.present rfl) (.present rfl) (.present rfl) (.absent rfl)
      (@Arranged.object _ _ [] _ nofun (List.reverse_perm _).symm)
  · exact .object (.present rfl) (.present rfl) (.absent rfl) (.present rfl)
      (.object (stranger _ "scope" "all" (by decide)) (List.reverse_perm _).symm)

theorem tolerant_reading_tokenless :
    Snapshot.ofJson? (Json.object
      [("note", quote "moved"),
       ("users", 0x20 :: Json.object
        [("bob", Json.object [("refresh_token", quote "refresh"), ("token_type", quote "Bearer"),
          ("access_token", quote "other")]),
         ("alice", Json.object [("scope", quote "all"), ("expiry", Value.null.octets), ("token_type", quote ""),
          ("access_token", quote "access")])]),
       ("names", Value.null.octets)]) = some tokenless ∧
    Snapshot.ofJson? (Json.object
      [("names", Json.object []), ("users", Json.object []), ("names", Value.null.octets)]) = none ∧
    Snapshot.ofJson? (Json.object
      [("users", Json.object [("alice", Json.object [("token_type", quote "Bearer")])])]) = none ∧
    Snapshot.ofJson? (Json.object [("tokens", Json.object [("t1", Value.null.octets)])]) = none := by
  have nullText : Node.null.Text Value.null.octets := ⟨.null, Token.Spelled.null.spaced⟩
  have emptyText : (Node.object [] true).Text (Json.object []) := text_object .nil
  have blank : ∀ octet ∈ [0x20], isSpace octet := List.forall_mem_singleton.mpr rfl
  have bob := text_object (.cons ((text_quote "refresh").member "refresh_token")
    (.cons ((text_quote "Bearer").member "token_type") (.cons ((text_quote "other").member "access_token") .nil)))
  have alice := text_object (.cons ((text_quote "all").member "scope") (.cons (nullText.member "expiry")
    (.cons ((text_quote "").member "token_type") (.cons ((text_quote "access").member "access_token") .nil))))
  have users := text_object (.cons (bob.member "bob") (.cons (alice.member "alice") .nil))
  have other := text_object (.cons ((text_quote "moved").member "note")
    (.cons ((users.before blank).member "users") (.cons (nullText.member "names") .nil)))
  have repeated := text_object
    (.cons (emptyText.member "names") (.cons (emptyText.member "users") (.cons (nullText.member "names") .nil)))
  have lacking := text_object (.cons ((text_quote "Bearer").member "token_type") .nil)
  have incomplete := text_object (.cons ((text_object (.cons (lacking.member "alice") .nil)).member "users") .nil)
  have mistyped := text_object (.cons ((text_object (.cons (nullText.member "t1") .nil)).member "tokens") .nil)
  obtain ⟨-, tolerated, refused⟩ := tolerant_reading tokenless
  refine ⟨(tolerated _ ⟨_, form_tokenlessNode, other⟩).2.mpr (by decide), refused _ _ ?_ repeated,
    refused _ _ ?_ incomplete, refused _ _ ?_ mistyped⟩
  · exact .repeated List.mem_cons_self (readText?_escape "names") (readText?_escape "names") (.cons _ (.swap _ _ _))
  · refine .incomplete (readText?_escape "users") List.mem_cons_self List.mem_cons_self ?_
    rintro member (_ | ⟨_, ⟨⟩⟩)
    rw [memberNode, readText?_escape]
    decide
  · exact .mistyped (.inr rfl) (readText?_escape "tokens") List.mem_cons_self List.mem_cons_self (by rintro raw ⟨⟩)

end Snapshot

end LoginGateway
