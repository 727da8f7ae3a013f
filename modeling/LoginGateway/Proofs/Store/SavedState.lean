import LoginGateway.Proofs.Store.StateForms

namespace LoginGateway

open Json

namespace Credential

def node (credential : Credential) : Node :=
  .object ([memberNode "access_token" (textNode credential.accessToken)]
    ++ (if credential.tokenType.isEmpty then [] else [memberNode "token_type" (textNode credential.tokenType)])
    ++ (match credential.refreshToken with
      | some token => [memberNode "refresh_token" (textNode token)]
      | none => [])
    ++ (match credential.expiry with
      | some expiry => [memberNode "expiry" (textNode (Rfc3339.print expiry))]
      | none => [])) true

theorem written (credential : Credential) : credential.node.Text credential.json := by
  obtain ⟨accessToken, tokenType, refreshToken, expiry⟩ := credential
  apply text_object
  simp only [members]
  refine List.rel_append (List.rel_append (List.rel_append ?_ ?_) ?_) ?_
  · exact .cons ((text_quote _).member _) .nil
  · split
    · exact .nil
    · exact .cons ((text_quote _).member _) .nil
  · cases refreshToken with
    | none => exact .nil
    | some token => exact .cons ((text_quote _).member _) .nil
  · cases expiry with
    | none => exact .nil
    | some expiry => exact .cons ((text_quote _).member _) .nil

theorem form_node (credential : Credential) : credential.Form credential.node := by
  obtain ⟨accessToken, tokenType, refreshToken, expiry⟩ := credential
  refine .object (.present rfl) ?_ ?_ ?_ (arranged_self _ _)
  · split
    · exact .absent (String.isEmpty_iff.mp ‹_›)
    · exact .present rfl
  · cases refreshToken with
    | none => exact .absent rfl
    | some token => exact .present rfl
  · cases expiry with
    | none => exact .absent rfl
    | some expiry => exact .present rfl

theorem timestamp_valid {node : Node} {expiry : Option Instant} (read : nullable timestamp node = .ok expiry) :
    ∀ instant ∈ expiry, instant.Valid ∧ instant.OnMinute := by
  have present : ∀ {node : Node} {instant : Instant}, timestamp node = .ok instant →
      instant.Valid ∧ instant.OnMinute := by
    intro node instant done
    obtain ⟨content, -, done⟩ := of_bind_ok done
    split at done
    · rename_i named
      cases done
      exact Rfc3339.parse?_valid named
    · cases done
  unfold nullable at read
  split at read
  · cases read
    simp
  · obtain ⟨instant, done, rfl⟩ := of_map_ok read
    intro other same
    cases same
    exact present done

theorem decoder_valid {node : Node} {credential : Credential} (read : decoder node = .ok credential) :
    credential.Valid ∧ credential.OnMinute := by
  let kept (draft : Draft) : Prop :=
    ∀ expiry ∈ draft.expiry, ∀ instant ∈ expiry, instant.Valid ∧ instant.OnMinute
  have each : ∀ field ∈ fields, ∀ node draft next, field.read node draft = .ok next → kept draft → kept next := by
    intro field member node draft next done held
    simp only [fields, List.mem_cons, List.not_mem_nil, or_false] at member
    rcases member with rfl | rfl | rfl | rfl
    · obtain ⟨_, -, rfl⟩ := of_map_ok done
      exact held
    · obtain ⟨_, -, rfl⟩ := of_map_ok done
      exact held
    · obtain ⟨_, -, rfl⟩ := of_map_ok done
      exact held
    · obtain ⟨expiry, read, rfl⟩ := of_map_ok done
      intro last same instant present
      cases same
      exact timestamp_valid read instant present
  obtain ⟨draft, held, finished⟩ := record_keeps each (by simp [kept]) read
  obtain ⟨accessToken, -, same⟩ := of_bind_ok finished
  cases same
  apply forall₂_and.mp
  intro instant member
  cases read : draft.expiry with
  | none => simp [read] at member
  | some expiry => exact held expiry read instant (by simpa [read] using member)

end Credential

namespace TokenIndex

def mapNode (dict : Dict String) : Node :=
  .object (dict.entries.map fun entry => memberNode entry.1 (textNode entry.2)) true

theorem text_entries {α : Type} {text : α → Octets} {node : α → Node}
    (each : ∀ value, (node value).Text (text value)) (entries : List (String × α)) :
    (Node.object (entries.map fun entry => memberNode entry.1 (node entry.2)) true).Text
      (Json.object (entries.map fun entry => (entry.1, text entry.2))) :=
  text_object (forall₂_map fun entry _ => (each entry.2).member entry.1)

theorem of_mapDecoder_ok {α : Type} {decoder : Decoder α} {node : Node} {dict : Dict α}
    (read : mapDecoder decoder node = .ok dict) :
    ∀ entry ∈ dict.entries, ∃ inner, decoder inner = .ok entry.2 := by
  obtain ⟨members, done, rfl⟩ := of_map_ok read
  have each : ∀ member ∈ members.getD [], ∃ inner, decoder inner = .ok member.2 := by
    unfold nullable at done
    split at done
    · cases done
      simp
    · obtain ⟨entries, listed, same⟩ := of_map_ok done
      cases same
      exact of_membersOf_ok listed
  intro entry member
  exact each entry (Dict.mem_ofList member)

end TokenIndex

namespace Snapshot

def node (snapshot : Snapshot) : Node :=
  .object [memberNode "names" (TokenIndex.mapNode snapshot.index.names),
    memberNode "tokens" (TokenIndex.mapNode snapshot.index.tokens),
    memberNode "users"
      (.object (snapshot.users.entries.map fun entry => memberNode entry.1 entry.2.node) true)] true

theorem written (snapshot : Snapshot) : snapshot.node.Text snapshot.json := by
  apply text_object
  exact .cons ((TokenIndex.text_entries text_quote _).member _)
    (.cons ((TokenIndex.text_entries text_quote _).member _)
      (.cons ((TokenIndex.text_entries Credential.written _).member _) .nil))

theorem form_node (snapshot : Snapshot) : snapshot.Form snapshot.node :=
  .object (.present (Dict.form_entries (.refl _) fun _ _ => rfl))
    (.present (Dict.form_entries (.refl _) fun _ _ => rfl))
    (.present (Dict.form_entries (.refl _) fun entry _ => entry.2.form_node)) (arranged_self _ _)

theorem rendered_json (snapshot : Snapshot) : snapshot.Rendered snapshot.json :=
  ⟨snapshot.node, snapshot.form_node, snapshot.written⟩

theorem ofJson?_json {snapshot : Snapshot} (valid : snapshot.Valid) :
    ofJson? snapshot.json = some snapshot.asWritten :=
  snapshot.rendered_json.ofJson? valid

theorem ofJson?_valid {data : Octets} {snapshot : Snapshot} (read : ofJson? data = some snapshot) :
    snapshot.Valid ∧ snapshot.OnMinute := by
  let kept (draft : Draft) : Prop :=
    ∀ users ∈ draft.users, ∀ entry ∈ users.entries, entry.2.Valid ∧ entry.2.OnMinute
  have each : ∀ field ∈ fields, ∀ node draft next, field.read node draft = .ok next → kept draft → kept next := by
    intro field member node draft next done held
    simp only [fields, TokenIndex.fields, List.map_cons, List.map_nil, List.cons_append, List.nil_append,
      List.mem_cons, List.not_mem_nil, or_false] at member
    rcases member with rfl | rfl | rfl
    · obtain ⟨_, -, rfl⟩ := of_map_ok done
      exact held
    · obtain ⟨_, -, rfl⟩ := of_map_ok done
      exact held
    · obtain ⟨users, read, rfl⟩ := of_map_ok done
      intro last same entry present
      cases same
      obtain ⟨inner, read⟩ := TokenIndex.of_mapDecoder_ok read entry present
      exact Credential.decoder_valid read
  cases decoded : decode decoder data with
  | error error => rw [ofJson?, decoded] at read; cases read
  | ok value =>
    rw [ofJson?, decoded] at read
    cases read
    obtain ⟨draft, held, finished⟩ := objectRecord_keeps each (by simp [kept]) (of_decode_ok decoded)
    cases finished
    apply forall₂_and.mp
    intro entry member
    cases users : draft.users with
    | none => simp [users, Dict.empty] at member
    | some present => exact held present users entry (by simpa [users] using member)

end Snapshot

end LoginGateway
