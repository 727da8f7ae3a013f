import LoginGateway.Backend.ClusterSecret
import LoginGateway.Proofs.Encoding.Base64
import LoginGateway.Proofs.Json.Layout

namespace LoginGateway.ClusterSecret

open Json

def shownData? (body : Octets) : Option (Dict String) :=
  if (parse body).ends then ((parse body).root.member? "data").bind fun data => data.texts?.map Dict.ofList else none

/-- Space, name and data of the secret that a body describes. -/
def described? (body : Octets) : Option (String × String × Dict String) := do
  let data ← shownData? body
  let metadata ← (parse body).root.member? "metadata"
  let version ← ((parse body).root.member? "apiVersion").bind Node.text?
  let kind ← ((parse body).root.member? "kind").bind Node.text?
  let space ← (metadata.member? "namespace").bind Node.text?
  let name ← (metadata.member? "name").bind Node.text?
  if version = "v1" ∧ kind = "Secret" then some (space, name, data) else none

def dataOf (data : Octets) : Dict String :=
  Dict.ofList [(dataKey, Text.ascii (Base64.encode Base64.standard data))]

def bodyNode (secret : ClusterSecret) (data : Octets) : Node :=
  .object
    [memberNode "apiVersion" (textNode "v1"),
     memberNode "data" (.object
       [memberNode dataKey (textNode (Text.ascii (Base64.encode Base64.standard data)))] true),
     memberNode "kind" (textNode "Secret"),
     memberNode "metadata" (.object
       [memberNode "name" (textNode secret.name), memberNode "namespace" (textNode secret.space)] true)] true

theorem parse_body (secret : ClusterSecret) (data : Octets) :
    parse (secret.body data) = ⟨secret.bodyNode data, true⟩ := by
  have text : ∀ key content, MemberText (key, quote content) (memberNode key (textNode content)) :=
    fun key content => (text_quote content).member key
  have inner : ∀ key {members : List (String × Octets)} {nodes : List (Octets × Node)},
      List.Forall₂ MemberText members nodes →
        MemberText (key, Json.object members) (memberNode key (.object nodes true)) :=
    fun key _ _ each => (text_object each).member key
  apply Node.Text.parse
  apply text_object
  exact .cons (text _ _) (.cons (inner _ (.cons (text _ _) .nil)) (.cons (text _ _)
    (.cons (inner _ (.cons (text _ _) (.cons (text _ _) .nil))) .nil)))

theorem described?_body (secret : ClusterSecret) (data : Octets) :
    described? (secret.body data) = some (secret.space, secret.name, dataOf data) := by
  rw [described?, shownData?, parse_body]
  simp [bodyNode, Node.member?, Node.texts?, Node.text?, memberNode, textNode, readText?_escape, dataOf]

def showing (data : Dict String) : Octets :=
  Json.object [("data", Json.object (data.entries.map fun (key, content) => (key, quote content)))]

theorem texts?_members (entries : List (String × String)) :
    (Node.object (entries.map fun entry => memberNode entry.1 (textNode entry.2)) true).texts? = some entries := by
  induction entries with
  | nil => rfl
  | cons entry entries ih =>
    rw [Node.texts?] at ih ⊢
    rw [List.map_cons, List.mapM_cons, ih]
    simp [memberNode, textNode, Node.text?, readText?_escape]

theorem shownData?_showing (data : Dict String) : shownData? (showing data) = some data := by
  have texts := texts?_members data.entries
  have inner : MemberText ("data", Json.object (data.entries.map fun (key, content) => (key, quote content)))
      (memberNode "data" (.object (data.entries.map fun entry => memberNode entry.1 (textNode entry.2)) true)) :=
    (text_object (forall₂_map fun entry _ => (text_quote entry.2).member entry.1)).member "data"
  generalize Node.object (data.entries.map fun entry => memberNode entry.1 (textNode entry.2)) true = shown
    at texts inner
  have written : (Node.object [memberNode "data" shown] true).Text (showing data) := text_object (.cons inner .nil)
  have member : (Node.object [memberNode "data" shown] true).member? "data" = some shown := by
    simp [Node.member?, memberNode, readText?_escape]
  rw [shownData?, written.parse]
  simp only [member, Option.bind_some, texts, Option.map_some, if_true, Dict.ofList_of_perm (List.Perm.refl _)]

theorem nullable_texts? {node : Node} {texts : List (String × String)} (held : node.texts? = some texts) :
    nullable (fun node => (membersOf text node).map Dict.ofList) node = .ok (some (Dict.ofList texts)) := by
  have read := membersOf_texts? held
  cases node with
  | object members closed => rw [nullable_object, read]; rfl
  | _ => cases held

theorem decode_shown {body : Octets} {data : Dict String} (shown : shownData? body = some data) :
    decode dataDecoder body = .ok (some data) := by
  rw [shownData?] at shown
  split at shown
  · rename_i ends
    obtain ⟨value, found, shown⟩ := Option.bind_eq_some_iff.mp shown
    obtain ⟨texts, held, rfl⟩ := Option.map_eq_some_iff.mp shown
    obtain ⟨before, raw, after, root, named, others⟩ := of_member? found
    have whole := whole_of_parse ends
    rw [root] at whole
    cases whole with
    | object each =>
      -- The data is the one field of the record; the members on both sides of it are passed over.
      have ignorable : ∀ member ∈ before ++ after, ignored member.2 = .ok () ∧
          ∃ key, readText? member.1 = some key ∧ fields.find? (·.name == key) = none := by
        intro member among
        obtain ⟨key, read, other⟩ := others member among
        refine ⟨(each member ?_).ignored, key, read, by simp [fields, field, other.symm]⟩
        rcases List.mem_append.mp among with earlier | later
        · exact List.mem_append_left _ earlier
        · exact List.mem_append_right _ (List.mem_cons_of_mem _ later)
      have taken : readMember ignored fields {} (raw, value) = .ok { data := some (some (Dict.ofList texts)) } := by
        simp only [readMember, named, fields, field, List.find?_cons, beq_self_eq_true, nullable_texts? held]
        rfl
      have read : dataDecoder (parse body).root = .ok (some (Dict.ofList texts)) := by
        have unfolded : dataDecoder (.object (before ++ (raw, value) :: after) true) =
            (before ++ (raw, value) :: after).foldlM (readMember ignored fields) {} >>= fun draft =>
              .ok (draft.data.getD none) := rfl
        rw [root, unfolded, List.foldlM_append,
          foldlM_skipped fun member among => ignorable member (List.mem_append_left _ among), ok_bind, List.foldlM_cons,
          taken, ok_bind, foldlM_skipped fun member among => ignorable member (List.mem_append_right _ among)]
        rfl
      rw [decode, read, ok_bind, if_pos ends]
  · cases shown

theorem blobOf_shown {body : Octets} {data : Dict String} (shown : shownData? body = some data) :
    blobOf body = match data.find? dataKey with
      | none => .error (.missingKey dataKey)
      | some encoded => match Base64.decode? Base64.standard (Text.encode encoded) with
        | none => .error .notBase64
        | some blob => .ok blob := by
  rw [blobOf, decode_shown shown]
  rfl

theorem find?_dataOf (data : Octets) :
    (dataOf data).find? dataKey = some (Text.ascii (Base64.encode Base64.standard data)) := rfl

theorem blobOf_dataOf {body : Octets} {data : Octets} (shown : shownData? body = some (dataOf data)) :
    blobOf body = .ok data := by
  rw [blobOf_shown shown, find?_dataOf]
  simp only [Text.encode_ascii (Base64.standard_ascii data), Base64.decode?_encode Base64.standard_lawful]

end LoginGateway.ClusterSecret
