import LoginGateway.Proofs.Json.Layout
import LoginGateway.Proofs.Json.MemberOrder
import LoginGateway.Proofs.Time.Rfc3339
import LoginGateway.Store.Snapshot

namespace LoginGateway

open Json

namespace Json

variable {σ α : Type}

def Stranger (names : List String) (member : Octets × Node) : Prop :=
  (∃ key, readText? member.1 = some key ∧ key ∉ names) ∧ ∃ content, member.2.text? = some content

inductive Member (name : String) (value : Node → Prop) (idle : Prop) : List (Octets × Node) → Prop
  | present {node : Node} (stands : value node) : Member name value idle [memberNode name node]
  | absent (tellsNothing : idle) : Member name value idle []

/-- An object of these members, with strangers among them, in any order. -/
inductive Arranged (names : List String) (own : List (Octets × Node)) : Node → Prop
  | object {strangers members : List (Octets × Node)} (others : ∀ member ∈ strangers, Stranger names member)
      (permuted : (own ++ strangers).Perm members) : Arranged names own (.object members true)

theorem arranged_self (names : List String) (own : List (Octets × Node)) : Arranged names own (.object own true) := by
  have nobody : ∀ member ∈ ([] : List (Octets × Node)), Stranger names member := nofun
  exact .object nobody (by rw [List.append_nil])

def optionalNode : Option String → Node
  | some content => textNode content
  | none => .null

theorem Member.read {name : String} {optional : Bool} {decoder : Decoder α} {get : σ → Option α} {set : σ → α → σ}
    {value : Node → Prop} {idle : Prop} {members : List (Octets × Node)} (member : Member name value idle members)
    (ignore : Decoder Unit) {fields : List (RecordField σ)} {content : α} (default : α)
    (known : fields.find? (·.name == name) = some (field name optional decoder get set))
    (stands : ∀ node, value node → decoder node = .ok content) (lacks : idle → content = default) :
    ∃ read : Option α, read.getD default = content ∧ (read = none → idle) ∧
      ∀ draft, get draft = none →
        members.foldlM (readMember ignore fields) draft = .ok (read.elim draft (set draft)) := by
  cases member with
  | @present node held =>
    refine ⟨some content, rfl, nofun, fun draft unseen => ?_⟩
    have unread : (field name optional decoder get set).seen draft = false := by simp [field, unseen]
    have done : (field name optional decoder get set).read node draft = .ok (set draft content) := by
      simp [field, stands node held]
    rw [List.foldlM_cons, readMember_memberNode, known]
    simp [unread, done]
  | absent tellsNothing => exact ⟨none, (lacks tellsNothing).symm, fun _ => tellsNothing, fun _ _ => rfl⟩

theorem Stranger.skipped {fields : List (RecordField σ)} {member : Octets × Node}
    (stranger : Stranger (fields.map (·.name)) member) {ignore : Decoder Unit}
    (ignores : ∀ node content, node.text? = some content → ignore node = .ok ()) :
    ignore member.2 = .ok () ∧ ∃ key, readText? member.1 = some key ∧ fields.find? (·.name == key) = none := by
  obtain ⟨⟨key, named, other⟩, content, text⟩ := stranger
  refine ⟨ignores _ content text, key, named, ?_⟩
  rw [List.find?_eq_none]
  intro field among same
  exact other (List.mem_map.mpr ⟨field, among, eq_of_beq same⟩)

theorem Arranged.read_object {fields : List (RecordField σ)} (lawful : Lawful fields) {own : List (Octets × Node)}
    {node : Node} (arranged : Arranged (fields.map (·.name)) own node) {ignore : Decoder Unit}
    (ignores : ∀ node content, node.text? = some content → ignore node = .ok ()) {empty draft : σ}
    (read : own.foldlM (readMember ignore fields) empty = .ok draft) (finish : σ → Except DecodeError α) :
    objectRecord ignore fields empty finish node = finish draft := by
  obtain @⟨strangers, members, others, permuted⟩ := arranged
  -- the draft is that of the own members, and the strangers after them leave it as it is
  have inOrder : (own ++ strangers).foldlM (readMember ignore fields) empty = .ok draft := by
    rw [List.foldlM_append, read, ok_bind]
    exact foldlM_skipped (fun member among => (others member among).skipped ignores) draft
  rw [objectRecord, lawful.foldlM_perm permuted inOrder]
  rfl

theorem ignored_text (node : Node) (content : String) (text : node.text? = some content) : ignored node = .ok () := by
  cases node with
  | text raw => rfl
  | _ => cases text

theorem Arranged.read_record {fields : List (RecordField σ)} (lawful : Lawful fields) {own : List (Octets × Node)}
    {node : Node} (arranged : Arranged (fields.map (·.name)) own node) {empty draft : σ}
    (read : own.foldlM (readMember ignored fields) empty = .ok draft) (finish : σ → Except DecodeError α) :
    record fields empty finish node = finish draft := by
  have object : record fields empty finish node = objectRecord ignored fields empty finish node := by
    cases arranged
    exact record_object _ _
  rw [object]
  exact arranged.read_object lawful ignored_text read finish

end Json

namespace Credential

def Valid (credential : Credential) : Prop := ∀ expiry ∈ credential.expiry, expiry.Valid

instance (credential : Credential) : Decidable credential.Valid := by unfold Valid; infer_instance

def OnMinute (credential : Credential) : Prop := ∀ expiry ∈ credential.expiry, expiry.OnMinute

instance (credential : Credential) : Decidable credential.OnMinute := by unfold OnMinute; infer_instance

def asWritten (credential : Credential) : Credential :=
  { credential with expiry := credential.expiry.map Instant.asWritten }

theorem asWritten_of_onMinute {credential : Credential} (whole : credential.OnMinute) :
    credential.asWritten = credential := by
  obtain ⟨accessToken, tokenType, refreshToken, expiry⟩ := credential
  cases expiry with
  | none => rfl
  | some expiry => simp [asWritten, Instant.asWritten_of_onMinute (whole expiry rfl)]

/-- A credential, with what it lacks left out or said to be lacking. -/
inductive Form (credential : Credential) : Node → Prop
  | object {access kind refresh expiry : List (Octets × Node)} {node : Node}
      (accessed : Member "access_token" (· = textNode credential.accessToken) False access)
      (typed : Member "token_type" (· = textNode credential.tokenType) (credential.tokenType = "") kind)
      (refreshed : Member "refresh_token" (· = optionalNode credential.refreshToken) (credential.refreshToken = none)
        refresh)
      (expires : Member "expiry" (· = optionalNode (credential.expiry.map Rfc3339.print)) (credential.expiry = none)
        expiry)
      (arranged : Arranged (Credential.fields.map (·.name)) (access ++ kind ++ refresh ++ expiry) node) :
      Form credential node

theorem lawful : Lawful fields where
  marks := by
    simp only [fields, List.forall_mem_cons]
    exact ⟨marks_field fun _ _ => rfl, marks_field fun _ _ => rfl, marks_field fun _ _ => rfl,
      marks_field fun _ _ => rfl, nofun⟩
  independent := by
    simp only [fields, List.pairwise_cons, List.forall_mem_cons]
    refine ⟨⟨?_, ?_, ?_, nofun⟩, ⟨?_, ?_, nofun⟩, ⟨?_, nofun⟩, nofun, .nil⟩ <;>
      exact independent_field (fun _ _ => rfl) (fun _ _ => rfl) fun _ _ _ => rfl

theorem timestamp_print {instant : Instant} (valid : instant.Valid) :
    timestamp (textNode (Rfc3339.print instant)) = .ok instant.asWritten := by
  rw [timestamp, text_textNode]
  simp [Rfc3339.parse?_print valid]

theorem nullable_optionalNode (token : Option String) : nullable text (optionalNode token) = .ok token := by
  cases token with
  | none => rfl
  | some token => simp [optionalNode]

theorem nullable_timestamp {expiry : Option Instant} (valid : ∀ instant ∈ expiry, instant.Valid) :
    nullable timestamp (optionalNode (expiry.map Rfc3339.print)) = .ok (expiry.map Instant.asWritten) := by
  cases expiry with
  | none => rfl
  | some instant => simp [optionalNode, timestamp_print (valid instant rfl)]

theorem Form.read {credential : Credential} {node : Node} (form : credential.Form node) (valid : credential.Valid) :
    decoder node = .ok credential.asWritten := by
  obtain @⟨ownAccess, ownKind, ownRefresh, ownExpiry, node, accessed, typed, refreshed, expires, arranged⟩ := form
  obtain ⟨access, isAccess, needed, readAccess⟩ := accessed.read ignored "" (rfl : fields.find? _ = _)
    (fun _ held => held ▸ text_textNode _) False.elim
  obtain ⟨kind, isKind, -, readKind⟩ := typed.read ignored "" (rfl : fields.find? _ = _)
    (fun _ held => held ▸ text_textNode _) id
  obtain ⟨refresh, isRefresh, -, readRefresh⟩ := refreshed.read ignored none (rfl : fields.find? _ = _)
    (fun _ held => held ▸ nullable_optionalNode _) id
  obtain ⟨expiry, isExpiry, -, readExpiry⟩ := expires.read ignored none (rfl : fields.find? _ = _)
    (fun _ held => held ▸ nullable_timestamp valid) (congrArg (Option.map Instant.asWritten))
  obtain ⟨accessToken, tokenType, refreshToken, expires⟩ := credential
  have own : (ownAccess ++ ownKind ++ ownRefresh ++ ownExpiry).foldlM (readMember ignored fields) {} =
      .ok ⟨access, kind, refresh, expiry⟩ := by
    rw [List.foldlM_append, List.foldlM_append, List.foldlM_append, readAccess _ rfl, ok_bind, readKind, ok_bind,
      readRefresh, ok_bind, readExpiry]
    -- each of the four members is there or left out
    all_goals cases access <;> cases kind <;> cases refresh <;> cases expiry <;> rfl
  rw [decoder, arranged.read_record lawful own]
  cases access with
  | none => exact (needed rfl).elim
  | some access =>
    cases isAccess
    cases isKind
    cases isRefresh
    rw [asWritten, ← isExpiry]
    rfl

end Credential

inductive Dict.Form {α : Type} (value : α → Node → Prop) (dict : Dict α) : Node → Prop
  | object {entries : List (String × α)} {members : List (Octets × Node)} (permuted : entries.Perm dict.entries)
      (each : List.Forall₂ (fun entry member => member.1 = escape (Text.encode entry.1) ∧ value entry.2 member.2)
        entries members) : Form value dict (.object members true)
  | null (nothing : dict = .empty) : Form value dict .null

theorem Dict.form_entries {α : Type} {value : α → Node → Prop} {node : α → Node} {dict : Dict α}
    {entries : List (String × α)} (permuted : entries.Perm dict.entries)
    (each : ∀ entry ∈ entries, value entry.2 (node entry.2)) :
    dict.Form value (.object (entries.map fun entry => memberNode entry.1 (node entry.2)) true) := by
  refine .object permuted ?_
  rw [List.forall₂_map_right_iff, List.forall₂_same]
  exact fun entry member => ⟨rfl, each entry member⟩

theorem Dict.Form.read {α β : Type} {value : α → Node → Prop} {dict : Dict α} {node : Node}
    (form : dict.Form value node) {decoder : Decoder β} {f : α → β}
    (reads : ∀ entry ∈ dict.entries, ∀ node, value entry.2 node → decoder node = .ok (f entry.2)) :
    TokenIndex.mapDecoder decoder node = .ok (dict.map f) := by
  cases form with
  | null nothing =>
    rw [nothing]
    rfl
  | @object entries members permuted each =>
    have among : ∀ entry ∈ entries, ∀ node, value entry.2 node → decoder node = .ok (f entry.2) :=
      fun entry member => reads entry (permuted.subset member)
    have mapped : (entries.map fun entry => (entry.1, f entry.2)).Perm (dict.map f).entries := permuted.map _
    have readable : List.Forall₂
        (fun member entry => readText? member.1 = some entry.1 ∧ decoder member.2 = .ok entry.2) members
        (entries.map fun entry => (entry.1, f entry.2)) := by
      clear permuted mapped
      induction each with
      | nil => exact .nil
      | cons first _ ih =>
        obtain ⟨reads, others⟩ := List.forall_mem_cons.mp among
        exact .cons ⟨by rw [first.1, readText?_escape], reads _ first.2⟩ (ih others)
    rw [TokenIndex.mapDecoder, nullable_object, membersOf_forall₂ readable]
    simp [Dict.ofList_of_perm mapped]

theorem Dict.Form.read_texts {dict : Dict String} {node : Node}
    (form : dict.Form (fun content node => node = textNode content) node) :
    TokenIndex.mapDecoder text node = .ok dict := by
  have read := form.read (f := id) fun entry _ node same => same ▸ text_textNode entry.2
  rwa [Dict.map_eq_self fun _ _ => rfl] at read

namespace Snapshot

def Valid (snapshot : Snapshot) : Prop := ∀ entry ∈ snapshot.users.entries, entry.2.Valid

instance (snapshot : Snapshot) : Decidable snapshot.Valid := by unfold Valid; infer_instance

def OnMinute (snapshot : Snapshot) : Prop := ∀ entry ∈ snapshot.users.entries, entry.2.OnMinute

instance (snapshot : Snapshot) : Decidable snapshot.OnMinute := by unfold OnMinute; infer_instance

/-- The state that the text of a state tells: it is the same but for leap seconds within a minute. -/
def asWritten (snapshot : Snapshot) : Snapshot := { snapshot with users := snapshot.users.map Credential.asWritten }

theorem asWritten_of_onMinute {snapshot : Snapshot} (whole : snapshot.OnMinute) : snapshot.asWritten = snapshot := by
  obtain ⟨index, users⟩ := snapshot
  simp only [asWritten, mk.injEq, true_and]
  exact Dict.map_eq_self fun entry member => Credential.asWritten_of_onMinute (whole entry member)

/-- A state, with its empty maps left out or as null. -/
inductive Form (snapshot : Snapshot) : Node → Prop
  | object {names tokens users : List (Octets × Node)} {node : Node}
      (named : Member "names" (snapshot.index.names.Form fun content node => node = textNode content)
        (snapshot.index.names = .empty) names)
      (held : Member "tokens" (snapshot.index.tokens.Form fun content node => node = textNode content)
        (snapshot.index.tokens = .empty) tokens)
      (known : Member "users" (snapshot.users.Form Credential.Form) (snapshot.users = .empty) users)
      (arranged : Arranged (Snapshot.fields.map (·.name)) (names ++ tokens ++ users) node) : Form snapshot node

def Rendered (snapshot : Snapshot) (data : Octets) : Prop := ∃ node, snapshot.Form node ∧ node.Text data

theorem indexField_field {α : Type} (name : String) (optional : Bool) (decoder : Decoder α)
    (get : TokenIndex.Draft → Option α) (set : TokenIndex.Draft → α → TokenIndex.Draft) :
    indexField (field name optional decoder get set) =
      field name optional decoder (fun draft => get draft.index) fun draft value =>
        { draft with index := set draft.index value } := by
  simp only [indexField, field, RecordField.mk.injEq, true_and]
  funext node draft
  cases decoder node <;> rfl

theorem fields_eq : fields =
    [field "names" true (TokenIndex.mapDecoder text) (·.index.names) fun draft value =>
        { draft with index := { draft.index with names := some value } },
     field "tokens" true (TokenIndex.mapDecoder text) (·.index.tokens) fun draft value =>
        { draft with index := { draft.index with tokens := some value } },
     field "users" true (TokenIndex.mapDecoder Credential.decoder) (·.users) fun draft value =>
        { draft with users := some value }] := by
  simp only [fields, TokenIndex.fields, List.map_cons, List.map_nil, indexField_field, List.cons_append,
    List.nil_append]

theorem lawful : Lawful fields := by
  rw [fields_eq]
  constructor
  · simp only [List.forall_mem_cons]
    exact ⟨marks_field fun _ _ => rfl, marks_field fun _ _ => rfl, marks_field fun _ _ => rfl, nofun⟩
  · simp only [List.pairwise_cons, List.forall_mem_cons]
    refine ⟨⟨?_, ?_, nofun⟩, ⟨?_, nofun⟩, nofun, .nil⟩ <;>
      exact independent_field (fun _ _ => rfl) (fun _ _ => rfl) fun _ _ _ => rfl

theorem otherMember_text (node : Node) (content : String) (text : node.text? = some content) :
    otherMember node = .ok () := by
  cases node with
  | text raw =>
    have read : readText? raw = some content := text
    simp [otherMember, Node.value, read]
  | _ => cases text

theorem Form.read {snapshot : Snapshot} {node : Node} (form : snapshot.Form node) (valid : snapshot.Valid) :
    decoder node = .ok snapshot.asWritten := by
  obtain @⟨ownNames, ownTokens, ownUsers, node, named, held, known, arranged⟩ := form
  obtain ⟨names, isNames, -, readNames⟩ := named.read otherMember .empty (congrArg (List.find? _) fields_eq)
    (fun _ form => form.read_texts) id
  obtain ⟨tokens, isTokens, -, readTokens⟩ := held.read otherMember .empty (congrArg (List.find? _) fields_eq)
    (fun _ form => form.read_texts) id
  obtain ⟨users, isUsers, -, readUsers⟩ := known.read otherMember .empty (congrArg (List.find? _) fields_eq)
    (fun _ form => form.read fun entry among _ form => form.read (valid entry among))
    (congrArg (Dict.map Credential.asWritten))
  obtain ⟨⟨allNames, allTokens⟩, allUsers⟩ := snapshot
  have own : (ownNames ++ ownTokens ++ ownUsers).foldlM (readMember otherMember fields) {} =
      .ok ⟨⟨names, tokens⟩, users⟩ := by
    rw [List.foldlM_append, List.foldlM_append, readNames _ rfl, ok_bind, readTokens, ok_bind, readUsers]
    all_goals cases names <;> cases tokens <;> cases users <;> rfl
  rw [decoder, arranged.read_object lawful otherMember_text own]
  cases isNames
  cases isTokens
  rw [isUsers]
  rfl

theorem Rendered.ofJson? {snapshot : Snapshot} {data : Octets} (rendered : snapshot.Rendered data)
    (valid : snapshot.Valid) : Snapshot.ofJson? data = some snapshot.asWritten := by
  obtain ⟨node, form, text⟩ := rendered
  rw [Snapshot.ofJson?, text.decode decoder, form.read valid]
  rfl

theorem Rendered.ofJson?_self {snapshot : Snapshot} {data : Octets} (rendered : snapshot.Rendered data)
    (valid : snapshot.Valid) (whole : snapshot.OnMinute) : Snapshot.ofJson? data = some snapshot := by
  rw [rendered.ofJson? valid, asWritten_of_onMinute whole]

end Snapshot

end LoginGateway
