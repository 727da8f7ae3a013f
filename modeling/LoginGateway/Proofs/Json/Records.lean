import LoginGateway.Proofs.Json.Trees
import LoginGateway.Proofs.Results

namespace LoginGateway.Json

def textNode (content : String) : Node := .text (escape (Text.encode content))

def memberNode (key : String) (node : Node) : Octets × Node := (escape (Text.encode key), node)

@[simp] theorem text_textNode (content : String) : text (textNode content) = .ok content := by
  simp [text, textNode, readText?_escape]

@[simp] theorem nullable_textNode {α : Type} (decoder : Decoder α) (content : String) :
    nullable decoder (textNode content) = (decoder (textNode content)).map some := rfl

@[simp] theorem nullable_number {α : Type} (decoder : Decoder α) (numeral : Numeral) :
    nullable decoder (.number numeral) = (decoder (.number numeral)).map some := rfl

@[simp] theorem nullable_object {α : Type} (decoder : Decoder α) (members : List (Octets × Node)) (closed : Bool) :
    nullable decoder (.object members closed) = (decoder (.object members closed)).map some := rfl

theorem integerIn_ofInt {least greatest n : Int} (above : least ≤ n) (below : n ≤ greatest) :
    integerIn least greatest (.number (.ofInt n)) = .ok n := by
  simp [integerIn, toInt?_ofInt, above, below]

@[simp] theorem integer64_ofInt (n : Int64) : integer64 (.number (.ofInt n.toInt)) = .ok n := by
  have above : -0x8000000000000000 ≤ n.toInt := Int64.le_toInt n
  have below : n.toInt ≤ 0x7FFFFFFFFFFFFFFF := by
    have := Int64.toInt_lt n
    omega
  rw [integer64, integerIn_ofInt above below]
  simp

@[simp] theorem natural64_ofInt (n : UInt64) : natural64 (.number (.ofInt n.toNat)) = .ok n := by
  have below := n.toNat_lt
  rw [natural64, integerIn_ofInt (by omega) (by omega)]
  simp

@[simp] theorem readMember_memberNode {σ : Type} (other : Decoder Unit) (fields : List (RecordField σ)) (draft : σ)
    (key : String) (node : Node) :
    readMember other fields draft (memberNode key node) =
      match fields.find? (·.name == key) with
      | none => (other node).map fun _ => draft
      | some field => if field.seen draft then .error (.duplicateField key) else field.read node draft := by
  simp only [readMember, memberNode, readText?_escape]
  cases fields.find? (·.name == key) with
  | none => cases other node <;> rfl
  | some field => rfl

theorem forall₂_map {α β γ : Type} {related : β → γ → Prop} {left : α → β} {right : α → γ} {items : List α}
    (each : ∀ item ∈ items, related (left item) (right item)) :
    List.Forall₂ related (items.map left) (items.map right) := by
  rw [List.forall₂_map_left_iff, List.forall₂_map_right_iff, List.forall₂_same]
  exact each

theorem mapM_of_forall₂ {α β ε : Type} {f : α → Except ε β} {items : List α} {values : List β}
    (each : List.Forall₂ (fun item value => f item = .ok value) items values) : items.mapM f = .ok values := by
  induction each with
  | nil => rfl
  | cons first _ ih =>
    rw [List.mapM_cons, first, ih]
    rfl

theorem membersOf_forall₂ {α : Type} {decoder : Decoder α} {members : List (Octets × Node)}
    {entries : List (String × α)}
    (each : List.Forall₂ (fun member entry => readText? member.1 = some entry.1 ∧ decoder member.2 = .ok entry.2)
      members entries) : membersOf decoder (.object members true) = .ok entries := by
  rw [membersOf, mapM_of_forall₂ (each.imp ?_)]
  · rfl
  · rintro ⟨raw, node⟩ ⟨key, value⟩ ⟨named, read⟩
    simp only [named, read]
    rfl

theorem forall₂_of_mapM {α β : Type} {f : α → Option β} {items : List α} {values : List β}
    (done : items.mapM f = some values) : List.Forall₂ (fun item value => f item = some value) items values := by
  induction items generalizing values with
  | nil =>
    cases done
    exact .nil
  | cons item items ih =>
    rw [List.mapM_cons] at done
    obtain ⟨first, read, done⟩ := Option.bind_eq_some_iff.mp done
    obtain ⟨others, rest, done⟩ := Option.bind_eq_some_iff.mp done
    cases done
    exact .cons read (ih rest)

theorem of_decode_ok {α : Type} {decoder : Decoder α} {octets : Octets} {value : α}
    (done : decode decoder octets = .ok value) : decoder (parse octets).root = .ok value := by
  obtain ⟨result, read, done⟩ := of_bind_ok done
  split at done
  · cases done
    exact read
  · cases done

theorem of_membersOf_ok {α : Type} {decoder : Decoder α} {node : Node} {members : List (String × α)}
    (done : membersOf decoder node = .ok members) : ∀ member ∈ members, ∃ inner, decoder inner = .ok member.2 := by
  cases node with
  | object raw closed =>
    obtain ⟨values, read, done⟩ := of_bind_ok done
    split at done
    · cases done
      intro member held
      obtain ⟨⟨key, inner⟩, readMember⟩ := of_mapM_ok read member held
      simp only at readMember
      split at readMember
      · obtain ⟨value, readValue, same⟩ := of_bind_ok readMember
        cases same
        exact ⟨inner, readValue⟩
      · cases readMember
    · cases done
  | _ => cases done

theorem each_of_membersOf_ok {α : Type} {decoder : Decoder α} {members : List (Octets × Node)} {closed : Bool}
    {entries : List (String × α)} (done : membersOf decoder (.object members closed) = .ok entries) :
    ∀ member ∈ members, ∃ value, decoder member.2 = .ok value := by
  intro member among
  obtain ⟨values, read, -⟩ := of_bind_ok done
  obtain ⟨entry, readMember⟩ := each_of_mapM_ok read member among
  simp only at readMember
  split at readMember
  · obtain ⟨value, readValue, -⟩ := of_bind_ok readMember
    exact ⟨value, readValue⟩
  · cases readMember

theorem of_text_ok {node : Node} {content : String} (done : text node = .ok content) : ∃ raw, node = .text raw := by
  cases node with
  | text raw => exact ⟨raw, rfl⟩
  | _ => cases done

section Invariants

variable {σ α : Type} {fields : List (RecordField σ)} {kept : σ → Prop}

theorem record_object {empty : σ} {finish : σ → Except DecodeError α} (members : List (Octets × Node)) (closed : Bool) :
    record fields empty finish (.object members closed) =
      objectRecord ignored fields empty finish (.object members closed) := rfl

theorem readItems_keeps (each : ∀ field ∈ fields, ∀ node draft next, field.read node draft = .ok next →
    kept draft → kept next) {draft next : σ} {items : List Node} (done : readItems fields draft items = .ok next)
    (start : kept draft) : kept next := by
  induction fields generalizing draft items with
  | nil =>
    cases items with
    | nil => cases done; exact start
    | cons item items => cases done
  | cons field fields ih =>
    have ⟨first, others⟩ := List.forall_mem_cons.mp each
    cases items with
    | nil =>
      rw [readItems] at done
      split at done
      · exact ih others done start
      · cases done
    | cons item items =>
      obtain ⟨middle, read, done⟩ := of_bind_ok done
      exact ih others done (first item draft middle read start)

theorem readMember_keeps {other : Decoder Unit} (each : ∀ field ∈ fields, ∀ node draft next,
    field.read node draft = .ok next → kept draft → kept next) {draft next : σ} {member : Octets × Node}
    (done : readMember other fields draft member = .ok next) (start : kept draft) : kept next := by
  simp only [readMember] at done
  split at done
  · split at done
    · obtain ⟨_, -, same⟩ := of_bind_ok done
      cases same
      exact start
    · rename_i field found
      split at done
      · cases done
      · exact each field (List.mem_of_find?_eq_some found) _ draft next done start
  · cases done

theorem foldlM_keeps {ι ε : Type} {step : σ → ι → Except ε σ}
    (each : ∀ draft item next, step draft item = .ok next → kept draft → kept next) {draft next : σ}
    {items : List ι} (done : items.foldlM step draft = .ok next) (start : kept draft) : kept next := by
  induction items generalizing draft with
  | nil => cases done; exact start
  | cons item items ih =>
    rw [List.foldlM_cons] at done
    obtain ⟨middle, stepped, done⟩ := of_bind_ok done
    exact ih done (each draft item middle stepped start)

theorem objectRecord_keeps {other : Decoder Unit} {empty : σ} {finish : σ → Except DecodeError α}
    (each : ∀ field ∈ fields, ∀ node draft next, field.read node draft = .ok next → kept draft → kept next)
    (start : kept empty) {node : Node} {value : α}
    (done : objectRecord other fields empty finish node = .ok value) :
    ∃ draft, kept draft ∧ finish draft = .ok value := by
  cases node with
  | object members closed =>
    obtain ⟨draft, read, done⟩ := of_bind_ok done
    split at done
    · exact ⟨draft, foldlM_keeps (fun _ _ _ => readMember_keeps each) read start, done⟩
    · cases done
  | _ => cases done

theorem record_keeps {empty : σ} {finish : σ → Except DecodeError α}
    (each : ∀ field ∈ fields, ∀ node draft next, field.read node draft = .ok next → kept draft → kept next)
    (start : kept empty) {node : Node} {value : α} (done : record fields empty finish node = .ok value) :
    ∃ draft, kept draft ∧ finish draft = .ok value := by
  cases node with
  | list items closed =>
    obtain ⟨draft, read, done⟩ := of_bind_ok done
    split at done
    · cases finished : finish draft with
      | error error => rw [finished] at done; cases done
      | ok result =>
        rw [finished] at done
        cases done
        exact ⟨draft, readItems_keeps each read start, finished⟩
    · cases done
  | object members closed =>
    rw [record_object] at done
    exact objectRecord_keeps each start done
  | _ => cases done

end Invariants

section Views

variable {σ ρ α : Type} {view : σ → ρ} {draft other : σ}

theorem map_read_field {name : String} {optional : Bool} {decoder : Decoder α} {get : σ → Option α}
    {set : σ → α → σ} (kept : ∀ value, view (set draft value) = view (set other value)) {node : Node} :
    ((field name optional decoder get set).read node draft).map view =
      ((field name optional decoder get set).read node other).map view := by
  simp only [field]
  cases decoder node with
  | error error => rfl
  | ok value => exact congrArg Except.ok (kept value)

theorem foldlM_view {ι ε : Type} {step : σ → ι → Except ε σ} {alike : ι → ι → Prop}
    (each : ∀ draft other item item', alike item item' → view draft = view other →
      (step draft item).map view = (step other item').map view)
    {items items' : List ι} (matched : List.Forall₂ alike items items') {draft other : σ}
    (start : view draft = view other) :
    (items.foldlM step draft).map view = (items'.foldlM step other).map view := by
  induction matched generalizing draft other with
  | nil => exact congrArg Except.ok start
  | @cons item item' items items' first _ ih =>
    rw [List.foldlM_cons, List.foldlM_cons]
    rcases of_map_eq (each draft other item item' first start) with
      ⟨error, failed, failed'⟩ | ⟨next, next', read, read', same⟩
    · rw [failed, failed']
      rfl
    · rw [read, read', ok_bind, ok_bind]
      exact ih same

theorem readMember_view {ignore : Decoder Unit} {fields : List (RecordField σ)}
    (seen : ∀ field ∈ fields, field.seen draft = field.seen other) {member : Octets × Node}
    (read : ∀ field ∈ fields, (field.read member.2 draft).map view = (field.read member.2 other).map view)
    (start : view draft = view other) :
    (readMember ignore fields draft member).map view = (readMember ignore fields other member).map view := by
  unfold readMember
  split
  · rename_i key _
    split
    · cases ignore member.2 with
      | error error => rfl
      | ok _ => exact congrArg Except.ok start
    · rename_i field found
      have among := List.mem_of_find?_eq_some found
      rw [seen field among]
      split
      · rfl
      · exact read field among
  · rfl

theorem readItems_view {fields : List (RecordField σ)}
    (read : ∀ field ∈ fields, ∀ (draft other : σ) node, view draft = view other →
      (field.read node draft).map view = (field.read node other).map view)
    (start : view draft = view other) (items : List Node) :
    (readItems fields draft items).map view = (readItems fields other items).map view := by
  induction fields generalizing draft other items with
  | nil =>
    cases items with
    | nil => exact congrArg Except.ok start
    | cons item items => rfl
  | cons field fields ih =>
    have ⟨first, others⟩ := List.forall_mem_cons.mp read
    cases items with
    | nil =>
      simp only [readItems]
      split
      · exact ih others start []
      · rfl
    | cons item items =>
      exact map_bind_eq (first draft other item start) fun next next' same => ih others same items

end Views

end LoginGateway.Json
