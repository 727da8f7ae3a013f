import LoginGateway.Proofs.Json.Records

namespace LoginGateway.Json

inductive Whole : Node → Prop
  | null : Whole .null
  | bool (value : Bool) : Whole (.bool value)
  | number (numeral : Numeral) : Whole (.number numeral)
  | text (raw : Octets) : Whole (.text raw)
  | list {items : List Node} (each : ∀ item ∈ items, Whole item) : Whole (.list items true)
  | object {members : List (Octets × Node)} (each : ∀ member ∈ members, Whole member.2) : Whole (.object members true)

theorem Whole.complete {node : Node} (whole : Whole node) : node.complete = true := by
  cases whole <;> rfl

theorem Whole.ignored {node : Node} (whole : Whole node) : ignored node = .ok () := by
  rw [Json.ignored, whole.complete]
  rfl

def Frame.Whole : Frame → Prop
  | .list items => ∀ item ∈ items, Json.Whole item
  | .object members _ => ∀ member ∈ members, Json.Whole member.2

def Expected.Whole : Expected → Prop
  | .value _ => True
  | .colon => True
  | .key members _ => ∀ member ∈ members, Json.Whole member.2
  | .separator node => Json.Whole node
  | .nothing root => Json.Whole root

structure Builder.Whole (builder : Builder) : Prop where
  frames : ∀ frame ∈ builder.frames, frame.Whole
  expected : builder.expected.Whole

namespace Builder

theorem Whole.fail {builder : Builder} (whole : builder.Whole) : builder.fail.Whole := ⟨whole.frames, whole.expected⟩

theorem whole_place {frames : List Frame} {value : Node} (around : ∀ frame ∈ frames, frame.Whole)
    (whole : Json.Whole value) : (place frames value).Whole := by
  unfold place
  split
  · exact Builder.Whole.mk nofun whole
  · exact Builder.Whole.mk around whole

variable {builder : Builder}

theorem Whole.takeValue (whole : builder.Whole) (first : Bool) (token : Token) :
    (builder.takeValue first token).Whole := by
  cases token with
  | null => exact whole_place whole.frames .null
  | bool value => exact whole_place whole.frames (.bool value)
  | number numeral => exact whole_place whole.frames (.number numeral)
  | text raw => exact whole_place whole.frames (.text raw)
  | openList => exact ⟨List.forall_mem_cons.mpr ⟨nofun, whole.frames⟩, trivial⟩
  | openObject => exact ⟨whole.frames, nofun⟩
  | closeList =>
    have frames := whole.frames
    unfold Builder.takeValue
    dsimp only
    split
    · rename_i items outer around
      rw [around] at frames
      obtain ⟨inner, outer⟩ := List.forall_mem_cons.mp frames
      exact whole_place outer (.list fun item member => inner item (List.mem_reverse.mp member))
    · exact whole.fail
  | _ => exact whole.fail

theorem Whole.takeKey (whole : builder.Whole) {members : List (Octets × Node)}
    (read : ∀ member ∈ members, Json.Whole member.2) (first : Bool) (token : Token) :
    (builder.takeKey members first token).Whole := by
  cases token with
  | text raw => exact ⟨List.forall_mem_cons.mpr ⟨read, whole.frames⟩, trivial⟩
  | closeObject =>
    rw [Builder.takeKey]
    split
    · exact whole_place whole.frames (.object fun member among => read member (List.mem_reverse.mp among))
    · exact whole.fail
  | _ => exact whole.fail

theorem Whole.takeSeparator (whole : builder.Whole) {value : Node} (read : Json.Whole value) (token : Token) :
    (builder.takeSeparator value token).Whole := by
  have frames := whole.frames
  cases token with
  | comma =>
    rw [Builder.takeSeparator]
    split
    · rename_i items outer around
      rw [around] at frames
      obtain ⟨inner, outer⟩ := List.forall_mem_cons.mp frames
      exact ⟨List.forall_mem_cons.mpr ⟨List.forall_mem_cons.mpr ⟨read, inner⟩, outer⟩, trivial⟩
    · rename_i members key outer around
      rw [around] at frames
      obtain ⟨inner, outer⟩ := List.forall_mem_cons.mp frames
      exact ⟨outer, List.forall_mem_cons.mpr ⟨read, inner⟩⟩
    · exact whole.fail
  | closeList =>
    rw [Builder.takeSeparator]
    split
    · rename_i items outer around
      rw [around] at frames
      obtain ⟨inner, outer⟩ := List.forall_mem_cons.mp frames
      have each := List.forall_mem_cons.mpr ⟨read, inner⟩
      exact whole_place outer (.list fun item member => each item (List.mem_reverse.mp member))
    · exact whole.fail
  | closeObject =>
    rw [Builder.takeSeparator]
    split
    · rename_i members key outer around
      rw [around] at frames
      obtain ⟨inner, outer⟩ := List.forall_mem_cons.mp frames
      have each : ∀ member ∈ (key, value) :: members, Json.Whole member.2 := List.forall_mem_cons.mpr ⟨read, inner⟩
      exact whole_place outer (.object fun member among => each member (List.mem_reverse.mp among))
    · exact whole.fail
  | _ => exact whole.fail

theorem Whole.step (whole : builder.Whole) (token : Token) : (builder.step token).Whole := by
  have expected := whole.expected
  unfold Builder.step
  -- What is awaited tells who takes the token, and what has been read and is in no frame yet.
  split
  · exact whole
  · split <;> rename_i awaited
    · exact whole.takeValue _ token
    · rw [awaited] at expected
      exact whole.takeKey expected _ token
    · split
      · exact ⟨whole.frames, trivial⟩
      · exact whole.fail
    · rw [awaited] at expected
      exact whole.takeSeparator expected token
    · exact whole.fail

theorem Whole.run (whole : builder.Whole) (tokens : List Token) : (tokens.foldl Builder.step builder).Whole := by
  induction tokens generalizing builder with
  | nil => exact whole
  | cons token tokens ih => exact ih (whole.step token)

end Builder

theorem whole_of_parse {text : Octets} (ends : (parse text).ends = true) : Whole (parse text).root := by
  have start : Builder.Whole ⟨[], .value true, false⟩ := Builder.Whole.mk nofun trivial
  have whole := start.run (tokenize text)
  have expected := whole.expected
  rw [parse, build, Builder.finish] at ends ⊢
  split at ends
  · rename_i root read
    rw [read] at expected
    exact expected
  all_goals cases ends

def Node.member? (name : String) : Node → Option Node
  | .object members true =>
    if members.all fun member => (readText? member.1).isSome then
      match members.filter fun member => readText? member.1 == some name with
      | [(_, node)] => some node
      | _ => none
    else none
  | _ => none

def Node.text? : Node → Option String
  | .text raw => readText? raw
  | _ => none

def Node.texts? : Node → Option (List (String × String))
  | .object members true => members.mapM fun (raw, node) => do
    let key ← readText? raw
    let content ← node.text?
    return (key, content)
  | _ => none

theorem of_member? {name : String} {node value : Node} (found : node.member? name = some value) :
    ∃ before raw after, node = .object (before ++ (raw, value) :: after) true ∧ readText? raw = some name ∧
      ∀ other ∈ before ++ after, ∃ key, readText? other.1 = some key ∧ key ≠ name := by
  unfold Node.member? at found
  split at found
  · rename_i members
    split at found
    · rename_i legible
      split at found
      · rename_i raw node only
        cases found
        obtain ⟨before, after, parts, none, named, nothing⟩ := List.filter_eq_cons_iff.mp only
        refine ⟨before, raw, after, by rw [parts], by simpa using named, fun other member => ?_⟩
        have unlike : ¬(readText? other.1 == some name) = true := by
          rcases List.mem_append.mp member with earlier | later
          · exact none other earlier
          · exact List.filter_eq_nil_iff.mp nothing other later
        have among : other ∈ members := by
          rw [parts]
          rcases List.mem_append.mp member with earlier | later
          · exact List.mem_append_left _ earlier
          · exact List.mem_append_right _ (List.mem_cons_of_mem _ later)
        obtain ⟨key, read⟩ := Option.isSome_iff_exists.mp (List.all_eq_true.mp legible other among)
        refine ⟨key, read, ?_⟩
        rintro rfl
        exact unlike (by simp [read])
      · cases found
    · cases found
  · cases found

theorem text_of_text? {node : Node} {content : String} (read : node.text? = some content) :
    text node = .ok content := by
  cases node with
  | text raw =>
    have read : readText? raw = some content := read
    rw [text, read]
  | _ => cases read

theorem membersOf_texts? {node : Node} {texts : List (String × String)} (read : node.texts? = some texts) :
    membersOf text node = .ok texts := by
  unfold Node.texts? at read
  split at read
  · refine membersOf_forall₂ ((forall₂_of_mapM read).imp ?_)
    rintro ⟨raw, node⟩ ⟨key, content⟩ pair
    obtain ⟨key, named, pair⟩ := Option.bind_eq_some_iff.mp pair
    obtain ⟨content, holds, pair⟩ := Option.bind_eq_some_iff.mp pair
    cases pair
    exact ⟨named, text_of_text? holds⟩
  · cases read

theorem foldlM_skipped {σ : Type} {ignore : Decoder Unit} {fields : List (RecordField σ)}
    {members : List (Octets × Node)}
    (others : ∀ member ∈ members, ignore member.2 = .ok () ∧
      ∃ key, readText? member.1 = some key ∧ fields.find? (·.name == key) = none) (draft : σ) :
    members.foldlM (readMember ignore fields) draft = .ok draft := by
  induction members with
  | nil => rfl
  | cons member members ih =>
    obtain ⟨⟨ignored, key, named, unknown⟩, rest⟩ := List.forall_mem_cons.mp others
    have skipped : readMember ignore fields draft member = .ok draft := by
      simp only [readMember, named, unknown, ignored]
      rfl
    rw [List.foldlM_cons, skipped]
    exact ih rest

end LoginGateway.Json
