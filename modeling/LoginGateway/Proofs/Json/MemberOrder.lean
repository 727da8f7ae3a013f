import LoginGateway.Proofs.Json.Records
import Mathlib.Data.List.Pairwise

namespace LoginGateway

/-- A fold that comes to an end comes to the same end in any order of its items, if any two can be exchanged. -/
theorem foldlM_perm {σ ι ε : Type} {step : σ → ι → Except ε σ}
    (exchange : ∀ draft first second middle last, step draft first = .ok middle → step middle second = .ok last →
      ∃ between, step draft second = .ok between ∧ step between first = .ok last)
    {items others : List ι} (permuted : items.Perm others) {draft last : σ}
    (read : items.foldlM step draft = .ok last) : others.foldlM step draft = .ok last := by
  induction permuted generalizing draft with
  | nil => exact read
  | cons item _ ih =>
    rw [List.foldlM_cons] at read ⊢
    obtain ⟨middle, first, rest⟩ := of_bind_ok read
    rw [first, ok_bind]
    exact ih rest
  | swap first second items =>
    rw [List.foldlM_cons] at read
    obtain ⟨middle, before, read⟩ := of_bind_ok read
    rw [List.foldlM_cons] at read
    obtain ⟨next, after, rest⟩ := of_bind_ok read
    obtain ⟨between, sooner, later⟩ := exchange _ _ _ _ _ before after
    rw [List.foldlM_cons, sooner, ok_bind, List.foldlM_cons, later, ok_bind]
    exact rest
  | trans _ _ ih ih' => exact ih' (ih read)

namespace Json

variable {σ α β : Type}

namespace RecordField

def Marks (field : RecordField σ) : Prop :=
  ∀ node draft next, field.read node draft = .ok next → field.seen next = true

structure Passes (field other : RecordField σ) : Prop where
  untold : ∀ node draft next, field.read node draft = .ok next → other.seen next = other.seen draft
  later : ∀ node node' draft middle last, field.read node draft = .ok middle → other.read node' middle = .ok last →
    ∃ between, other.read node' draft = .ok between ∧ field.read node between = .ok last

def Independent (field other : RecordField σ) : Prop := field.Passes other ∧ other.Passes field

instance : Std.Symm (Independent (σ := σ)) := ⟨fun _ _ independent => ⟨independent.2, independent.1⟩⟩

end RecordField

section Fields

variable {name name' : String} {optional optional' : Bool} {decoder : Decoder α} {decoder' : Decoder β}
  {get : σ → Option α} {get' : σ → Option β} {set : σ → α → σ} {set' : σ → β → σ}

theorem marks_field (gets : ∀ draft value, get (set draft value) = some value) :
    (field name optional decoder get set).Marks := by
  intro node draft next read
  obtain ⟨value, -, rfl⟩ := of_map_ok read
  exact congrArg Option.isSome (gets draft value)

theorem passes_field (keeps : ∀ draft value, get' (set draft value) = get' draft)
    (exchange : ∀ draft value value', set' (set draft value) value' = set (set' draft value') value) :
    (field name optional decoder get set).Passes (field name' optional' decoder' get' set') where
  untold node draft next read := by
    obtain ⟨value, -, rfl⟩ := of_map_ok read
    exact congrArg Option.isSome (keeps draft value)
  later node node' draft middle last first second := by
    obtain ⟨value, decoded, rfl⟩ := of_map_ok first
    obtain ⟨value', decoded', rfl⟩ := of_map_ok second
    refine ⟨set' draft value', ?_, ?_⟩
    · simp only [field, decoded', map_ok]
    · simp only [field, decoded, map_ok, exchange]

theorem independent_field (keeps : ∀ draft value, get' (set draft value) = get' draft)
    (keeps' : ∀ draft value, get (set' draft value) = get draft)
    (exchange : ∀ draft value value', set' (set draft value) value' = set (set' draft value') value) :
    (field name optional decoder get set).Independent (field name' optional' decoder' get' set') :=
  ⟨passes_field keeps exchange, passes_field keeps' fun draft value value' => (exchange draft value' value).symm⟩

end Fields

structure Lawful (fields : List (RecordField σ)) : Prop where
  marks : ∀ field ∈ fields, field.Marks
  independent : fields.Pairwise RecordField.Independent

inductive Takes (ignore : Decoder Unit) (fields : List (RecordField σ)) (draft : σ) (member : Octets × Node) : σ → Prop
  | stranger {key : String} (named : readText? member.1 = some key)
      (unknown : fields.find? (·.name == key) = none) (ignored : ignore member.2 = .ok ()) :
      Takes ignore fields draft member draft
  | field {key : String} {field : RecordField σ} {next : σ} (named : readText? member.1 = some key)
      (known : fields.find? (·.name == key) = some field) (unseen : field.seen draft = false)
      (read : field.read member.2 draft = .ok next) : Takes ignore fields draft member next

variable {ignore : Decoder Unit} {fields : List (RecordField σ)} {draft next last : σ} {member : Octets × Node}
  {members others : List (Octets × Node)}

theorem readMember_ok_iff :
    readMember ignore fields draft member = .ok next ↔ Takes ignore fields draft member next := by
  constructor
  · intro read
    unfold readMember at read
    split at read
    · rename_i key named
      split at read
      · rename_i unknown
        obtain ⟨_, ignored, same⟩ := of_bind_ok read
        cases same
        exact .stranger named unknown ignored
      · rename_i field known
        split at read
        · cases read
        · rename_i unseen
          exact .field named known (eq_false_of_ne_true unseen) read
    · cases read
  · intro taken
    cases taken with
    | stranger named unknown ignored =>
      simp only [readMember, named, unknown, ignored]
      rfl
    | field named known unseen read =>
      simp only [readMember, named, known, unseen, read]
      rfl

theorem name_of_find? {key : String} {field : RecordField σ} (known : fields.find? (·.name == key) = some field) :
    field.name = key :=
  eq_of_beq (List.find?_some known :)

theorem Lawful.independent_of_ne (lawful : Lawful fields) {first second : RecordField σ} (isFirst : first ∈ fields)
    (isSecond : second ∈ fields) (different : first.name ≠ second.name) : first.Independent second :=
  lawful.independent.forall isFirst isSecond fun same => different (congrArg RecordField.name same)

theorem Takes.exchange (lawful : Lawful fields) {first second : Octets × Node} {middle : σ}
    (before : Takes ignore fields draft first middle) (after : Takes ignore fields middle second last) :
    ∃ between, Takes ignore fields draft second between ∧ Takes ignore fields between first last := by
  cases before with
  | stranger named unknown ignored => exact ⟨last, after, .stranger named unknown ignored⟩
  | @field key field _ named known unseen read =>
    cases after with
    | stranger named' unknown' ignored' =>
      exact ⟨draft, .stranger named' unknown' ignored', .field named known unseen read⟩
    | @field key' field' _ named' known' unseen' read' =>
      have among := List.mem_of_find?_eq_some known
      have among' := List.mem_of_find?_eq_some known'
      -- two members of one field cannot both have been taken
      by_cases same : key = key'
      · rw [← same, known] at known'
        cases known'
        rw [lawful.marks field among _ _ _ read] at unseen'
        cases unseen'
      · rw [← name_of_find? known, ← name_of_find? known'] at same
        obtain ⟨passes, passes'⟩ := lawful.independent_of_ne among among' same
        obtain ⟨between, sooner, later⟩ := passes.later _ _ _ _ _ read read'
        rw [passes.untold _ _ _ read] at unseen'
        refine ⟨between, .field named' known' unseen' sooner, .field named known ?_ later⟩
        rw [passes'.untold _ _ _ sooner, unseen]

theorem Lawful.foldlM_perm (lawful : Lawful fields) (permuted : members.Perm others)
    (read : members.foldlM (readMember ignore fields) draft = .ok last) :
    others.foldlM (readMember ignore fields) draft = .ok last := by
  refine LoginGateway.foldlM_perm (fun draft first second middle last before after => ?_) permuted read
  obtain ⟨between, sooner, later⟩ :=
    Takes.exchange lawful (readMember_ok_iff.mp before) (readMember_ok_iff.mp after)
  exact ⟨between, readMember_ok_iff.mpr sooner, readMember_ok_iff.mpr later⟩

theorem taken_of_foldlM (read : members.foldlM (readMember ignore fields) draft = .ok last) (among : member ∈ members) :
    ∃ before after, Takes ignore fields before member after := by
  induction members generalizing draft with
  | nil => cases among
  | cons first members ih =>
    rw [List.foldlM_cons] at read
    obtain ⟨middle, taken, rest⟩ := of_bind_ok read
    rcases List.mem_cons.mp among with rfl | among
    · exact ⟨draft, middle, readMember_ok_iff.mp taken⟩
    · exact ih rest among

theorem Takes.read {key : String} {field : RecordField σ} (taken : Takes ignore fields draft member next)
    (named : readText? member.1 = some key) (known : fields.find? (·.name == key) = some field) :
    field.seen draft = false ∧ field.read member.2 draft = .ok next := by
  cases taken with
  | stranger named' unknown ignored =>
    cases named.symm.trans named'
    cases known.symm.trans unknown
  | field named' known' unseen read =>
    cases named.symm.trans named'
    cases known.symm.trans known'
    exact ⟨unseen, read⟩

theorem Lawful.not_repeated (lawful : Lawful fields) {name : String} {field : RecordField σ}
    (known : fields.find? (·.name == name) = some field) {first second : Octets × Node}
    (twice : members.Perm (first :: second :: others)) (named : readText? first.1 = some name)
    (named' : readText? second.1 = some name) : members.foldlM (readMember ignore fields) draft ≠ .ok last := by
  intro read
  have read := lawful.foldlM_perm twice read
  rw [List.foldlM_cons] at read
  obtain ⟨middle, taken, read⟩ := of_bind_ok read
  rw [List.foldlM_cons] at read
  obtain ⟨next, taken', -⟩ := of_bind_ok read
  obtain ⟨-, marked⟩ := (readMember_ok_iff.mp taken).read named known
  obtain ⟨unseen, -⟩ := (readMember_ok_iff.mp taken').read named' known
  rw [lawful.marks field (List.mem_of_find?_eq_some known) _ _ _ marked] at unseen
  cases unseen

theorem Lawful.unread (lawful : Lawful fields) {field : RecordField σ} (among : field ∈ fields)
    (unnamed : ∀ member ∈ members, readText? member.1 ≠ some field.name)
    (read : members.foldlM (readMember ignore fields) draft = .ok last) : field.seen last = field.seen draft := by
  induction members generalizing draft with
  | nil =>
    cases read
    rfl
  | cons member members ih =>
    obtain ⟨first, rest⟩ := List.forall_mem_cons.mp unnamed
    rw [List.foldlM_cons] at read
    obtain ⟨middle, taken, read⟩ := of_bind_ok read
    rw [ih rest read]
    cases readMember_ok_iff.mp taken with
    | stranger => rfl
    | @field key other _ named known _ readOther =>
      have different : other.name ≠ field.name := by
        intro same
        rw [← same, name_of_find? known] at first
        exact first named
      exact (lawful.independent_of_ne (List.mem_of_find?_eq_some known) among different).1.untold _ _ _ readOther

end Json

end LoginGateway
