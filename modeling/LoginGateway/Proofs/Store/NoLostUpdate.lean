import LoginGateway.Proofs.Store.Interleaving
import Mathlib.Data.List.Induction

namespace LoginGateway.Saving

open PersistedStore

variable {β : Type} [Backend β]

def Event.written? : Event → Option Snapshot
  | .wrote state | .refused state => some state
  | _ => none

def lastWritten (events : List Event) : Option Snapshot :=
  events.foldl (fun last event => event.written?.or last) none

def Event.leaves (calls : List Nat) : Event → List Nat
  | .changed call _ true => call :: calls
  | .wrote _ | .refused _ => []
  | _ => calls

/-- The calls whose changes ask for a save and came after the state was written down last. -/
def unsaved (events : List Event) : List Nat := events.foldl Event.leaves []

@[simp] theorem lastWritten_append (events : List Event) (event : Event) :
    lastWritten (events ++ [event]) = event.written?.or (lastWritten events) := by
  simp [lastWritten]

@[simp] theorem unsaved_append (events : List Event) (event : Event) :
    unsaved (events ++ [event]) = event.leaves (unsaved events) := by
  simp [unsaved]

theorem no_change_of_unwritten {events : List Event} (unwritten : lastWritten events = none)
    (saved : unsaved events = []) (call : Nat) (mutation : Mutation) : .changed call mutation true ∉ events := by
  induction events using List.reverseRecOn with
  | nil => simp
  | append_singleton events event ih =>
    rw [lastWritten_append, Option.or_eq_none_iff] at unwritten
    rw [unsaved_append] at saved
    have before : unsaved events = [] ∧ event ≠ .changed call mutation true := by
      cases event with
      | changed other change notifies => cases notifies <;> simp_all [Event.leaves]
      | _ => simp_all [Event.leaves, Event.written?]
    simp only [List.mem_append, List.mem_singleton, not_or]
    exact ⟨ih unwritten.2 before.1, before.2.symm⟩

theorem advance?_cases {store next : PersistedStore} (advance : store.advance? = some next) :
    (store.phase = .idle ∧ store.pending = true ∧ next = { store with pending := false, phase := .taken false }) ∨
    (store.phase = .idle ∧ store.pending = false ∧ store.stopping = true ∧ next = { store with phase := .closing }) ∨
    (store.phase = .closing ∧ store.pending = true ∧ next = { store with pending := false, phase := .taken true }) ∨
    (store.phase = .closing ∧ store.pending = false ∧ next = { store with phase := .stopped }) ∨
    (∃ last, store.phase = .taken last ∧ oversized store.state = true ∧
      next = { store with phase := afterSave last }) ∨
    ∃ last, store.phase = .taken last ∧ oversized store.state = false ∧
      next = { store with phase := .saving store.state last } := by
  cases phase : store.phase <;> simp only [advance?, phase] at advance
  case idle =>
    split at advance
    · rename_i pending
      exact .inl ⟨rfl, pending, (Option.some.inj advance).symm⟩
    · rename_i free
      split at advance
      · rename_i stopping
        exact .inr (.inl ⟨rfl, by simpa using free, stopping, (Option.some.inj advance).symm⟩)
      · cases advance
  case closing =>
    split at advance
    · rename_i pending
      exact .inr (.inr (.inl ⟨rfl, pending, (Option.some.inj advance).symm⟩))
    · rename_i free
      exact .inr (.inr (.inr (.inl ⟨rfl, by simpa using free, (Option.some.inj advance).symm⟩)))
  case taken last =>
    split at advance
    · rename_i large
      exact .inr (.inr (.inr (.inr (.inl ⟨last, rfl, large, (Option.some.inj advance).symm⟩))))
    · rename_i fits
      exact .inr (.inr (.inr (.inr (.inr ⟨last, rfl, by simpa using fits, (Option.some.inj advance).symm⟩))))
  case saving state last => cases advance
  case stopped => cases advance

theorem advance?_state {store next : PersistedStore} (advance : store.advance? = some next) :
    next.state = store.state ∧ next.stopping = store.stopping := by
  rcases advance?_cases advance with
    ⟨-, -, rfl⟩ | ⟨-, -, -, rfl⟩ | ⟨-, -, rfl⟩ | ⟨-, -, rfl⟩ | ⟨_, -, -, rfl⟩ | ⟨_, -, -, rfl⟩ <;> exact ⟨rfl, rfl⟩

theorem notify_fields (store : PersistedStore) :
    store.notify.state = store.state ∧ store.notify.phase = store.phase ∧ store.notify.stopping = store.stopping ∧
      (store.phase ≠ .stopped → store.notify.pending = true) := by
  simp only [notify]
  split <;> simp_all

theorem Step.stopped {system next : Saving β} {event : Event} (step : Step system event next)
    (stopped : system.store.phase = .stopped) : next.store.phase = .stopped := by
  cases step with
  | change mutation => exact stopped
  | request owes => exact (notify_fields _).2.1.trans stopped
  | order => exact stopped
  | work advance => simp [advance?, stopped] at advance
  | save saving => rw [stopped] at saving; cases saving

/-- A change that is not written down is on its way to be: its request waits, or is taken, or is still owed. -/
def Covered (events : List Event) (system : Saving β) : Prop :=
  ∀ call ∈ unsaved events,
    system.store.pending = true ∨ (∃ last, system.store.phase = .taken last) ∨ call ∈ system.owing

theorem Covered.step {events : List Event} {event : Event} {system next : Saving β} (covered : Covered events system)
    (step : Step system event next) (awake : next.store.phase ≠ .stopped) : Covered (events ++ [event]) next := by
  intro call member
  rw [unsaved_append] at member
  cases step with
  | change mutation =>
    cases notifies : mutation.notifies system.store.state with
    | false =>
      rw [notifies] at member
      simpa using covered call member
    | true =>
      rw [notifies] at member
      rcases List.mem_cons.mp member with rfl | member
      · simp
      · rcases covered call member with pending | taken | owes
        · exact .inl pending
        · exact .inr (.inl taken)
        · exact .inr (.inr (by simp [owes]))
  | request owes =>
    obtain ⟨-, phase, -, pending⟩ := notify_fields system.store
    exact .inl (pending (phase ▸ awake))
  | order => exact covered call member
  | work advance =>
    rcases advance?_cases advance with
      ⟨phase, -, rfl⟩ | ⟨phase, free, -, rfl⟩ | ⟨phase, -, rfl⟩ | ⟨-, -, rfl⟩ | ⟨last, phase, large, rfl⟩ |
      ⟨last, phase, fits, rfl⟩
    · exact .inr (.inl ⟨false, rfl⟩)
    · -- Nothing waits and nothing is taken, so the request is still owed.
      simp only [workerEvent, phase] at member
      rcases covered call member with pending | ⟨last, taken⟩ | owes
      · rw [free] at pending; cases pending
      · rw [phase] at taken; cases taken
      · exact .inr (.inr owes)
    · exact .inr (.inl ⟨true, rfl⟩)
    · exact absurd rfl awake
    · simp [workerEvent, phase, large, Event.leaves] at member
    · simp [workerEvent, phase, fits, Event.leaves] at member
  | save saving =>
    rcases covered call member with pending | ⟨last, taken⟩ | owes
    · exact .inl pending
    · rw [saving] at taken; cases taken
    · exact .inr (.inr owes)

theorem Run.covered {start system : Saving β} {events : List Event} (run : Run start events system)
    (awake : system.store.phase ≠ .stopped) : Covered events system := by
  induction run with
  | start => simp [Covered, unsaved]
  | step run step ih => exact (ih fun stopped => awake (step.stopped stopped)).step step awake

theorem Run.written {start system : Saving β} {events : List Event} (run : Run start events system)
    (saved : unsaved events = []) : (lastWritten events).getD start.store.state = system.store.state := by
  induction run with
  | start => rfl
  | @step events event system next run step ih =>
    rw [unsaved_append] at saved
    rw [lastWritten_append]
    cases step with
    | change mutation =>
      cases notifies : mutation.notifies system.store.state with
      | false =>
        rw [notifies] at saved
        simpa [Event.written?, Mutation.apply_of_silent notifies] using ih saved
      | true => rw [notifies] at saved; cases saved
    | request owes => exact (ih saved).trans (notify_fields _).1.symm
    | order => exact ih saved
    | work advance =>
      rw [(advance?_state advance).1]
      cases phase : system.store.phase <;> simp only [workerEvent, phase] at saved ⊢
      case taken last => split <;> rfl
      all_goals exact ih saved
    | save saving => exact ih saved

/-- Only a call whose number was given owes a request, and none owes one that it has made. -/
structure Owing (events : List Event) (system : Saving β) : Prop where
  distinct : system.owing.Nodup
  unrequested : ∀ call ∈ system.owing, call < system.calls ∧ .requested call ∉ events
  requested : ∀ call, .requested call ∈ events → call < system.calls

theorem Owing.step {events : List Event} {event : Event} {system next : Saving β} (owing : Owing events system)
    (step : Step system event next) : Owing (events ++ [event]) next := by
  cases step with
  | change mutation =>
    have new : system.calls ∉ system.owing := fun owes => Nat.lt_irrefl _ (owing.unrequested _ owes).1
    have unmade : .requested system.calls ∉ events := fun made => Nat.lt_irrefl _ (owing.requested _ made)
    refine ⟨?_, ?_, ?_⟩
    · simp only
      split
      · exact List.nodup_cons.mpr ⟨new, owing.distinct⟩
      · exact owing.distinct
    · intro call owes
      have known : call = system.calls ∨ call ∈ system.owing := by
        simp only at owes
        split at owes
        · exact List.mem_cons.mp owes
        · exact .inr owes
      rcases known with rfl | owes
      · exact ⟨Nat.lt_succ_self _, by simpa using unmade⟩
      · have ⟨below, unmade⟩ := owing.unrequested call owes
        exact ⟨Nat.lt_succ_of_lt below, by simpa using unmade⟩
    · intro call made
      exact Nat.lt_succ_of_lt (owing.requested call (by simpa using made))
  | @request made owes =>
    refine ⟨owing.distinct.erase _, ?_, ?_⟩
    · intro call member
      have ⟨different, owes⟩ := owing.distinct.mem_erase_iff.mp member
      have ⟨below, unmade⟩ := owing.unrequested call owes
      exact ⟨below, by simp [unmade, different]⟩
    · intro call member
      rcases List.mem_append.mp member with member | member
      · exact owing.requested call member
      · simp only [List.mem_singleton, Event.requested.injEq] at member
        exact member ▸ (owing.unrequested _ owes).1
  | order => exact ⟨owing.distinct, by simpa using owing.unrequested, by simpa using owing.requested⟩
  | work advance =>
    have quiet : ∀ call, Event.requested call ≠ workerEvent system.store := by
      intro call same
      have worker := workerEvent_ofWorker system.store
      rw [← same] at worker
      exact worker
    exact ⟨owing.distinct, by simpa [quiet] using owing.unrequested, by simpa [quiet] using owing.requested⟩
  | save saving => exact ⟨owing.distinct, by simpa using owing.unrequested, by simpa using owing.requested⟩

theorem Run.owing {start system : Saving β} {events : List Event} (fresh : start.owing = [])
    (run : Run start events system) : Owing events system := by
  induction run with
  | start => exact ⟨by simp [fresh], by simp [fresh], by simp⟩
  | step run step ih => exact ih.step step

/-- In every state that the interleaved steps of callers, worker and backend lead to from the opening of a store,
a change that came after the last writing has a request that waits, or that the worker has taken and not yet
served, or that its call has yet to make. So when the worker is idle, nothing waits and no call is under way, what
was handed over for saving last is the state as it is, if there was anything to save at all. -/
theorem no_change_is_lost (backend : β) {events : List Event} {system : Saving β}
    (run : Run (opened backend) events system) :
    (system.store.phase ≠ .stopped → ∀ call ∈ unsaved events,
      system.store.pending = true ∨ (∃ last, system.store.phase = .taken last) ∨
        call ∈ system.owing ∧ .requested call ∉ events) ∧
    (system.store.phase = .idle → system.store.pending = false → system.owing = [] →
      (∀ call mutation, .changed call mutation true ∉ events) ∨
        (lastWritten events).map Snapshot.json = some system.store.state.json) := by
  refine ⟨fun awake call member => ?_, fun idle free none => ?_⟩
  · rcases run.covered awake call member with pending | taken | owes
    · exact .inl pending
    · exact .inr (.inl taken)
    · exact .inr (.inr ⟨owes, ((run.owing rfl).unrequested call owes).2⟩)
  · have awake : system.store.phase ≠ .stopped := by simp [idle]
    have saved : unsaved events = [] := by
      apply List.eq_nil_iff_forall_not_mem.mpr
      intro call member
      simpa [idle, free, none] using run.covered awake call member
    have written := run.written saved
    cases last : lastWritten events with
    | none => exact .inl (no_change_of_unwritten last saved)
    | some state =>
      rw [last] at written
      exact .inr (congrArg (some ∘ Snapshot.json) written)

theorem Step.work_seen {system : Saving β} {next : PersistedStore} {event : Event}
    (advance : system.store.advance? = some next) (seen : workerEvent system.store = event) :
    Step system event { system with store := next } :=
  seen ▸ .work system advance

theorem no_change_is_lost_overtaken :
    let first := Snapshot.empty.storeToken "laptop" "token" "alice"
    let second := first.deleteToken "laptop"
    let start : Saving MemoryBackend := opened ⟨none, 0⟩
    let events : List Event :=
      [.changed 0 (.storeToken "laptop" "token" "alice") true, .requested 0, .turned, .wrote first,
       .changed 1 (.deleteToken "laptop") true, .saved first true]
    let more : List Event := [.requested 1, .turned, .wrote second, .saved second true]
    (∃ system, Run start events system ∧ system.store.phase ≠ .stopped ∧ 1 ∈ unsaved events ∧
      (system.store.pending = true ∨ (∃ last, system.store.phase = .taken last) ∨
        1 ∈ system.owing ∧ .requested 1 ∉ events)) ∧
    ∃ system, Run start (events ++ more) system ∧ system.store.phase = .idle ∧ system.store.pending = false ∧
      system.owing = [] ∧ (lastWritten (events ++ more)).map Snapshot.json = some system.store.state.json := by
  intro first second start events more
  let middle : Saving MemoryBackend := ⟨⟨second, false, false, .idle⟩, ⟨some first.json, 1⟩, 2, [1]⟩
  let final : Saving MemoryBackend := ⟨⟨second, false, false, .idle⟩, ⟨some second.json, 2⟩, 2, []⟩
  have before : Run start events middle := by
    refine .cons (.change _ _) (.cons (.request _ (by decide)) (.cons (.work_seen rfl rfl)
      (.cons (.work_seen (by rfl) ?_) (.cons (.change _ _) (.cons (.save _ rfl) .start)))))
    decide +kernel
  have after : Run middle more final := by
    refine .cons (.request _ (List.mem_singleton_self _)) (.cons (.work_seen rfl rfl)
      (.cons (.work_seen (by rfl) ?_) (.cons (.save _ rfl) .start)))
    decide +kernel
  have awake : middle.store.phase ≠ .stopped := by simp [middle]
  have uncovered : 1 ∈ unsaved events := by decide +kernel
  have owes := (no_change_is_lost _ before).1 awake 1 uncovered
  have settled := (no_change_is_lost _ (before.append after)).2 rfl rfl rfl
  refine ⟨⟨middle, before, awake, uncovered, owes⟩, final, before.append after, rfl, rfl, rfl, ?_⟩
  exact settled.resolve_left fun unchanged => unchanged 0 (.storeToken "laptop" "token" "alice") (by simp [events])

end LoginGateway.Saving
