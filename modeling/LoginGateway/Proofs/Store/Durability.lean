import LoginGateway.Proofs.Store.NoLostUpdate
import LoginGateway.Proofs.Store.SavedState

namespace LoginGateway

/-- A backend that holds one blob: the one saved last, of the saves that succeeded. -/
structure Backend.Keeps {β : Type} [Backend β] (content : β → Option Octets) : Prop where
  saved : ∀ backend data, (Backend.save backend data).1.isOk → content (Backend.save backend data).2 = some data
  refused : ∀ backend data, (Backend.save backend data).1.isOk = false →
    content (Backend.save backend data).2 = content backend
  loaded : ∀ backend data, (Backend.load backend).1 = .ok data → data = content backend
  unchanged : ∀ backend, content (Backend.load backend).2 = content backend

theorem MemoryBackend.keeps : Backend.Keeps MemoryBackend.blob where
  saved _ _ _ := rfl
  refused _ _ failed := by cases failed
  loaded _ _ loaded := (Except.ok.inj loaded).symm
  unchanged _ := rfl

theorem UnreliableBackend.keeps {β : Type} [Backend β] {content : β → Option Octets} (inner : Backend.Keeps content) :
    Backend.Keeps fun backend : UnreliableBackend β => content backend.inner where
  saved backend data := by
    simp only [Backend.save]
    split
    · intro failed
      cases failed
    · exact inner.saved backend.inner data
  refused backend data := by
    simp only [Backend.save]
    split
    · exact fun _ => rfl
    · exact inner.refused backend.inner data
  loaded backend data := by
    simp only [Backend.load]
    split
    · intro failed
      cases failed
    · exact inner.loaded backend.inner data
  unchanged backend := by
    simp only [Backend.load]
    split
    · rfl
    · exact inner.unchanged backend.inner

def Mutation.Stores (kept : Credential → Prop) : Mutation → Prop
  | .storeCredential _ credential => kept credential
  | _ => True

/-- What is stored expires at an instant that can be kept, if it expires. -/
def Mutation.Valid (mutation : Mutation) : Prop := mutation.Stores Credential.Valid

def Mutation.OnMinute (mutation : Mutation) : Prop := mutation.Stores Credential.OnMinute

theorem Mutation.apply_keeps {kept : Credential → Prop} {state : Snapshot} {mutation : Mutation}
    (before : ∀ entry ∈ state.users.entries, kept entry.2) (sound : mutation.Stores kept) :
    ∀ entry ∈ (mutation.apply state).users.entries, kept entry.2 := by
  cases mutation with
  | storeToken name token user => exact before
  | deleteToken name => exact before
  | invalidate user =>
    intro entry member
    exact before entry (List.mem_of_mem_filter member)
  | storeCredential user credential =>
    intro entry member
    rcases Dict.mem_insertEntry member with rfl | member
    · exact sound
    · exact before entry member

theorem PersistedStore.loadedState_valid (result : Except BackendError (Option Octets)) :
    (loadedState result).Valid ∧ (loadedState result).OnMinute := by
  have empty : Snapshot.empty.Valid ∧ Snapshot.empty.OnMinute := by decide
  unfold loadedState
  split
  · rename_i data
    cases read : Snapshot.ofJson? data with
    | none => exact empty
    | some state => exact Snapshot.ofJson?_valid read
  · exact empty
  · exact empty

def WorkerPhase.underWay? : WorkerPhase → Option Snapshot
  | .saving state _ => some state
  | _ => none

theorem PersistedStore.underWay?_afterSave (last : Bool) : (afterSave last).underWay? = none := by
  cases last <;> rfl

namespace Saving

open PersistedStore

variable {β : Type} [Backend β]

def Event.applyTo (state : Snapshot) : Event → Snapshot
  | .changed _ mutation _ => mutation.apply state
  | _ => state

def stateAfter (start : Snapshot) (events : List Event) : Snapshot := events.foldl Event.applyTo start

def lastSaved (attempts : List Attempt) : Option Snapshot :=
  attempts.foldl (fun last attempt => if attempt.saved then some attempt.state else last) none

def Event.outcome? : Event → Option Bool
  | .saved _ ok => some ok
  | .refused _ => some false
  | _ => none

def lastOutcome (events : List Event) : Option Bool :=
  events.foldl (fun last event => event.outcome?.or last) none

@[simp] theorem stateAfter_append (start : Snapshot) (events : List Event) (event : Event) :
    stateAfter start (events ++ [event]) = event.applyTo (stateAfter start events) := by
  simp [stateAfter]

@[simp] theorem lastSaved_append (attempts : List Attempt) (attempt : Attempt) :
    lastSaved (attempts ++ [attempt]) = if attempt.saved then some attempt.state else lastSaved attempts := by
  simp [lastSaved]

@[simp] theorem lastOutcome_append (events : List Event) (event : Event) :
    lastOutcome (events ++ [event]) = event.outcome?.or (lastOutcome events) := by
  simp [lastOutcome]

theorem Event.OfWorker.applyTo {event : Event} (worker : event.OfWorker) (state : Snapshot) :
    event.applyTo state = state := by
  cases event with
  | changed call mutation notifies => exact worker.elim
  | _ => rfl

theorem Run.state {start system : Saving β} {events : List Event} (run : Run start events system) :
    system.store.state = stateAfter start.store.state events := by
  induction run with
  | start => rfl
  | step run step ih =>
    rw [stateAfter_append, ← ih]
    cases step with
    | change mutation => rfl
    | request owes => exact (notify_fields _).1
    | order => rfl
    | work advance => exact (advance?_state advance).1.trans ((workerEvent_ofWorker _).applyTo _).symm
    | save saving => rfl

theorem stateAfter_keeps {kept : Credential → Prop} {start : Snapshot}
    (before : ∀ entry ∈ start.users.entries, kept entry.2) {events : List Event}
    (sound : ∀ call mutation notifies, .changed call mutation notifies ∈ events → mutation.Stores kept) :
    ∀ entry ∈ (stateAfter start events).users.entries, kept entry.2 := by
  induction events using List.reverseRecOn with
  | nil => exact before
  | append_singleton events event ih =>
    have kept := ih fun call mutation notifies member => sound call mutation notifies (by simp [member])
    rw [stateAfter_append]
    cases event with
    | changed call mutation notifies => exact Mutation.apply_keeps kept (sound call mutation notifies (by simp))
    | _ => exact kept

/-- Every save is of the state at some moment of the run, later saves of later moments; so is the one that is
under way. -/
structure InOrder (start : Snapshot) (events : List Event) (phase : WorkerPhase) (moments : List Nat) : Prop where
  increasing : moments.Pairwise (· < ·)
  past : ∀ moment ∈ moments, moment < events.length
  states : (handed events).map Attempt.state = moments.map fun moment => stateAfter start (events.take moment)
  current : ∀ state, phase.underWay? = some state → ∃ moment, moment < events.length ∧
    state = stateAfter start (events.take moment) ∧ ∀ earlier ∈ moments, earlier < moment

theorem stateAfter_take (start : Snapshot) {events : List Event} {moment : Nat} (before : moment < events.length)
    (event : Event) : stateAfter start ((events ++ [event]).take moment) = stateAfter start (events.take moment) := by
  rw [List.take_append_of_le_length (Nat.le_of_lt before)]

theorem InOrder.quiet {start : Snapshot} {events : List Event} {phase next : WorkerPhase} {moments : List Nat}
    (order : InOrder start events phase moments) {event : Event} (unhanded : handed [event] = [])
    (kept : ∀ state, next.underWay? = some state → phase.underWay? = some state) :
    InOrder start (events ++ [event]) next moments where
  increasing := order.increasing
  past moment member := by
    have before := order.past moment member
    simp only [List.length_append, List.length_singleton]
    omega
  states := by
    rw [handed_append, unhanded, List.append_nil, order.states]
    apply List.map_congr_left
    intro moment member
    exact (stateAfter_take start (order.past moment member) event).symm
  current state saving := by
    obtain ⟨moment, before, same, later⟩ := order.current state (kept state saving)
    refine ⟨moment, ?_, ?_, later⟩
    · simp only [List.length_append, List.length_singleton]
      omega
    · rw [stateAfter_take start before]
      exact same

theorem InOrder.wrote {start state : Snapshot} {events : List Event} {phase : WorkerPhase} {last : Bool}
    {moments : List Nat} (order : InOrder start events phase moments) (now : state = stateAfter start events) :
    InOrder start (events ++ [.wrote state]) (.saving state last) moments where
  increasing := order.increasing
  past moment member := by
    have before := order.past moment member
    simp only [List.length_append, List.length_singleton]
    omega
  states := (order.quiet rfl fun _ saving => saving).states
  current other same := by
    cases same
    refine ⟨events.length, ?_, ?_, order.past⟩
    · simp
    · rw [List.take_left]
      exact now

theorem InOrder.saved {start state : Snapshot} {events : List Event} {last ok : Bool} {moments : List Nat}
    (order : InOrder start events (.saving state last) moments) :
    ∃ moment, InOrder start (events ++ [.saved state ok]) (afterSave last) (moments ++ [moment]) := by
  obtain ⟨moment, before, same, later⟩ := order.current state rfl
  refine ⟨moment, ?_, ?_, ?_, ?_⟩
  · rw [List.pairwise_append]
    exact ⟨order.increasing, List.pairwise_singleton _ _, by simpa using later⟩
  · intro other member
    simp only [List.length_append, List.length_singleton]
    rcases List.mem_append.mp member with member | member
    · have := order.past other member
      omega
    · rw [List.mem_singleton.mp member]
      omega
  · have earlier : moments.map (fun moment => stateAfter start ((events ++ [Event.saved state ok]).take moment)) =
        moments.map fun moment => stateAfter start (events.take moment) :=
      List.map_congr_left fun moment member => stateAfter_take start (order.past moment member) _
    rw [handed_append, List.map_append, List.map_append, earlier, ← order.states, List.map_singleton,
      stateAfter_take start before, ← same]
    rfl
  · intro other saving
    rw [underWay?_afterSave] at saving
    cases saving

theorem Run.inOrder {start system : Saving β} {events : List Event}
    (free : start.store.phase.underWay? = none) (run : Run start events system) :
    ∃ moments, InOrder start.store.state events system.store.phase moments := by
  induction run with
  | start => exact ⟨[], .nil, by simp, rfl, by simp [free]⟩
  | @step events event system next run step ih =>
    obtain ⟨moments, order⟩ := ih
    cases step with
    | change mutation => exact ⟨moments, order.quiet rfl fun _ saving => saving⟩
    | request owes =>
      rw [(notify_fields system.store).2.1]
      exact ⟨moments, order.quiet rfl fun _ saving => saving⟩
    | order => exact ⟨moments, order.quiet rfl fun _ saving => saving⟩
    | work advance =>
      rcases advance?_cases advance with
        ⟨phase, -, rfl⟩ | ⟨phase, -, -, rfl⟩ | ⟨phase, -, rfl⟩ | ⟨phase, -, rfl⟩ | ⟨last, phase, large, rfl⟩ |
        ⟨last, phase, fits, rfl⟩
      · exact ⟨moments, order.quiet (handed_workerEvent _ []) fun _ saving => by cases saving⟩
      · exact ⟨moments, order.quiet (handed_workerEvent _ []) fun _ saving => by cases saving⟩
      · exact ⟨moments, order.quiet (handed_workerEvent _ []) fun _ saving => by cases saving⟩
      · exact ⟨moments, order.quiet (handed_workerEvent _ []) fun _ saving => by cases saving⟩
      · exact ⟨moments, order.quiet (handed_workerEvent _ []) (by simp [underWay?_afterSave])⟩
      · simp only [workerEvent, phase, fits]
        exact ⟨moments, order.wrote run.state⟩
    | save saving =>
      rw [saving] at order
      obtain ⟨moment, order⟩ := order.saved
      exact ⟨moments ++ [moment], order⟩

theorem Run.content {content : β → Option Octets} (keeps : Backend.Keeps content) {start system : Saving β}
    {events : List Event} (run : Run start events system) :
    content system.backend = ((lastSaved (handed events)).map Snapshot.json).or (content start.backend) := by
  induction run with
  | start => rfl
  | @step events event system next run step ih =>
    rw [handed_append]
    cases step with
    | change mutation => simpa [handed] using ih
    | request owes => simpa [handed] using ih
    | order => simpa [handed] using ih
    | work advance =>
      have unhanded : handed [workerEvent system.store] = [] := handed_workerEvent _ []
      simpa [unhanded] using ih
    | @save state last saving =>
      cases taken : (Backend.save system.backend state.json).1.isOk with
      | true => simp [handed, keeps.saved _ _ taken]
      | false => simpa [handed, keeps.refused _ _ taken] using ih

theorem Run.outcome {start system : Saving β} {events : List Event} (free : start.store.phase.underWay? = none)
    (run : Run start events system) :
    (∀ state, system.store.phase.underWay? = some state → lastWritten events = some state) ∧
    (system.store.phase.underWay? = none → lastOutcome events = some true →
      lastSaved (handed events) = lastWritten events) := by
  induction run with
  | start => exact ⟨by simp [free], fun _ none => by cases none⟩
  | @step events event system next run step ih =>
    obtain ⟨writing, settled⟩ := ih
    rw [lastWritten_append, lastOutcome_append, handed_append]
    cases step with
    | change mutation => simpa [handed, Event.written?, Event.outcome?] using ⟨writing, settled⟩
    | request owes =>
      rw [(notify_fields system.store).2.1]
      simpa [handed, Event.written?, Event.outcome?] using ⟨writing, settled⟩
    | order => simpa [handed, Event.written?, Event.outcome?] using ⟨writing, settled⟩
    | work advance =>
      have unhanded : handed [workerEvent system.store] = [] := handed_workerEvent _ []
      rw [unhanded, List.append_nil]
      rcases advance?_cases advance with
        ⟨phase, -, rfl⟩ | ⟨phase, -, -, rfl⟩ | ⟨phase, -, rfl⟩ | ⟨phase, -, rfl⟩ | ⟨last, phase, large, rfl⟩ |
        ⟨last, phase, fits, rfl⟩
      · simpa [workerEvent, phase, WorkerPhase.underWay?, Event.written?, Event.outcome?] using settled
      · simpa [workerEvent, phase, WorkerPhase.underWay?, Event.written?, Event.outcome?] using settled
      · simpa [workerEvent, phase, WorkerPhase.underWay?, Event.written?, Event.outcome?] using settled
      · simpa [workerEvent, phase, WorkerPhase.underWay?, Event.written?, Event.outcome?] using settled
      · simp [workerEvent, phase, large, Event.outcome?, underWay?_afterSave]
      · simp [workerEvent, phase, fits, Event.written?, WorkerPhase.underWay?]
    | @save state last saving =>
      refine ⟨by simp [underWay?_afterSave], fun _ succeeded => ?_⟩
      have taken : (Backend.save system.backend state.json).1.isOk = true := by
        simpa [Event.outcome?] using succeeded
      have written := writing state (by rw [saving]; rfl)
      simp [handed, taken, Event.written?, written]

theorem advance?_rank {store next : PersistedStore} (advance : store.advance? = some next) :
    next.rank < store.rank := by
  rcases advance?_cases advance with
    ⟨phase, pending, rfl⟩ | ⟨phase, free, -, rfl⟩ | ⟨phase, pending, rfl⟩ | ⟨phase, free, rfl⟩ |
    ⟨last, phase, -, rfl⟩ | ⟨last, phase, -, rfl⟩
  · simp [rank, phase, pending]
  · simp [rank, phase, free]
  · simp [rank, phase, pending]
  · simp [rank, phase, free]
  · cases last <;> simp [rank, phase, afterSave]
  · cases last <;> simp [rank, phase]

theorem save_rank {store : PersistedStore} {state : Snapshot} {last : Bool}
    (saving : store.phase = .saving state last) :
    rank { store with phase := afterSave last } < store.rank := by
  cases last <;> simp [rank, saving, afterSave]

theorem stopped_of_rank {store : PersistedStore} (done : store.rank = 0) : store.phase = .stopped := by
  cases phase : store.phase with
  | stopped => rfl
  | taken last => cases last <;> simp [rank, phase] at done
  | saving state last => cases last <;> simp [rank, phase] at done
  | _ => simp [rank, phase] at done

theorem stopped_of_waiting {store : PersistedStore} (waiting : store.advance? = none)
    (ordered : store.stopping = true) (free : ∀ state last, store.phase ≠ .saving state last) :
    store.phase = .stopped := by
  cases phase : store.phase with
  | saving state last => exact absurd phase (free state last)
  | stopped => rfl
  | idle => simp only [advance?, phase, ordered] at waiting; split at waiting <;> cases waiting
  | closing => simp only [advance?, phase] at waiting; split at waiting <;> cases waiting
  | taken last => simp only [advance?, phase] at waiting; split at waiting <;> cases waiting

theorem work_stops (steps : Nat) {store : PersistedStore} (backend : β) (ordered : store.stopping = true)
    (enough : store.rank ≤ steps) : (work false steps store backend).1.phase = .stopped := by
  induction steps generalizing store backend with
  | zero => exact stopped_of_rank (Nat.le_zero.mp enough)
  | succ steps ih =>
    rcases goes_or_waits false store with ⟨next, advance⟩ | ⟨-, state, last, saving⟩ | ⟨waiting, held | free⟩
    · rw [work_advance advance]
      have less := advance?_rank advance
      exact ih backend ((advance?_state advance).2.trans ordered) (by omega)
    · rw [work_save saving]
      have less := save_rank saving
      exact ih _ ordered (by omega)
    · cases held
    · rw [work_waiting waiting (.inr free)]
      exact stopped_of_waiting waiting ordered free

def Unordered (store : PersistedStore) : Prop :=
  store.stopping = false ∧ match store.phase with
    | .idle => True
    | .taken last | .saving _ last => last = false
    | .closing | .stopped => False

theorem Run.unordered {start system : Saving β} {events : List Event} (begins : Unordered start.store)
    (run : Run start events system) (none : .ordered ∉ events) : Unordered system.store := by
  induction run with
  | start => exact begins
  | step run step ih =>
    simp only [List.mem_append, List.mem_singleton, not_or] at none
    obtain ⟨going, phases⟩ := ih none.1
    cases step with
    | change mutation => exact ⟨going, phases⟩
    | request owes =>
      obtain ⟨-, phase, stopping, -⟩ := notify_fields _
      exact ⟨stopping.trans going, phase ▸ phases⟩
    | order => exact absurd rfl none.2
    | work advance =>
      rcases advance?_cases advance with
        ⟨phase, -, rfl⟩ | ⟨phase, -, stopping, rfl⟩ | ⟨phase, -, rfl⟩ | ⟨phase, -, rfl⟩ | ⟨last, phase, -, rfl⟩ |
        ⟨last, phase, -, rfl⟩
      · exact ⟨going, rfl⟩
      · rw [going] at stopping; cases stopping
      · simp [phase] at phases
      · simp [phase] at phases
      · rw [phase] at phases
        cases phases
        exact ⟨going, trivial⟩
      · rw [phase] at phases
        cases phases
        exact ⟨going, rfl⟩
    | save saving =>
      rw [saving] at phases
      cases phases
      exact ⟨going, trivial⟩

/-- All calls are done and only the worker goes on. What it has to save is requested or taken until it turns to the
order to stop, and then there is nothing. -/
structure Ending (events : List Event) (system : Saving β) : Prop where
  done : system.owing = []
  covered : unsaved events ≠ [] → system.store.pending = true ∨ ∃ last, system.store.phase = .taken last
  orderly : match system.store.phase with
    | .idle => True
    | .taken last | .saving _ last => last = false
    | .closing | .stopped => system.store.pending = false

theorem Ending.step {events : List Event} {event : Event} {system next : Saving β} (ending : Ending events system)
    (worker : event.OfWorker) (step : Step system event next) : Ending (events ++ [event]) next := by
  obtain ⟨done, covered, orderly⟩ := ending
  cases step with
  | change mutation => exact worker.elim
  | request owes => exact worker.elim
  | order => exact worker.elim
  | work advance =>
    rcases advance?_cases advance with
      ⟨phase, pending, rfl⟩ | ⟨phase, free, -, rfl⟩ | ⟨phase, pending, rfl⟩ | ⟨phase, free, rfl⟩ |
      ⟨last, phase, large, rfl⟩ | ⟨last, phase, fits, rfl⟩
    · exact ⟨done, fun _ => .inr ⟨false, rfl⟩, rfl⟩
    · refine ⟨done, fun unsaid => ?_, free⟩
      have pending := covered (by simpa [workerEvent, phase, Event.leaves] using unsaid)
      simp [phase, free] at pending
    · simp [phase, pending] at orderly
    · refine ⟨done, fun unsaid => ?_, free⟩
      have pending := covered (by simpa [workerEvent, phase, Event.leaves] using unsaid)
      simp [phase, free] at pending
    · rw [phase] at orderly
      cases orderly
      exact ⟨done, by simp [workerEvent, phase, large, Event.leaves], trivial⟩
    · rw [phase] at orderly
      cases orderly
      exact ⟨done, by simp [workerEvent, phase, fits, Event.leaves], rfl⟩
  | save saving =>
    rw [saving] at orderly
    cases orderly
    refine ⟨done, fun unsaid => ?_, trivial⟩
    have pending := covered (by simpa [Event.leaves] using unsaid)
    exact .inl (by simpa [saving] using pending)

theorem Run.ending {start system : Saving β} {events closing : List Event} (begins : Ending events start)
    (run : Run start closing system) (worker : ∀ event ∈ closing, event.OfWorker) :
    Ending (events ++ closing) system := by
  induction run with
  | start => rwa [List.append_nil]
  | @step closing event system next run step ih =>
    have before := ih fun other member => worker other (List.mem_append_left _ member)
    rw [← List.append_assoc]
    exact before.step (worker event (by simp)) step

omit [Backend β] in
theorem Ending.saved {events : List Event} {system : Saving β} (ending : Ending events system)
    (stopped : system.store.phase = .stopped) : unsaved events = [] := by
  have free : system.store.pending = false := by simpa [stopped] using ending.orderly
  apply Decidable.byContradiction
  intro unsaid
  have pending := ending.covered unsaid
  simp [stopped, free] at pending

theorem Ending.ofOrder {start system : Saving β} {events : List Event} (begins : Unordered start.store)
    (run : Run start events system) (none : .ordered ∉ events) (done : system.owing = []) :
    Ending (events ++ [.ordered]) { system with store := { system.store with stopping := true } } := by
  obtain ⟨-, phases⟩ := run.unordered begins none
  have awake : system.store.phase ≠ .stopped := by
    intro stopped
    simp [stopped] at phases
  refine ⟨done, fun unsaid => ?_, ?_⟩
  · obtain ⟨call, member⟩ := List.exists_mem_of_ne_nil _ unsaid
    rw [unsaved_append] at member
    simpa [done] using run.covered awake call member
  · cases phase : system.store.phase <;> simp_all

theorem stateAfter_of_worker {start : Snapshot} {events : List Event} (worker : ∀ event ∈ events, event.OfWorker) :
    stateAfter start events = start := by
  induction events with
  | nil => rfl
  | cons event events ih =>
    have ⟨first, others⟩ := List.forall_mem_cons.mp worker
    rw [stateAfter, List.foldl_cons, first.applyTo]
    exact ih others

theorem mem_of_lastSaved {attempts : List Attempt} {state : Snapshot} (last : lastSaved attempts = some state) :
    state ∈ attempts.map Attempt.state := by
  induction attempts using List.reverseRecOn with
  | nil => cases last
  | append_singleton attempts attempt ih =>
    rw [lastSaved_append] at last
    rw [List.map_append, List.mem_append]
    split at last
    · cases last
      exact .inr (List.mem_singleton_self _)
    · exact .inl (ih last)

theorem lastSaved_of_outcome {events : List Event} (succeeded : lastOutcome events = some true) :
    ∃ state, lastSaved (handed events) = some state := by
  induction events using List.reverseRecOn with
  | nil => cases succeeded
  | append_singleton events event ih =>
    rw [lastOutcome_append] at succeeded
    rw [handed_append]
    cases event with
    | saved state ok =>
      have taken : ok = true := by simpa [Event.outcome?] using succeeded
      exact ⟨state, by simp [handed, taken]⟩
    | refused state => simp [Event.outcome?] at succeeded
    | _ => simpa [handed] using ih (by simpa [Event.outcome?] using succeeded)

theorem Run.saved_keeps {kept : Credential → Prop} {backend : β} {events : List Event} {system : Saving β}
    (run : Run (opened backend) events system)
    (before : ∀ entry ∈ (opened backend).store.state.users.entries, kept entry.2)
    (sound : ∀ call mutation notifies, .changed call mutation notifies ∈ events → mutation.Stores kept)
    {state : Snapshot} (last : lastSaved (handed events) = some state) :
    ∀ entry ∈ state.users.entries, kept entry.2 := by
  obtain ⟨moments, order⟩ := run.inOrder rfl
  have member := mem_of_lastSaved last
  rw [order.states] at member
  obtain ⟨moment, -, rfl⟩ := List.mem_map.mp member
  apply stateAfter_keeps before
  intro call mutation notifies changed
  exact sound call mutation notifies (List.mem_of_mem_take changed)

theorem Run.reopened {content : β → Option Octets} (keeps : Backend.Keeps content) {backend : β}
    {events : List Event} {system : Saving β} (run : Run (opened backend) events system)
    (sound : ∀ call mutation notifies, .changed call mutation notifies ∈ events → mutation.Valid)
    {data : Option Octets} (loaded : (Backend.load system.backend).1 = .ok data) :
    (openOn system.backend).1.state =
      ((lastSaved (handed events)).getD (loadedState (.ok (content backend)))).asWritten := by
  have start : content (opened backend).backend = content backend := keeps.unchanged backend
  have found : (openOn system.backend).1.state = loadedState (Backend.load system.backend).1 := rfl
  rw [found, loaded, keeps.loaded _ _ loaded, run.content keeps, start]
  cases last : lastSaved (handed events) with
  | none => exact (Snapshot.asWritten_of_onMinute (loadedState_valid _).2).symm
  | some state =>
    have valid : state.Valid := run.saved_keeps (loadedState_valid _).1 sound last
    simp [loadedState, Snapshot.ofJson?_json valid]

theorem Run.saved_onMinute {content : β → Option Octets} {backend : β} {events : List Event} {system : Saving β}
    (run : Run (opened backend) events system)
    (whole : ∀ call mutation notifies, .changed call mutation notifies ∈ events → mutation.OnMinute) :
    ((lastSaved (handed events)).getD (loadedState (.ok (content backend)))).OnMinute := by
  cases last : lastSaved (handed events) with
  | none => exact (loadedState_valid _).2
  | some state => exact run.saved_keeps (loadedState_valid _).2 whole last

theorem Run.saved_state {backend : β} {events : List Event} {system : Saving β}
    (run : Run (opened backend) events system) (saved : unsaved events = [])
    (free : system.store.phase.underWay? = none) (succeeded : lastOutcome events = some true) :
    lastSaved (handed events) = some system.store.state := by
  obtain ⟨state, last⟩ := lastSaved_of_outcome succeeded
  have outcome := (run.outcome rfl).2 free succeeded
  rw [← run.written saved, ← outcome, last]
  rfl

/-- After any run of calls and worker steps, an orderly shutdown ends the worker and leaves the state as it is. Every
save of the run, the last ones of the worker included, is of the state at some moment, later saves of later ones. A
store that is opened then, if the backend gives its blob, starts from the state that was saved last, as it was written,
which is the final one whenever the last attempt to save succeeded; if none did, it starts from what the backend held
at first. Only where a credential was stored that expires in a leap second within a minute may a state be written as
another one: then that credential expires in the second after. -/
theorem reopens_from_last_save {content : β → Option Octets} (keeps : Backend.Keeps content) (backend : β)
    {events : List Event} {system : Saving β} (run : Run (opened backend) events system) (none : .ordered ∉ events)
    (done : system.owing = [])
    (sound : ∀ call mutation notifies, .changed call mutation notifies ∈ events → mutation.Valid) :
    let shut := shutdown system.store system.backend
    ∃ closing, let all := events ++ .ordered :: closing
      Run (opened backend) all { system with store := shut.1, backend := shut.2.1 } ∧
      (∀ event ∈ closing, Event.OfWorker event) ∧ handed closing = shut.2.2 ∧
      shut.1.phase = .stopped ∧ shut.1.state = system.store.state ∧
      (∃ moments : List Nat, moments.Pairwise (· < ·) ∧ (∀ moment ∈ moments, moment < all.length) ∧
        (handed all).map Attempt.state =
          moments.map fun moment => stateAfter (opened backend).store.state (all.take moment)) ∧
      ∀ data, (Backend.load shut.2.1).1 = .ok data →
        let saved := (lastSaved (handed all)).getD (loadedState (.ok (content backend)))
        let found := (openOn shut.2.1).1.state
        found = saved.asWritten ∧ (lastOutcome all = some true → saved = system.store.state) ∧
          ((∀ call mutation notifies, .changed call mutation notifies ∈ events → mutation.OnMinute) →
            found = saved) := by
  intro shut
  let ordered : Saving β := { system with store := { system.store with stopping := true } }
  obtain ⟨closing, closingRun, worker, attempts⟩ := run_work false ordered.store.rank ordered
  let all := events ++ .ordered :: closing
  have whole : Run (opened backend) all { system with store := shut.1, backend := shut.2.1 } :=
    run.append (.cons (.order system) closingRun)
  have stopped : shut.1.phase = .stopped := work_stops _ system.backend rfl (Nat.le_refl _)
  have unchanged : shut.1.state = system.store.state := closingRun.state.trans (stateAfter_of_worker worker)
  have stored : ∀ call mutation notifies, .changed call mutation notifies ∈ all →
      .changed call mutation notifies ∈ events := by
    intro call mutation notifies changed
    rcases List.mem_append.mp changed with before | after
    · exact before
    · rcases List.mem_cons.mp after with same | later
      · cases same
      · exact (worker _ later).elim
  have saved : unsaved all = [] := by
    have ending := Run.ending (Ending.ofOrder ⟨rfl, trivial⟩ run none done) closingRun worker
    rw [List.append_assoc] at ending
    exact ending.saved stopped
  obtain ⟨moments, order⟩ := whole.inOrder rfl
  refine ⟨closing, whole, worker, attempts, stopped, unchanged,
    ⟨moments, order.increasing, order.past, order.states⟩, ?_⟩
  intro data loaded last found
  have reopened : found = last.asWritten :=
    whole.reopened keeps (fun call mutation notifies changed => sound _ _ _ (stored call mutation notifies changed))
      loaded
  refine ⟨reopened, ?_, ?_⟩
  · intro succeeded
    have final := whole.saved_state saved (by rw [stopped]; rfl) succeeded
    show (lastSaved (handed all)).getD _ = _
    rw [final]
    exact unchanged
  · intro onMinute
    rw [reopened]
    exact Snapshot.asWritten_of_onMinute (whole.saved_onMinute fun call mutation notifies changed =>
      onMinute _ _ _ (stored call mutation notifies changed))

theorem reopens_from_last_save_failed :
    let credential : Credential := ⟨"access", "Bearer", some "refresh", some ⟨1700000000, 5⟩⟩
    let first := Snapshot.empty.storeCredential "alice" credential
    let second := first.invalidate "alice"
    let backend : UnreliableBackend MemoryBackend := ⟨⟨none, 0⟩, false, [false, true]⟩
    let events : List Event :=
      [.changed 0 (.storeCredential "alice" credential) true, .requested 0, .turned, .wrote first, .saved first true,
       .changed 1 (.invalidate "alice") true, .requested 1]
    let system : Saving (UnreliableBackend MemoryBackend) :=
      ⟨⟨second, true, false, .idle⟩, ⟨⟨some first.json, 1⟩, false, [true]⟩, 2, []⟩
    let shut := shutdown system.store system.backend
    Run (opened backend) events system ∧ .ordered ∉ events ∧ system.owing = [] ∧
      (∀ call mutation notifies, .changed call mutation notifies ∈ events → mutation.Valid) ∧
      shut.2.2 = [⟨second, false⟩] ∧ (Backend.load shut.2.1).1 = .ok (some first.json) ∧
      (openOn shut.2.1).1.state = first := by
  intro credential first second backend events system shut
  have run : Run (opened backend) events system := by
    refine .cons (.change _ _) (.cons (.request _ (by decide)) (.cons (.work_seen rfl rfl)
      (.cons (.work_seen (by rfl) ?_) (.cons (.save _ rfl) (.cons (.change _ _) (.cons (.request _ ?_) .start))))))
    · decide +kernel
    · decide +kernel
  have sound : ∀ call mutation notifies, .changed call mutation notifies ∈ events →
      mutation.Valid ∧ mutation.OnMinute := by
    intro call mutation notifies member
    simp only [events, List.mem_cons, Event.changed.injEq, List.not_mem_nil, reduceCtorEq, false_or,
      or_false] at member
    rcases member with ⟨-, rfl, -⟩ | ⟨-, rfl, -⟩
    · constructor <;> intro expiry same <;> cases same <;> decide +kernel
    · exact ⟨trivial, trivial⟩
  have valid : ∀ call mutation notifies, .changed call mutation notifies ∈ events → mutation.Valid :=
    fun call mutation notifies member => (sound call mutation notifies member).1
  have attempts : shut.2.2 = [⟨second, false⟩] := by decide +kernel
  have loaded : (Backend.load shut.2.1).1 = .ok (some first.json) := by rfl
  obtain ⟨closing, -, -, handedLast, -, -, -, reopened⟩ :=
    reopens_from_last_save (UnreliableBackend.keeps MemoryBackend.keeps) backend run (by simp [events]) rfl valid
  refine ⟨run, by simp [events], rfl, valid, attempts, loaded, ?_⟩
  rw [(reopened _ loaded).2.2 fun call mutation notifies member => (sound call mutation notifies member).2,
    handed_append]
  have handedAll : handed (.ordered :: closing) = [⟨second, false⟩] := handedLast.trans attempts
  rw [handedAll]
  rfl

end Saving

end LoginGateway
