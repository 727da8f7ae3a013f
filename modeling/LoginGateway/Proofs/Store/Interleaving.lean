import LoginGateway.Store.Persisted

namespace LoginGateway

inductive Mutation where
  | storeToken (name token user : String)
  | deleteToken (name : String)
  | invalidate (user : String)
  | storeCredential (user : String) (credential : Credential)
  deriving DecidableEq

theorem TokenIndex.removal_tells (index : TokenIndex) (name : String) :
    (index.removal name).2 = index.containsName name := by
  unfold removal containsName Dict.contains
  cases index.names.find? name <;> rfl

namespace Mutation

def apply (state : Snapshot) : Mutation → Snapshot
  | .storeToken name token user => state.storeToken name token user
  | .deleteToken name => state.deleteToken name
  | .invalidate user => state.invalidate user
  | .storeCredential user credential => state.storeCredential user credential

/-- Whether a save is requested for it: not if the name or the user is not there that is to be removed. -/
def notifies (state : Snapshot) : Mutation → Bool
  | .storeToken _ _ _ => true
  | .deleteToken name => state.index.containsName name
  | .invalidate user => state.hasCredential user
  | .storeCredential _ _ => true

def call {σ : Type} [TokenStore σ] (store : σ) : Mutation → Except StoreError Unit × σ
  | .storeToken name token user => TokenStore.storeToken store name token user
  | .deleteToken name => TokenStore.deleteToken store name
  | .invalidate user => TokenStore.invalidate store user
  | .storeCredential user credential => TokenStore.storeCredential store user credential

theorem call_persisted (store : PersistedStore) (mutation : Mutation) :
    mutation.call store = (.ok (), store.change (mutation.notifies store.state) (mutation.apply store.state)) := by
  cases mutation with
  | deleteToken name =>
    rw [notifies, ← TokenIndex.removal_tells]
    rfl
  | _ => rfl

theorem apply_of_silent {state : Snapshot} {mutation : Mutation} (silent : mutation.notifies state = false) :
    mutation.apply state = state := by
  cases mutation with
  | storeToken name token user => cases silent
  | storeCredential user credential => cases silent
  | deleteToken name =>
    have absent : state.index.names.find? name = none := Option.not_isSome_iff_eq_none.mp (ne_true_of_eq_false silent)
    simp [apply, Snapshot.deleteToken, TokenIndex.remove, TokenIndex.removal, absent]
  | invalidate user =>
    have absent : state.users.find? user = none := Option.not_isSome_iff_eq_none.mp (ne_true_of_eq_false silent)
    simp [apply, Snapshot.invalidate, Dict.erase_of_absent absent]

end Mutation

structure Saving (β : Type) where
  store : PersistedStore
  backend : β
  calls : Nat
  /-- The calls that have changed the state and have yet to request its save. -/
  owing : List Nat

/-- What can happen. Calls are known by their numbers. -/
inductive Saving.Event where
  | changed (call : Nat) (mutation : Mutation) (notifies : Bool)
  | requested (call : Nat)
  | ordered
  | turned
  | wrote (state : Snapshot)
  | refused (state : Snapshot)
  | saved (state : Snapshot) (ok : Bool)
  deriving DecidableEq

namespace Saving

open PersistedStore

variable {β : Type} [Backend β]

def opened (backend : β) : Saving β := ⟨(openOn backend).1, (openOn backend).2, 0, []⟩

def workerEvent (store : PersistedStore) : Event :=
  match store.phase with
  | .taken _ => if oversized store.state then .refused store.state else .wrote store.state
  | _ => .turned

inductive Step : Saving β → Event → Saving β → Prop where
  | change (system : Saving β) (mutation : Mutation) :
    Step system (.changed system.calls mutation (mutation.notifies system.store.state))
      { system with
        store := { system.store with state := mutation.apply system.store.state }
        calls := system.calls + 1
        owing := if mutation.notifies system.store.state then system.calls :: system.owing else system.owing }
  | request (system : Saving β) {call : Nat} (owes : call ∈ system.owing) :
    Step system (.requested call) { system with store := system.store.notify, owing := system.owing.erase call }
  | order (system : Saving β) : Step system .ordered { system with store := { system.store with stopping := true } }
  | work (system : Saving β) {next : PersistedStore} (advance : system.store.advance? = some next) :
    Step system (workerEvent system.store) { system with store := next }
  | save (system : Saving β) {state : Snapshot} {last : Bool} (saving : system.store.phase = .saving state last) :
    Step system (.saved state (Backend.save system.backend state.json).1.isOk)
      { system with
        store := { system.store with phase := afterSave last }
        backend := (Backend.save system.backend state.json).2 }

inductive Run (start : Saving β) : List Event → Saving β → Prop where
  | start : Run start [] start
  | step {events : List Event} {event : Event} {system next : Saving β} (run : Run start events system)
    (step : Step system event next) : Run start (events ++ [event]) next

theorem Run.append {start middle last : Saving β} {events more : List Event} (first : Run start events middle)
    (second : Run middle more last) : Run start (events ++ more) last := by
  induction second with
  | start => rwa [List.append_nil]
  | step run step ih =>
    rw [← List.append_assoc]
    exact .step ih step

theorem Run.single {system next : Saving β} {event : Event} (step : Step system event next) :
    Run system [event] next := .step .start step

theorem Run.cons {system next last : Saving β} {event : Event} {events : List Event}
    (step : Step system event next) (run : Run next events last) : Run system (event :: events) last :=
  (Run.single step).append run

theorem run_call (system : Saving β) (mutation : Mutation) :
    ∃ events, Run system events
      { system with store := (mutation.call system.store).2, calls := system.calls + 1 } := by
  rw [Mutation.call_persisted]
  have changed := Step.change system mutation
  cases notifies : mutation.notifies system.store.state with
  | false =>
    rw [notifies] at changed
    exact ⟨_, .single changed⟩
  | true =>
    rw [notifies] at changed
    let owing : Saving β :=
      { system with
        store := { system.store with state := mutation.apply system.store.state }
        calls := system.calls + 1
        owing := system.calls :: system.owing }
    have owes : system.calls ∈ owing.owing := List.mem_cons_self
    have requested := Step.request owing owes
    simp only [owing, List.erase_cons_head] at requested
    exact ⟨_, .cons changed (.single requested)⟩

def Event.OfWorker : Event → Prop
  | .turned | .wrote _ | .refused _ | .saved _ _ => True
  | _ => False

theorem workerEvent_ofWorker (store : PersistedStore) : Event.OfWorker (workerEvent store) := by
  simp only [workerEvent]
  split
  · split <;> trivial
  · trivial

def handed (events : List Event) : List Attempt :=
  events.filterMap fun event => match event with
    | .saved state ok => some ⟨state, ok⟩
    | _ => none

theorem handed_append (events more : List Event) : handed (events ++ more) = handed events ++ handed more :=
  List.filterMap_append

theorem handed_workerEvent (store : PersistedStore) (events : List Event) :
    handed (workerEvent store :: events) = handed events := by
  simp only [workerEvent, handed]
  split
  · split <;> rfl
  · rfl

theorem advance?_saving {store : PersistedStore} {state : Snapshot} {last : Bool}
    (saving : store.phase = .saving state last) : store.advance? = none := by
  simp [advance?, saving]

theorem work_advance {held : Bool} {steps : Nat} {store next : PersistedStore} {backend : β}
    (advance : store.advance? = some next) : work held (steps + 1) store backend = work held steps next backend := by
  cases phase : store.phase with
  | saving state last => rw [advance?_saving phase] at advance; cases advance
  | _ => simp only [work, phase, advance]

theorem work_waiting {held : Bool} {steps : Nat} {store : PersistedStore} {backend : β}
    (waiting : store.advance? = none) (done : held ∨ ∀ state last, store.phase ≠ .saving state last) :
    work held (steps + 1) store backend = (store, backend, []) := by
  cases phase : store.phase with
  | saving state last => rcases done with rfl | done <;> simp_all [work]
  | _ => simp only [work, phase, waiting]

theorem work_save {steps : Nat} {store : PersistedStore} {state : Snapshot} {last : Bool} {backend : β}
    (saving : store.phase = .saving state last) :
    work false (steps + 1) store backend =
      let after := work false steps { store with phase := afterSave last } (Backend.save backend state.json).2
      (after.1, after.2.1, ⟨state, (Backend.save backend state.json).1.isOk⟩ :: after.2.2) := by
  simp [work, saving]

theorem goes_or_waits (held : Bool) (store : PersistedStore) :
    (∃ next, store.advance? = some next) ∨
    (held = false ∧ ∃ state last, store.phase = .saving state last) ∨
    store.advance? = none ∧ (held = true ∨ ∀ state last, store.phase ≠ .saving state last) := by
  cases advance : store.advance? with
  | some next => exact .inl ⟨next, rfl⟩
  | none =>
    cases phase : store.phase with
    | saving state last =>
      cases held with
      | true => exact .inr (.inr ⟨rfl, .inl rfl⟩)
      | false => exact .inr (.inl ⟨rfl, state, last, rfl⟩)
    | _ => exact .inr (.inr ⟨rfl, .inr (by simp)⟩)

theorem run_work (held : Bool) (steps : Nat) (system : Saving β) :
    ∃ events, Run system events
        { system with
          store := (work held steps system.store system.backend).1
          backend := (work held steps system.store system.backend).2.1 } ∧
      (∀ event ∈ events, Event.OfWorker event) ∧
      handed events = (work held steps system.store system.backend).2.2 := by
  induction steps generalizing system with
  | zero => exact ⟨[], .start, by simp, rfl⟩
  | succ steps ih =>
    rcases goes_or_waits held system.store with ⟨next, advance⟩ | ⟨rfl, state, last, saving⟩ | ⟨waiting, done⟩
    · obtain ⟨events, run, worker, attempts⟩ := ih { system with store := next }
      rw [work_advance advance]
      refine ⟨_ :: events, .cons (.work system advance) run, ?_, ?_⟩
      · exact List.forall_mem_cons.mpr ⟨workerEvent_ofWorker _, worker⟩
      · rw [handed_workerEvent]
        exact attempts
    · obtain ⟨events, run, worker, attempts⟩ := ih
        { system with
          store := { system.store with phase := afterSave last }
          backend := (Backend.save system.backend state.json).2 }
      rw [work_save saving]
      refine ⟨_ :: events, .cons (.save system saving) run, ?_, ?_⟩
      · exact List.forall_mem_cons.mpr ⟨trivial, worker⟩
      · exact congrArg (_ :: ·) attempts
    · rw [work_waiting waiting done]
      exact ⟨[], .start, by simp, rfl⟩

end Saving

end LoginGateway
