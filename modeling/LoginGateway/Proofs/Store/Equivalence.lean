import LoginGateway.Proofs.Runs
import LoginGateway.Proofs.Store.SnapshotStore

namespace LoginGateway

inductive Operation where
  | generate (kind : TokenKind) (user email : String)
  | nameList
  | containsName (name : String)
  | userOf (token : String)
  | hasCredential (user : String)
  | credentialOf (user : String)
  | change (mutation : Mutation)
  deriving DecidableEq

inductive Answer where
  | text (result : Except StoreError String)
  | names (names : List String)
  | truth (holds : Bool)
  | credential (result : Except StoreError (Option Credential))
  | done (result : Except StoreError Unit)
  deriving DecidableEq

structure Outcome where
  answer : Answer
  calls : Nat
  state : Snapshot
  deriving DecidableEq

def Signer.after (signer : Signer) (calls : Nat) : Signer := fun user email lifetime =>
  (signer user email lifetime).drop calls

namespace Operation

variable {σ τ : Type} [TokenStore σ] [TokenStore τ]

def answer (store : σ) (signer : Signer) : Operation → Answer × Nat
  | .generate kind user email =>
    let (result, calls) := TokenStore.generate store signer kind user email
    (.text result, calls)
  | .nameList => (.names (TokenStore.nameList store), 0)
  | .containsName name => (.truth (TokenStore.containsName store name), 0)
  | .userOf token => (.text (TokenStore.userOf store token), 0)
  | .hasCredential user => (.truth (TokenStore.hasCredential store user), 0)
  | .credentialOf user => (.credential (TokenStore.credentialOf store user), 0)
  | .change mutation => (.done (mutation.call store).1, 0)

def next (store : σ) : Operation → σ
  | .change mutation => (mutation.call store).2
  | _ => store

variable [SnapshotStore σ] [SnapshotStore τ]

def outcome (store : σ) (signer : Signer) (operation : Operation) : Outcome :=
  ⟨(operation.answer store signer).1, (operation.answer store signer).2, SnapshotStore.state (operation.next store)⟩

def step (stage : σ × Signer) (operation : Operation) : (σ × Signer) × Outcome :=
  let outcome := operation.outcome stage.1 stage.2
  ((operation.next stage.1, stage.2.after outcome.calls), outcome)

theorem state_next (store : σ) (operation : Operation) :
    SnapshotStore.state (operation.next store) = match operation with
      | .change mutation => mutation.apply (SnapshotStore.state store)
      | _ => SnapshotStore.state store := by
  cases operation with
  | change mutation => exact SnapshotStore.state_call store mutation
  | _ => rfl

theorem outcome_alike {store : σ} {other : τ} (same : SnapshotStore.state store = SnapshotStore.state other)
    (signer : Signer) (operation : Operation) : operation.outcome store signer = operation.outcome other signer := by
  have left : SnapshotStore.state (operation.next store) = SnapshotStore.state (operation.next other) := by
    rw [state_next, state_next, same]
  have answered : operation.answer store signer = operation.answer other signer := by
    cases operation with
    | generate kind user email => simp only [answer, SnapshotStore.generate, same]
    | nameList => simp only [answer, SnapshotStore.nameList, same]
    | containsName name => simp only [answer, SnapshotStore.containsName, same]
    | userOf token => simp only [answer, SnapshotStore.userOf, same]
    | hasCredential user => simp only [answer, SnapshotStore.hasCredential, same]
    | credentialOf user => simp only [answer, SnapshotStore.credentialOf, same]
    | change mutation => simp only [answer, SnapshotStore.succeeds]
  simp only [outcome, left, answered]

abbrev inMemory (signer : Signer) (operations : List Operation) : (MemoryStore × Signer) × List Outcome :=
  runAll step (MemoryStore.empty, signer) operations

/-- The store in memory has come to this state and to what is left of the signer, with these outcomes on the way. -/
structure Alike (memory : (MemoryStore × Signer) × List Outcome) (outcomes : List Outcome) (state : Snapshot)
    (rest : Signer) : Prop where
  outcomes : memory.2 = outcomes
  state : memory.1.1.state = state
  signer : memory.1.2 = rest

theorem Alike.step {signer rest : Signer} {operations : List Operation} {outcomes : List Outcome} {store : σ}
    (alike : Alike (inMemory signer operations) outcomes (SnapshotStore.state store) rest) (operation : Operation) :
    Alike (inMemory signer (operations ++ [operation])) (outcomes ++ [operation.outcome store rest])
      (SnapshotStore.state (operation.next store)) (rest.after (operation.outcome store rest).calls) := by
  unfold inMemory at alike ⊢
  rw [runAll_append]
  generalize runAll Operation.step (MemoryStore.empty, signer) operations = memory at alike
  obtain ⟨⟨other, drawn⟩, earlier⟩ := memory
  obtain ⟨rfl, same, rfl⟩ := alike
  have told : operation.outcome other drawn = operation.outcome store drawn :=
    outcome_alike same drawn operation
  refine ⟨?_, ?_, ?_⟩
  · simp only [Operation.step, told]
  · exact congrArg Outcome.state told
  · simp only [Operation.step, told]

end Operation

namespace Saving

open PersistedStore

variable {β : Type} [Backend β]

/-- What goes on beside the calls: late requests, orders to stop, and all that the worker and the backend do. -/
def Event.Beside : Event → Prop
  | .changed _ _ _ => False
  | _ => True

theorem Event.OfWorker.beside {event : Event} (worker : event.OfWorker) : event.Beside := by
  cases event with
  | changed call mutation notifies => exact worker
  | _ => trivial

/-- Operations on a persisted store in turn, with their outcomes. Anything may go on between two of them, and a
change may request its save in the course of what comes later. -/
inductive Session (start : Saving β) (signer : Signer) :
    List Operation → List Outcome → Saving β → Signer → Prop where
  | start : Session start signer [] [] start signer
  | beside {operations : List Operation} {outcomes : List Outcome} {system next : Saving β} {rest : Signer}
      {event : Event} (session : Session start signer operations outcomes system rest)
      (step : Step system event next) (beside : event.Beside) : Session start signer operations outcomes next rest
  | call {operations : List Operation} {outcomes : List Outcome} {system : Saving β} {rest : Signer}
      (session : Session start signer operations outcomes system rest) (operation : Operation) :
      Session start signer (operations ++ [operation]) (outcomes ++ [operation.outcome system.store rest])
        { system with store := operation.next system.store }
        (rest.after (operation.outcome system.store rest).calls)
  | early {operations : List Operation} {outcomes : List Outcome} {system next : Saving β} {rest : Signer}
      {call : Nat} {mutation : Mutation} {notifies : Bool}
      (session : Session start signer operations outcomes system rest)
      (step : Step system (.changed call mutation notifies) next) :
      Session start signer (operations ++ [.change mutation])
        (outcomes ++ [(Operation.change mutation).outcome system.store rest]) next rest

variable {start system next : Saving β} {signer rest : Signer} {operations : List Operation}
  {outcomes : List Outcome}

theorem Session.run {events : List Event} (session : Session start signer operations outcomes system rest)
    (run : Run system events next) (beside : ∀ event ∈ events, event.Beside) :
    Session start signer operations outcomes next rest := by
  induction run with
  | start => exact session
  | step run step ih =>
    have ⟨before, last⟩ := List.forall_mem_append.mp beside
    exact (ih before).beside step (last _ (List.mem_singleton_self _))

theorem Session.settle (session : Session start signer operations outcomes system rest) (held : Bool) :
    Session start signer operations outcomes
      { system with
        store := (PersistedStore.settle held system.store system.backend).1
        backend := (PersistedStore.settle held system.store system.backend).2.1 } rest := by
  obtain ⟨events, run, worker, -⟩ := run_work held system.store.rank system
  exact session.run run fun event member => (worker event member).beside

theorem Session.shutdown (session : Session start signer operations outcomes system rest) :
    Session start signer operations outcomes
      { system with
        store := (PersistedStore.shutdown system.store system.backend).1
        backend := (PersistedStore.shutdown system.store system.backend).2.1 } rest :=
  (session.beside (.order system) trivial).settle false

theorem Step.state_beside {event : Event} (step : Step system event next) (beside : event.Beside) :
    next.store.state = system.store.state := by
  cases step with
  | change mutation => exact beside.elim
  | request owes => exact (notify_fields _).1
  | order => rfl
  | work advance => exact (advance?_state advance).1
  | save saving => rfl

theorem Step.state_changed {call : Nat} {mutation : Mutation} {notifies : Bool}
    (step : Step system (.changed call mutation notifies) next) :
    next.store.state = mutation.apply system.store.state := by
  generalize same : Event.changed call mutation notifies = event at step
  cases step with
  | change other =>
    cases same
    rfl
  | work advance =>
    have worker := workerEvent_ofWorker system.store
    rw [← same] at worker
    exact worker.elim
  | _ => cases same

theorem Session.alike (empty : start.store.state = .empty)
    (session : Session start signer operations outcomes system rest) :
    Operation.Alike (Operation.inMemory signer operations) outcomes system.store.state rest := by
  induction session with
  | start => exact ⟨rfl, empty.symm, rfl⟩
  | beside session step beside ih =>
    rw [step.state_beside beside]
    exact ih
  | call session operation ih => exact Operation.Alike.step ih operation
  | @early operations outcomes system next rest call mutation notifies session step ih =>
    have changed : next.store.state = SnapshotStore.state ((Operation.change mutation).next system.store) := by
      rw [step.state_changed, Operation.state_next]
      rfl
    rw [changed]
    exact Operation.Alike.step ih (.change mutation)

/-- What a backend has for a store that then starts empty: nothing, what is no snapshot, or an error. -/
inductive Blank (backend : β) : Prop where
  | nothing (loaded : (Backend.load backend).1 = .ok none)
  | unreadable {data : Octets} (loaded : (Backend.load backend).1 = .ok (some data))
      (other : Snapshot.ofJson? data = none)
  | failed {error : BackendError} (loaded : (Backend.load backend).1 = .error error)

theorem Blank.opened {backend : β} (blank : Blank backend) : (opened backend).store.state = .empty := by
  have start : (Saving.opened backend).store.state = loadedState (Backend.load backend).1 := rfl
  cases blank with
  | nothing loaded => rw [start, loaded, loadedState]
  | unreadable loaded other => rw [start, loaded, loadedState, other, Option.getD_none]
  | failed loaded => rw [start, loaded, loadedState]

/-- Whatever operations are done on a store that was opened on a blank backend, and whatever happens between and
beside them, each has the outcome that it has on a store in memory: the same answer, as many calls of the signer, and
the same names, tokens and users after it. At every moment the two stores hold the same state, also once the
worker has stopped, and what the signer has left is the same. -/
theorem stores_answer_alike {backend : β} (blank : Blank backend)
    (session : Session (opened backend) signer operations outcomes system rest) :
    let memory := Operation.inMemory signer operations
    memory.2 = outcomes ∧ memory.1.1.state = system.store.state ∧ memory.1.2 = rest := by
  have alike := session.alike blank.opened
  exact ⟨alike.outcomes, alike.state, alike.signer⟩

theorem stores_answer_alike_shut :
    let backend : UnreliableBackend MemoryBackend := ⟨⟨some [0x7B], 0⟩, false, [true]⟩
    let signer : Signer := fun _ _ _ => [.ok "first", .ok "first", .ok "second"]
    let operations : List Operation :=
      [.generate .session "alice" "", .change (.storeToken "laptop" "first" "alice"), .generate .api "alice" "",
       .change (.deleteToken "laptop"), .userOf "first", .nameList]
    Blank backend ∧ ∃ outcomes system rest, Session (opened backend) signer operations outcomes system rest ∧
      system.store.phase = .stopped ∧ system.backend.inner.blob = some [0x7B] ∧
      outcomes.map (fun outcome => (outcome.answer, outcome.calls)) =
        [(.text (.ok "first"), 1), (.done (.ok ()), 0), (.text (.ok "second"), 2), (.done (.ok ()), 0),
         (.text (.error .tokenNotFound), 0), (.names [], 0)] ∧
      let memory := Operation.inMemory signer operations
      memory.2 = outcomes ∧ memory.1.1.state = system.store.state ∧ memory.1.2 = rest := by
  intro backend signer operations
  have blank : Blank backend := .unreadable rfl (by decide +kernel)
  have fresh : Session (opened backend) signer [] [] (opened backend) signer := .start
  have minted := fresh.call (.generate .session "alice" "")
  have stored := minted.call (.change (.storeToken "laptop" "first" "alice"))
  have held := (stored.settle true).call (.generate .api "alice" "")
  have deleted := held.early (.change _ (.deleteToken "laptop"))
  have shut := deleted.shutdown.beside (@Step.request _ _ _ 0 (by decide +kernel)) trivial
  have session := (shut.call (.userOf "first")).call .nameList
  exact ⟨blank, _, _, _, session, by decide +kernel, by decide +kernel, by decide +kernel,
    stores_answer_alike blank session⟩

end Saving

end LoginGateway
