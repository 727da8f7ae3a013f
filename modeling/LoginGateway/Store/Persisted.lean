import LoginGateway.Backend.Basic
import LoginGateway.Store.Memory

namespace LoginGateway

/-- What the save worker is doing. The flag on a save says that the worker stops after it. -/
inductive WorkerPhase where
  | idle
  | closing
  | taken (last : Bool)
  | saving (state : Snapshot) (last : Bool)
  | stopped
  deriving DecidableEq

structure PersistedStore where
  state : Snapshot
  pending : Bool
  stopping : Bool
  phase : WorkerPhase
  deriving DecidableEq

namespace PersistedStore

def ofState (state : Snapshot) : PersistedStore := ⟨state, false, false, .idle⟩

def loadedState (result : Except BackendError (Option Octets)) : Snapshot :=
  match result with
  | .ok (some data) => (Snapshot.ofJson? data).getD .empty
  | .ok none => .empty
  | .error _ => .empty

def openOn {β : Type} [Backend β] (backend : β) : PersistedStore × β :=
  let (result, backend) := Backend.load backend
  (ofState (loadedState result), backend)

def notify (store : PersistedStore) : PersistedStore :=
  if store.phase = .stopped then store else { store with pending := true }

def change (store : PersistedStore) (save : Bool) (state : Snapshot) : PersistedStore :=
  let changed := { store with state := state }
  if save then changed.notify else changed

instance : TokenStore PersistedStore where
  generate store := store.state.generate
  nameList store := store.state.index.nameList
  containsName store := store.state.index.containsName
  userOf store := store.state.userOf
  storeToken store name token user := (.ok (), store.change true (store.state.storeToken name token user))
  deleteToken store name :=
    (.ok (), store.change (store.state.index.removal name).2 (store.state.deleteToken name))
  hasCredential store := store.state.hasCredential
  invalidate store user := (.ok (), store.change (store.state.hasCredential user) (store.state.invalidate user))
  storeCredential store user credential :=
    (.ok (), store.change true (store.state.storeCredential user credential))
  credentialOf store := store.state.credentialOf

def oversized (state : Snapshot) : Bool := Snapshot.sizeLimit < state.json.length

def afterSave (last : Bool) : WorkerPhase := if last then .stopped else .idle

/-- The worker's next step, if it waits for nothing. A request is taken before an order to stop is heeded. -/
def advance? (store : PersistedStore) : Option PersistedStore :=
  match store.phase with
  | .idle =>
    if store.pending then some { store with pending := false, phase := .taken false }
    else if store.stopping then some { store with phase := .closing }
    else none
  | .closing =>
    if store.pending then some { store with pending := false, phase := .taken true }
    else some { store with phase := .stopped }
  | .taken last =>
    if oversized store.state then some { store with phase := afterSave last }
    else some { store with phase := .saving store.state last }
  | .saving _ _ => none
  | .stopped => none

structure Attempt where
  state : Snapshot
  saved : Bool
  deriving DecidableEq

def rank (store : PersistedStore) : Nat :=
  (if store.pending then 4 else 0) + match store.phase with
    | .taken false => 4
    | .saving _ false => 3
    | .idle => 2
    | .taken true => 2
    | .saving _ true => 1
    | .closing => 1
    | .stopped => 0

/-- Runs the worker for so many steps, or until it waits; while saves are held, it waits for those too. -/
def work {β : Type} [Backend β] (held : Bool) :
    Nat → PersistedStore → β → PersistedStore × β × List Attempt
  | 0, store, backend => (store, backend, [])
  | steps + 1, store, backend =>
    match store.phase with
    | .saving state last =>
      if held then (store, backend, [])
      else
        let (result, backend) := Backend.save backend state.json
        let (store, backend, attempts) := work held steps { store with phase := afterSave last } backend
        (store, backend, ⟨state, result.isOk⟩ :: attempts)
    | _ =>
      match store.advance? with
      | some next => work held steps next backend
      | none => (store, backend, [])

def settle {β : Type} [Backend β] (held : Bool) (store : PersistedStore) (backend : β) :
    PersistedStore × β × List Attempt :=
  work held store.rank store backend

def shutdown {β : Type} [Backend β] (store : PersistedStore) (backend : β) : PersistedStore × β × List Attempt :=
  settle false { store with stopping := true } backend

end PersistedStore

end LoginGateway
