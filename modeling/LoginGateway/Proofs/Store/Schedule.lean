import LoginGateway.Proofs.Store.Durability
import LoginGateway.Proofs.Store.Equivalence

namespace LoginGateway

namespace Saving

open PersistedStore

variable {β : Type} [Backend β]

def Event.Goes (held : Bool) : Event → Prop
  | .turned | .wrote _ | .refused _ => True
  | .saved _ _ => held = false
  | _ => False

inductive Settles (held : Bool) : Saving β → List Event → Saving β → Prop where
  | still {system : Saving β} (still : ∀ event next, Step system event next → ¬event.Goes held) :
    Settles held system [] system
  | step {system middle next : Saving β} {event : Event} {events : List Event} (step : Step system event middle)
      (goes : event.Goes held) (rest : Settles held middle events next) : Settles held system (event :: events) next

/-- What such a run does to the outside: it writes the state down, and the backend saves it. -/
def told (events : List Event) : List Event := events.filter (· ≠ .turned)

def Tells (held : Bool) (system : Saving β) (report : List Event) (next : Saving β) : Prop :=
  ∃ events, Settles held system events next ∧ told events = report

end Saving

open PersistedStore Saving

inductive Command where
  | call (operation : Operation)
  | settle (held : Bool)
  | shutdown
  | reopen
  deriving DecidableEq

inductive Standing where
  | resting
  | holding (written : Snapshot)
  | closed
  deriving DecidableEq

structure Schedule (β : Type) where
  state : Snapshot
  asked : Nat
  standing : Standing
  backend : β

namespace Schedule

variable {β : Type} [Backend β]

def opened (backend : β) : Schedule β :=
  ⟨loadedState (Backend.load backend).1, 0, .resting, (Backend.load backend).2⟩

/-- Only changes ask for a save, and not those that have nothing to remove. -/
def call (schedule : Schedule β) : Operation → Schedule β
  | .change mutation =>
    { schedule with
      state := mutation.apply schedule.state
      asked := schedule.asked + if mutation.notifies schedule.state then 1 else 0 }
  | _ => schedule

def hand (schedule : Schedule β) (written : Snapshot) : Schedule β × Event :=
  let (result, backend) := Backend.save schedule.backend written.json
  ({ schedule with standing := .resting, backend := backend }, .saved written result.isOk)

/-- One attempt for all changes that have asked for one, of the state as it is. The backend does not get what is too
large. -/
def save (schedule : Schedule β) (held : Bool) : Schedule β × List Event :=
  let written := { schedule with asked := 0 }
  if schedule.asked = 0 then (schedule, [])
  else if Snapshot.sizeLimit < schedule.state.json.length then (written, [.refused schedule.state])
  else if held then ({ written with standing := .holding schedule.state }, [.wrote schedule.state])
  else
    let (saved, event) := written.hand schedule.state
    (saved, [.wrote schedule.state, event])

def settle (schedule : Schedule β) (held : Bool) : Schedule β × List Event :=
  match schedule.standing with
  | .resting => schedule.save held
  | .holding written =>
    if held then (schedule, [])
    else
      let (free, event) := schedule.hand written
      let (saved, events) := free.save false
      (saved, event :: events)
  | .closed => (schedule, [])

def shutdown (schedule : Schedule β) : Schedule β × List Event :=
  let (settled, events) := schedule.settle false
  ({ settled with standing := .closed }, events)

def follow (schedule : Schedule β) : Command → Schedule β × List Event
  | .call operation => (schedule.call operation, [])
  | .settle held => schedule.settle held
  | .shutdown => schedule.shutdown
  | .reopen =>
    let (shut, events) := schedule.shutdown
    (.opened shut.backend, events)

def store (schedule : Schedule β) : PersistedStore :=
  match schedule.standing with
  | .resting => ⟨schedule.state, schedule.asked != 0, false, .idle⟩
  | .holding written => ⟨schedule.state, schedule.asked != 0, false, .saving written false⟩
  | .closed => ⟨schedule.state, false, true, .stopped⟩

def system (schedule : Schedule β) : Saving β := ⟨schedule.store, schedule.backend, 0, []⟩

end Schedule

namespace Saving

variable {β : Type} [Backend β]

def ordered (system : Saving β) : Saving β := { system with store := { system.store with stopping := true } }

inductive Does (system : Saving β) : Command → List Event → Saving β → Prop where
  | call (operation : Operation) :
    Does system (.call operation) [] { system with store := operation.next system.store }
  | settle {held : Bool} {report : List Event} {next : Saving β} (tells : Tells held system report next) :
    Does system (.settle held) report next
  | shutdown {report : List Event} {next : Saving β} (tells : Tells false (ordered system) report next) :
    Does system .shutdown report next
  | reopen {report : List Event} {next : Saving β} (tells : Tells false (ordered system) report next) :
    Does system .reopen report (opened next.backend)

inductive Plays (backend : β) : List Command → List (List Event) → Saving β → Prop where
  | opened : Plays backend [] [] (opened backend)
  | step {script : List Command} {reports : List (List Event)} {system next : Saving β} {command : Command}
      {report : List Event} (plays : Plays backend script reports system) (does : Does system command report next) :
      Plays backend (script ++ [command]) (reports ++ [report]) next

variable {held : Bool} {system middle next last : Saving β} {event other : Event} {report : List Event}

theorem workerEvent_goes (store : PersistedStore) : (workerEvent store).Goes held := by
  simp only [workerEvent]
  split
  · split <;> trivial
  · trivial

theorem Step.of_goes (step : Step system event next) (goes : event.Goes held) :
    (∃ store, system.store.advance? = some store ∧ event = workerEvent system.store ∧
      next = { system with store := store }) ∨
    held = false ∧ ∃ state last, system.store.phase = .saving state last ∧
      event = .saved state (Backend.save system.backend state.json).1.isOk ∧
      next = { system with
        store := { system.store with phase := afterSave last }
        backend := (Backend.save system.backend state.json).2 } := by
  cases step with
  | change mutation => exact goes.elim
  | request owes => exact goes.elim
  | order => exact goes.elim
  | work advance => exact .inl ⟨_, advance, rfl, rfl⟩
  | save saving => exact .inr ⟨goes, _, _, saving, rfl, rfl⟩

theorem Step.unique (first : Step system event next) (second : Step system other last) (goes : event.Goes held)
    (also : other.Goes held) : event = other ∧ next = last := by
  rcases first.of_goes goes with ⟨store, advance, rfl, rfl⟩ | ⟨-, state, last, saving, rfl, rfl⟩
  · rcases second.of_goes also with ⟨again, same, rfl, rfl⟩ | ⟨-, state, last, saving, -, -⟩
    · cases advance.symm.trans same
      exact ⟨rfl, rfl⟩
    · cases (advance?_saving saving).symm.trans advance
  · rcases second.of_goes also with ⟨store, advance, -, -⟩ | ⟨-, again, last, same, rfl, rfl⟩
    · cases (advance?_saving saving).symm.trans advance
    · cases saving.symm.trans same
      exact ⟨rfl, rfl⟩

theorem Settles.unique {events others : List Event} (first : Settles held system events next)
    (second : Settles held system others last) : events = others ∧ next = last := by
  induction first generalizing others last with
  | still still =>
    cases second with
    | still => exact ⟨rfl, rfl⟩
    | step step goes rest => exact absurd goes (still _ _ step)
  | step step goes rest ih =>
    cases second with
    | still still => exact absurd goes (still _ _ step)
    | step again also more =>
      obtain ⟨rfl, rfl⟩ := step.unique again goes also
      obtain ⟨rfl, rfl⟩ := ih more
      exact ⟨rfl, rfl⟩

theorem Tells.unique {again : List Event} (first : Tells held system report next)
    (second : Tells held system again last) : report = again ∧ next = last := by
  obtain ⟨events, settles, rfl⟩ := first
  obtain ⟨others, more, rfl⟩ := second
  obtain ⟨rfl, rfl⟩ := settles.unique more
  exact ⟨rfl, rfl⟩

theorem Settles.waits (waiting : system.store.advance? = none)
    (done : held = true ∨ ∀ state last, system.store.phase ≠ .saving state last) : Settles held system [] system := by
  refine .still fun event next step goes => ?_
  rcases step.of_goes goes with ⟨store, advance, -, -⟩ | ⟨free, state, last, saving, -, -⟩
  · cases waiting.symm.trans advance
  · rcases done with hold | other
    · cases hold.symm.trans free
    · exact other state last saving

theorem Tells.still (waiting : system.store.advance? = none)
    (done : held = true ∨ system.store.phase.underWay? = none) : Tells held system [] system := by
  refine ⟨[], .waits waiting (done.imp_right fun free state last saving => ?_), rfl⟩
  rw [saving] at free
  cases free

theorem told_cons (event : Event) (events : List Event) : told (event :: events) = told [event] ++ told events :=
  List.filter_append [event] events

theorem Tells.step (step : Step system event middle) (goes : event.Goes held)
    (rest : Tells held middle report next) : Tells held system (told [event] ++ report) next := by
  obtain ⟨events, settles, rfl⟩ := rest
  exact ⟨event :: events, .step step goes settles, told_cons event events⟩

theorem Tells.turn {store : PersistedStore} (advance : system.store.advance? = some store)
    (turned : workerEvent system.store = .turned) (rest : Tells held { system with store := store } report next) :
    Tells held system report next := by
  have step := Step.work system advance
  rw [turned] at step
  exact .step step trivial rest

theorem Tells.write {store : PersistedStore} {last : Bool} (taken : system.store.phase = .taken last)
    (advance : system.store.advance? = some store) (rest : Tells held { system with store := store } report next) :
    Tells held system (workerEvent system.store :: report) next := by
  have shown : workerEvent system.store ≠ .turned := by
    simp only [workerEvent, taken]
    split <;> simp
  have tells := Tells.step (.work system advance) (workerEvent_goes _) rest
  rwa [told, List.filter_cons_of_pos (by simpa using shown)] at tells

theorem Tells.hand {state : Snapshot} {last : Bool} (saving : system.store.phase = .saving state last)
    (rest : Tells false
      { system with
        store := { system.store with phase := afterSave last }
        backend := (Backend.save system.backend state.json).2 } report next) :
    Tells false system (.saved state (Backend.save system.backend state.json).1.isOk :: report) next :=
  .step (.save system saving) rfl rest

theorem Step.ordered (step : Step system event next) (goes : event.Goes held)
    (going : system.store.stopping = false) :
    Step (ordered system) event (ordered next) ∧ next.store.stopping = false := by
  rcases step.of_goes goes with ⟨store, advance, rfl, rfl⟩ | ⟨-, state, last, saving, rfl, rfl⟩
  · have again : (Saving.ordered system).store.advance? = some { store with stopping := true } := by
      rcases advance?_cases advance with
        ⟨phase, pending, rfl⟩ | ⟨-, -, stopping, -⟩ | ⟨phase, pending, rfl⟩ | ⟨phase, free, rfl⟩ |
        ⟨last, phase, large, rfl⟩ | ⟨last, phase, fits, rfl⟩
      · simp [Saving.ordered, advance?, phase, pending]
      · cases going.symm.trans stopping
      · simp [Saving.ordered, advance?, phase, pending]
      · simp [Saving.ordered, advance?, phase, free]
      · simp [Saving.ordered, advance?, phase, large]
      · simp [Saving.ordered, advance?, phase, fits]
    exact ⟨.work (Saving.ordered system) again, (advance?_state advance).2.trans going⟩
  · exact ⟨.save (Saving.ordered system) saving, going⟩

def shut (system : Saving β) : Saving β :=
  { system with store := { system.store with stopping := true, phase := .stopped } }

theorem Settles.ordered {events : List Event} (settles : Settles false system events next)
    (going : system.store.stopping = false) (idle : next.store.phase = .idle) (free : next.store.pending = false) :
    Tells false (ordered system) (told events) (shut next) := by
  induction settles with
  | @still system still =>
    -- With nothing to do the worker turns to the order, finds no last request, and stops.
    have heeds : (Saving.ordered system).store.advance? =
        some { system.store with stopping := true, phase := .closing } := by
      simp [Saving.ordered, advance?, idle, free]
    have stops : advance? { system.store with stopping := true, phase := .closing } = some (shut system).store := by
      simp [advance?, free, shut]
    refine .turn heeds (by simp [Saving.ordered, workerEvent, idle]) (.turn stops rfl (.still rfl (.inr rfl)))
  | step step goes rest ih =>
    obtain ⟨again, later⟩ := step.ordered goes going
    rw [told_cons]
    exact .step again goes (ih later idle free)

theorem handed_told (events : List Event) : handed (told events) = handed events := by
  simp only [handed, told, List.filterMap_filter]
  congr 1
  funext event
  cases event <;> rfl

theorem settles_work (held : Bool) (steps : Nat) (system : Saving β) (enough : system.store.rank ≤ steps) :
    ∃ events, Settles held system events
        { system with
          store := (work held steps system.store system.backend).1
          backend := (work held steps system.store system.backend).2.1 } ∧
      handed events = (work held steps system.store system.backend).2.2 := by
  -- The rank falls with every step of the worker, so that it does not run out of steps before it waits.
  induction steps generalizing system with
  | zero =>
    have stopped := stopped_of_rank (Nat.le_zero.mp enough)
    exact ⟨[], .waits (by rw [advance?, stopped]) (.inr (by simp [stopped])), rfl⟩
  | succ steps ih =>
    rcases goes_or_waits held system.store with ⟨store, advance⟩ | ⟨rfl, state, last, saving⟩ | ⟨waiting, done⟩
    · have less := advance?_rank advance
      obtain ⟨events, settles, attempts⟩ := ih { system with store := store } (by simp only; omega)
      rw [work_advance advance]
      refine ⟨_, .step (.work system advance) (workerEvent_goes _) settles, ?_⟩
      rw [handed_workerEvent]
      exact attempts
    · have less := save_rank saving
      obtain ⟨events, settles, attempts⟩ := ih
        { system with
          store := { system.store with phase := afterSave last }
          backend := (Backend.save system.backend state.json).2 } (by simp only; omega)
      rw [work_save saving]
      exact ⟨_, .step (.save system saving) rfl settles, congrArg (_ :: ·) attempts⟩
    · rw [work_waiting waiting done]
      exact ⟨[], .waits waiting done, rfl⟩

theorem Tells.settle_eq {store : PersistedStore} {backend : β} {calls : Nat} {owing : List Nat}
    (tells : Tells held ⟨store, backend, calls, owing⟩ report next) :
    PersistedStore.settle held store backend = (next.store, next.backend, handed report) := by
  obtain ⟨events, settles, rfl⟩ := tells
  obtain ⟨others, worked, attempts⟩ := settles_work held store.rank ⟨store, backend, calls, owing⟩ (Nat.le_refl _)
  obtain ⟨rfl, rfl⟩ := settles.unique worked
  rw [handed_told, attempts]
  rfl

end Saving

namespace Schedule

variable {β : Type} [Backend β]

theorem tells_save (schedule : Schedule β) (resting : schedule.standing = .resting) (held : Bool) :
    Tells held schedule.system (schedule.save held).2 (schedule.save held).1.system := by
  obtain ⟨state, asked, standing, backend⟩ := schedule
  cases resting
  cases asked with
  | zero => exact .still rfl (.inr rfl)
  | succ asked =>
    -- The request is taken; then it is a matter of size and of the hold how far the worker gets.
    let taken : PersistedStore := ⟨state, false, false, .taken false⟩
    have turn : advance? ⟨state, true, false, .idle⟩ = some taken := rfl
    refine .turn turn rfl ?_
    simp only [save, Nat.succ_ne_zero, ↓reduceIte]
    split
    · rename_i large
      have refused : workerEvent taken = .refused state := by simp [workerEvent, taken, oversized, large]
      have advance : taken.advance? = some ⟨state, false, false, .idle⟩ := by
        simp [advance?, taken, oversized, large, afterSave]
      rw [← refused]
      exact .write rfl advance (.still rfl (.inr rfl))
    · rename_i fits
      have wrote : workerEvent taken = .wrote state := by simp [workerEvent, taken, oversized, fits]
      have advance : taken.advance? = some ⟨state, false, false, .saving state false⟩ := by
        simp [advance?, taken, oversized, fits]
      cases held with
      | true =>
        rw [← wrote]
        exact .write rfl advance (.still rfl (.inl rfl))
      | false =>
        rw [← wrote]
        exact .write rfl advance (.hand rfl (.still rfl (.inr rfl)))

theorem tells_settle (schedule : Schedule β) (held : Bool) :
    Tells held schedule.system (schedule.settle held).2 (schedule.settle held).1.system := by
  cases standing : schedule.standing with
  | resting =>
    simp only [settle, standing]
    exact schedule.tells_save standing held
  | closed =>
    simp only [settle, standing]
    have stopped : schedule.system.store.phase = .stopped := by simp [system, store, standing]
    exact .still (by rw [advance?, stopped]) (.inr (by rw [stopped]; rfl))
  | holding written =>
    obtain ⟨state, asked, _, backend⟩ := schedule
    cases standing
    cases held with
    | true => exact .still rfl (.inl rfl)
    | false =>
      exact .hand rfl (tells_save ⟨state, asked, .resting, (Backend.save backend written.json).2⟩ rfl false)

theorem save_rests (schedule : Schedule β) (resting : schedule.standing = .resting) :
    (schedule.save false).1.standing = .resting ∧ (schedule.save false).1.asked = 0 := by
  simp only [save]
  split
  · rename_i nothing
    exact ⟨resting, nothing⟩
  · split
    · exact ⟨resting, rfl⟩
    · exact ⟨rfl, rfl⟩

theorem settle_rests (schedule : Schedule β) (awake : schedule.standing ≠ .closed) :
    (schedule.settle false).1.standing = .resting ∧ (schedule.settle false).1.asked = 0 := by
  cases standing : schedule.standing with
  | resting =>
    simp only [settle, standing]
    exact schedule.save_rests standing
  | holding written =>
    simp only [settle, standing]
    exact save_rests _ rfl
  | closed => exact absurd standing awake

theorem tells_shutdown (schedule : Schedule β) :
    Tells false (ordered schedule.system) schedule.shutdown.2 schedule.shutdown.1.system := by
  by_cases closed : schedule.standing = .closed
  · obtain ⟨state, asked, _, backend⟩ := schedule
    cases closed
    exact .still rfl (.inr rfl)
  · obtain ⟨events, settles, same⟩ := schedule.tells_settle false
    obtain ⟨rests, nothing⟩ := schedule.settle_rests closed
    have going : schedule.system.store.stopping = false := by
      cases standing : schedule.standing with
      | closed => exact absurd standing closed
      | _ => simp [system, store, standing]
    have tells := settles.ordered going (by simp [system, store, rests]) (by simp [system, store, rests, nothing])
    rw [same] at tells
    have shuts : shut (schedule.settle false).1.system = schedule.shutdown.1.system := by
      simp [shut, shutdown, system, store, rests, nothing]
    rwa [shuts] at tells

omit [Backend β] in
theorem store_state (schedule : Schedule β) : schedule.store.state = schedule.state := by
  cases standing : schedule.standing <;> simp [store, standing]

omit [Backend β] in
theorem store_call (schedule : Schedule β) (operation : Operation) :
    operation.next schedule.store = (schedule.call operation).store := by
  cases operation with
  | change mutation =>
    rw [Operation.next, Mutation.call_persisted, store_state]
    obtain ⟨state, asked, standing, backend⟩ := schedule
    cases notifies : mutation.notifies state <;> cases standing <;> simp [call, store, change, notify, notifies]
  | _ => rfl

omit [Backend β] in
theorem system_call (schedule : Schedule β) (operation : Operation) :
    { schedule.system with store := operation.next schedule.system.store } = (schedule.call operation).system := by
  have kept : (schedule.call operation).backend = schedule.backend := by cases operation <;> rfl
  simp only [system, store_call, kept]

theorem written_save (schedule : Schedule β) (held : Bool) :
    (schedule.save held).2.filterMap Event.written? = if schedule.asked = 0 then [] else [schedule.state] := by
  simp only [save]
  split
  · rfl
  · split
    · rfl
    · split <;> rfl

theorem written_settle (schedule : Schedule β) (awake : schedule.standing ≠ .closed) :
    (schedule.settle false).2.filterMap Event.written? = if schedule.asked = 0 then [] else [schedule.state] := by
  cases standing : schedule.standing with
  | resting =>
    simp only [settle, standing]
    exact schedule.written_save false
  | holding written =>
    simp only [settle, standing]
    exact (schedule.hand written).1.written_save false
  | closed => exact absurd standing awake

theorem settle_eq (schedule : Schedule β) (held : Bool) :
    PersistedStore.settle held schedule.store schedule.backend =
      ((schedule.settle held).1.store, (schedule.settle held).1.backend, handed (schedule.settle held).2) :=
  (schedule.tells_settle held).settle_eq

theorem shutdown_eq (schedule : Schedule β) :
    PersistedStore.shutdown schedule.store schedule.backend =
      (schedule.shutdown.1.store, schedule.shutdown.1.backend, handed schedule.shutdown.2) :=
  schedule.tells_shutdown.settle_eq

theorem does_follow (schedule : Schedule β) (command : Command) :
    Does schedule.system command (schedule.follow command).2 (schedule.follow command).1.system := by
  cases command with
  | call operation =>
    have does : Does schedule.system (.call operation) [] _ := .call operation
    rwa [system_call] at does
  | settle held => exact .settle (schedule.tells_settle held)
  | shutdown => exact .shutdown schedule.tells_shutdown
  | reopen => exact .reopen schedule.tells_shutdown

end Schedule

namespace Saving

variable {β : Type} [Backend β]

theorem Does.unique {system next last : Saving β} {command : Command} {report again : List Event}
    (first : Does system command report next) (second : Does system command again last) :
    report = again ∧ next = last := by
  cases first with
  | call operation =>
    cases second
    exact ⟨rfl, rfl⟩
  | settle tells =>
    cases second with
    | settle more => exact tells.unique more
  | shutdown tells =>
    cases second with
    | shutdown more => exact tells.unique more
  | reopen tells =>
    cases second with
    | reopen more =>
      obtain ⟨rfl, rfl⟩ := tells.unique more
      exact ⟨rfl, rfl⟩

theorem plays_plan (backend : β) (script : List Command) :
    let plan := runAll Schedule.follow (.opened backend) script
    Plays backend script plan.2 plan.1.system := by
  induction script using List.reverseRecOn with
  | nil => exact .opened
  | append_singleton script command ih =>
    rw [runAll_append]
    exact .step ih (Schedule.does_follow _ command)

theorem Plays.plan {backend : β} {script : List Command} {reports : List (List Event)} {system : Saving β}
    (plays : Plays backend script reports system) :
    let plan := runAll Schedule.follow (.opened backend) script
    reports = plan.2 ∧ system = plan.1.system := by
  induction plays with
  | opened => exact ⟨rfl, rfl⟩
  | step plays does ih =>
    obtain ⟨rfl, rfl⟩ := ih
    rw [runAll_append]
    obtain ⟨rfl, rfl⟩ := does.unique (Schedule.does_follow _ _)
    exact ⟨rfl, rfl⟩

/-- Whatever is done with a persisted store, its worker keeps to the schedule of the reference and comes to a wait
every time. When it runs with no save held, it makes one attempt if a change has asked for one since the state was
last written down, and none otherwise, up to the shutdown and then no more; the attempt is of the state as it is, and
the backend gets it if it is not too large. A save that is held keeps what was written down for it, and all changes
that ask meanwhile share the attempt after it. No other call leads to one. -/
theorem saves_on_schedule (backend : β) (script : List Command) :
    let plan := runAll Schedule.follow (.opened backend) script
    (∀ reports system, Plays backend script reports system ↔ reports = plan.2 ∧ system = plan.1.system) ∧
    (plan.1.standing ≠ .closed → (plan.1.settle false).2.filterMap Event.written? =
      if plan.1.asked = 0 then [] else [plan.1.state]) ∧
    (∀ held, PersistedStore.settle held plan.1.store plan.1.backend =
      ((plan.1.settle held).1.store, (plan.1.settle held).1.backend, handed (plan.1.settle held).2)) ∧
    PersistedStore.shutdown plan.1.store plan.1.backend =
      (plan.1.shutdown.1.store, plan.1.shutdown.1.backend, handed plan.1.shutdown.2) := by
  intro plan
  refine ⟨fun reports system => ⟨Plays.plan, ?_⟩, plan.1.written_settle, plan.1.settle_eq, plan.1.shutdown_eq⟩
  rintro ⟨rfl, rfl⟩
  exact plays_plan backend script

example :
    let stores : String → Command := fun name => .call (.change (.storeToken name name "alice"))
    let first := (Mutation.storeToken "a" "a" "alice").apply .empty
    let third := (Mutation.storeToken "c" "c" "alice").apply ((Mutation.storeToken "b" "b" "alice").apply first)
    (runAll Schedule.follow (.opened (⟨none, 0⟩ : MemoryBackend))
        [stores "a", .settle true, stores "b", stores "c", .settle false, .settle false, .shutdown, stores "d",
          .settle false]).2 =
      [[], [.wrote first], [], [], [.saved first true, .wrote third, .saved third true], [], [], [], []] := by
  decide +kernel

end Saving

end LoginGateway
