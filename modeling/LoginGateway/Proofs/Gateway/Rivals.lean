import LoginGateway.Proofs.Gateway.Creation
import Mathlib.Logic.Function.Iterate

namespace LoginGateway.Gateway

open Http
open SnapshotStore (state)

inductive Progress where
  | arrived
  | admitted
  | authorized (identity : Identity)
  | refused (reply : Option Reply)
  | answered (identity : Identity) (reply : Option Reply) (minted : Option String)

namespace Progress

def granted (name : String) (identity : Identity) (token : String) : Progress :=
  .answered identity (some (created name token)) (some token)

def reply : Progress → Option Reply
  | .refused reply | .answered _ reply _ => reply
  | _ => none

def minted : Progress → Option String
  | .answered _ _ minted => minted
  | _ => none

def status? (progress : Progress) : Option Nat := progress.reply.map (·.status)

def ended : Progress → Bool
  | .refused _ | .answered _ _ _ => true
  | _ => false

def cleared : Progress → Bool
  | .admitted | .authorized _ | .answered _ _ _ => true
  | _ => false

theorem token_of_granted {name : String} {identity identity' : Identity} {token token' : String}
    (same : granted name identity token = granted name identity' token') : token = token' :=
  Option.some.inj (congrArg minted same)

def ofAuthorization (settings : Settings) : Except (Failure Denial) Identity → Progress
  | .ok identity => .authorized identity
  | .error (.error denial) => .refused (some (denial.reply settings.wording))
  | .error .crash => .refused none

end Progress

structure Stage (σ : Type) where
  progress : Progress
  store : σ
  wire : Wire

theorem Rejects.untold {reply : Reply} (rejects : Rejects reply) : some reply.status ≠ some 200 := by
  have error := rejects.status
  simp only [ne_eq, Option.some.injEq]
  omega

namespace Stage

variable {σ : Type}

def served (stage : Stage σ) : Served σ := ⟨stage.progress.reply, stage.store, stage.wire, stage.progress.minted⟩

variable [TokenStore σ]

def look (name : String) (store : σ) : Progress :=
  if name.isEmpty then .refused (some (missingName "create"))
  else if TokenStore.containsName store name then
    .refused (some (.badRequest ("API token " ++ name ++ " already exists")))
  else .admitted

def advance (settings : Settings) (moment : Moment) (headers : Headers) (name : String) : Stage σ → Stage σ
  | ⟨.arrived, store, wire⟩ => ⟨look name store, store, wire⟩
  | ⟨.admitted, store, wire⟩ =>
    let result := authorize settings moment.now headers store wire
    ⟨.ofAuthorization settings result.1, result.2.1, result.2.2⟩
  | ⟨.authorized identity, store, wire⟩ =>
    let served := grantToken settings moment name identity store wire
    ⟨.answered identity served.reply served.minted, served.store, served.wire⟩
  | stage => stage

variable {settings : Settings} {moment : Moment} {headers : Headers} {name : String} {store next : σ}
  {wire after : Wire} {identity : Identity}

theorem advance_arrived (there : name.isEmpty = false) (free : TokenStore.containsName store name = false)
    (wire : Wire) :
    advance settings moment headers name ⟨.arrived, store, wire⟩ = ⟨.admitted, store, wire⟩ := by
  simp [advance, look, there, free]

theorem advance_taken (there : name.isEmpty = false) (taken : TokenStore.containsName store name = true)
    (wire : Wire) :
    advance settings moment headers name ⟨.arrived, store, wire⟩ =
      ⟨.refused (some (.badRequest ("API token " ++ name ++ " already exists"))), store, wire⟩ := by
  simp [advance, look, there, taken]

theorem advance_admitted {result : Except (Failure Denial) Identity}
    (authorized : authorize settings moment.now headers store wire = (result, next, after)) :
    advance settings moment headers name ⟨.admitted, store, wire⟩ = ⟨.ofAuthorization settings result, next, after⟩ := by
  simp only [advance, authorized]

theorem advance_authorized {reply : Option Reply} {minted : Option String}
    (served : grantToken settings moment name identity store wire = ⟨reply, next, after, minted⟩) :
    advance settings moment headers name ⟨.authorized identity, store, wire⟩ =
      ⟨.answered identity reply minted, next, after⟩ := by
  simp only [advance, served]

/-- A request that nothing comes between takes its three steps at one moment. -/
theorem createToken_advance (settings : Settings) (moment : Moment) (headers : Headers) (requested : String)
    (store : σ) (wire : Wire) :
    createToken settings moment headers requested store wire =
      ((advance settings moment headers (Text.trim requested))^[3] ⟨.arrived, store, wire⟩).served := by
  unfold createToken
  simp only [Function.iterate_succ, Function.iterate_zero, Function.comp_apply, id]
  by_cases blank : (Text.trim requested).isEmpty = true
  · simp [advance, look, blank, Stage.served, Progress.reply, Progress.minted]
  by_cases taken : TokenStore.containsName store (Text.trim requested) = true
  · simp [advance, look, blank, taken, Stage.served, Progress.reply, Progress.minted]
  rw [Bool.not_eq_true] at blank taken
  simp only [blank, taken, advance_arrived blank taken wire, Bool.false_eq_true, if_false]
  split <;> rename_i result <;> rw [advance_admitted result] <;> rfl

/-- What a step can be: nothing is stored, or a new token is. -/
inductive Leads [SnapshotStore σ] (name : String) (before after : Stage σ) : Prop where
  | quiet (untold : after.progress.status? ≠ some 200)
      (kept : (state after.store).index = (state before.store).index)
      (cleared : after.progress.cleared = true → before.progress.cleared = true ∨ after.progress = .admitted)
      (free : after.progress = .admitted → (state before.store).index.containsName name = false)
  | grants (identity : Identity) (token : String) (authorized : before.progress = .authorized identity)
      (granted : after.progress = .granted name identity token)
      (fresh : (state before.store).index.containsToken token = false)
      (stored : (state after.store).index = (state before.store).index.insert name token identity.user)

theorem leads [SnapshotStore σ] {before after : Stage σ} (going : before.progress.ended = false)
    (advanced : advance settings moment headers name before = after) : before.Leads name after := by
  subst advanced
  rcases before with ⟨_ | _ | identity | reply | ⟨identity, reply, minted⟩, store, wire⟩
  case refused => cases going
  case answered => cases going
  case arrived =>
    change Leads name _ ⟨look name store, store, wire⟩
    unfold look
    split
    · exact .quiet (badRequest_rejects _).untold rfl nofun nofun
    split
    · exact .quiet (badRequest_rejects _).untold rfl nofun nofun
    rename_i free
    refine .quiet nofun rfl (fun _ => .inr rfl) fun _ => ?_
    rw [← SnapshotStore.containsName]
    exact Bool.not_eq_true _ ▸ free
  case admitted =>
    have kept := authorize_index settings moment.now headers store wire
    rcases result : authorize settings moment.now headers store wire with ⟨(denial | _) | identity, next, after⟩ <;>
      rw [advance_admitted result] <;> rw [result] at kept
    · exact .quiet (denial_rejects denial settings.wording).untold kept nofun nofun
    · exact .quiet nofun kept nofun nofun
    · exact .quiet nofun kept (fun _ => .inl rfl) nofun
  case authorized =>
    cases generated : (TokenStore.generate store (settings.signer moment) .api identity.user identity.email).1 with
    | error error =>
      rw [advance_authorized (grantToken_failed generated name wire)]
      exact .quiet (serverError_rejects _).untold rfl (fun _ => .inl rfl) nofun
    | ok token =>
      obtain ⟨next, granted, left⟩ := grantToken_granted generated name wire
      rw [advance_authorized granted]
      exact .grants identity token rfl rfl (SnapshotStore.generate_free generated) (congrArg Snapshot.index left)

end Stage

structure Rivals (σ : Type) where
  store : σ
  progress : Nat → Progress

def Rivals.move {σ : Type} (rivals : Rivals σ) (request : Nat) (after : Stage σ) : Rivals σ :=
  ⟨after.store, Function.update rivals.progress request after.progress⟩

@[simp] theorem Rivals.move_self {σ : Type} (rivals : Rivals σ) (request : Nat) (after : Stage σ) :
    (rivals.move request after).progress request = after.progress := Function.update_self _ _ _

theorem Rivals.move_other {σ : Type} (rivals : Rivals σ) {request other : Nat} (different : other ≠ request)
    (after : Stage σ) : (rivals.move request after).progress other = rivals.progress other :=
  Function.update_of_ne different _ _

abbrev Trace := List (Nat × Progress)

def Trace.Precedes (trace : Trace) (one other : Nat × Progress) : Prop := [one, other].Sublist trace

namespace Trace.Precedes

variable {trace : Trace} {one other : Nat × Progress}

theorem left (precedes : trace.Precedes one other) : one ∈ trace := precedes.subset List.mem_cons_self

theorem append (precedes : trace.Precedes one other) (more : Trace) : Precedes (trace ++ more) one other :=
  precedes.trans (List.sublist_append_left _ _)

theorem last (among : one ∈ trace) (other : Nat × Progress) : Precedes (trace ++ [other]) one other :=
  (List.singleton_sublist.mpr among).append (List.Sublist.refl [other])

end Trace.Precedes

/-- Each of the two finds the name free before the other is done. -/
def Rivals.Overlap {σ : Type} (rivals : Rivals σ) (trace : Trace) (one other : Nat) : Prop :=
  trace.Precedes (one, .admitted) (other, rivals.progress other) ∧
    trace.Precedes (other, .admitted) (one, rivals.progress one)

section

variable {σ : Type} [TokenStore σ] [SnapshotStore σ]

/-- Steps that the requests take in any order, each at a time of its own and with what the provider then does. In
between, the store may change, but none of its registrations does. -/
inductive Rivalry (settings : Settings) (name : String) (headers : Nat → Headers) (start : σ) :
    Trace → Rivals σ → Prop where
  | start : Rivalry settings name headers start [] ⟨start, fun _ => .arrived⟩
  | idle {trace : Trace} {rivals : Rivals σ} {next : σ} (run : Rivalry settings name headers start trace rivals)
      (same : (state next).index = (state rivals.store).index) :
      Rivalry settings name headers start trace ⟨next, rivals.progress⟩
  | step {trace : Trace} {rivals : Rivals σ} {wire : Wire} {after : Stage σ} (request : Nat) (moment : Moment)
      (run : Rivalry settings name headers start trace rivals) (going : (rivals.progress request).ended = false)
      (advanced : Stage.advance settings moment (headers request) name ⟨rivals.progress request, rivals.store, wire⟩ =
        after) :
      Rivalry settings name headers start (trace ++ [(request, after.progress)]) (rivals.move request after)

variable {settings : Settings} {name : String} {headers : Nat → Headers} {start origin : σ} {turns : List (Turn σ)}
  {trace : Trace} {rivals : Rivals σ} {known : TokenIndex} {held : Registrations}

structure Progress.Recorded (name : String) (trace : Trace) (request : Nat) (progress : Progress) : Prop where
  looked : progress.cleared = true → (request, .admitted) ∈ trace
  answered : progress.status? = some 200 →
    ∃ identity token, progress = .granted name identity token ∧ (request, .granted name identity token) ∈ trace

omit [TokenStore σ] [SnapshotStore σ] in
theorem Progress.Recorded.append {request : Nat} {progress : Progress}
    (recorded : progress.Recorded name trace request) (more : Trace) :
    progress.Recorded name (trace ++ more) request where
  looked is := List.mem_append_left _ (recorded.looked is)
  answered status :=
    let ⟨identity, token, granted, among⟩ := recorded.answered status
    ⟨identity, token, granted, List.mem_append_left _ among⟩

/-- Who the name belongs to: no one, or the last request that was granted a token for it. -/
inductive Rivals.Belongs (rivals : Rivals σ) (known : TokenIndex) (name : String) (trace : Trace) : Prop where
  | unclaimed (none : ∀ request identity token, (request, Progress.granted name identity token) ∉ trace)
      (same : (state rivals.store).index = known)
  | claimed (last : Nat) (identity : Identity) (token : String)
      (granted : rivals.progress last = .granted name identity token)
      (gains : known.Gains (state rivals.store).index ⟨name, token, identity.user⟩)
      (latest : ∀ other identity' token', (other, Progress.granted name identity' token') ∈ trace → other ≠ last →
        trace.Precedes (other, .granted name identity' token') (last, .granted name identity token))

structure Rivals.Account (rivals : Rivals σ) (known : TokenIndex) (name : String) (trace : Trace) : Prop where
  recorded : ∀ request, (rivals.progress request).Recorded name trace request
  vacant : ∀ request, (request, .admitted) ∈ trace → known.containsName name = false
  fresh : ∀ request identity token, (request, .granted name identity token) ∈ trace →
    known.containsToken token = false
  order : ∀ one other identity token, (one, .admitted) ∈ trace → (other, .granted name identity token) ∈ trace →
    trace.Precedes (one, .admitted) (other, .granted name identity token)
  belongs : rivals.Belongs known name trace

theorem Rivals.Belongs.free (belongs : rivals.Belongs known name trace)
    (free : (state rivals.store).index.containsName name = false) :
    known.containsName name = false ∧
      ∀ request identity token, (request, Progress.granted name identity token) ∉ trace := by
  cases belongs with
  | unclaimed none same => exact ⟨same ▸ free, none⟩
  | claimed last identity token granted gains latest =>
    rw [TokenIndex.containsName_eq_false, gains.holds.1] at free
    cases free

theorem Rivals.Belongs.fresh (belongs : rivals.Belongs known name trace) {token : String}
    (fresh : (state rivals.store).index.containsToken token = false) : known.containsToken token = false := by
  cases belongs with
  | unclaimed none same => exact same ▸ fresh
  | claimed last identity token' granted gains latest => exact gains.fresh_of fresh

theorem Rivals.Belongs.gains (belongs : rivals.Belongs known name trace) (represents : known.Represents held)
    (vacant : known.containsName name = false) {token : String} (user : String)
    (fresh : (state rivals.store).index.containsToken token = false) :
    known.Gains ((state rivals.store).index.insert name token user) ⟨name, token, user⟩ := by
  cases belongs with
  | unclaimed none same =>
    rw [same] at fresh ⊢
    exact represents.gains ⟨name, token, user⟩ vacant fresh
  | claimed last identity token' granted gains latest => exact gains.again represents user fresh

theorem Rivals.Account.quiet (account : rivals.Account known name trace) {request : Nat} {after : Stage σ}
    (going : (rivals.progress request).ended = false) (untold : after.progress.status? ≠ some 200)
    (kept : (state after.store).index = (state rivals.store).index)
    (cleared : after.progress.cleared = true →
      (rivals.progress request).cleared = true ∨ after.progress = .admitted)
    (free : after.progress = .admitted → (state rivals.store).index.containsName name = false) :
    (rivals.move request after).Account known name (trace ++ [(request, after.progress)]) := by
  have earlier {other : Nat} {identity : Identity} {token : String}
      (among : (other, Progress.granted name identity token) ∈ trace ++ [(request, after.progress)]) :
      (other, Progress.granted name identity token) ∈ trace := by
    refine (List.mem_append.mp among).resolve_right fun last => untold ?_
    exact (congrArg (fun event => event.2.status?) (List.mem_singleton.mp last)).symm
  have looks {other : Nat} (among : (other, Progress.admitted) ∈ trace ++ [(request, after.progress)]) :
      (other, Progress.admitted) ∈ trace ∨ after.progress = .admitted :=
    (List.mem_append.mp among).imp_right fun last => (congrArg Prod.snd (List.mem_singleton.mp last)).symm
  refine ⟨fun other => ?_, fun other among => ?_,
    fun other identity token among => account.fresh other identity token (earlier among),
    fun one other identity token look among => ?_, ?_⟩
  · rcases eq_or_ne other request with rfl | different
    · rw [move_self]
      refine ⟨fun is => ?_, fun status => absurd status untold⟩
      rcases cleared is with before | admitted
      · exact List.mem_append_left _ ((account.recorded other).looked before)
      · rw [admitted]
        exact List.mem_append_right _ (List.mem_singleton_self _)
    · rw [move_other _ different]
      exact (account.recorded other).append _
  · rcases looks among with among | admitted
    · exact account.vacant other among
    · exact (account.belongs.free (free admitted)).1
  · rcases looks look with look | admitted
    · exact (account.order one other identity token look (earlier among)).append _
    · -- Whoever finds the name free now comes before all tokens.
      exact absurd (earlier among) ((account.belongs.free (free admitted)).2 other identity token)
  · cases account.belongs with
    | unclaimed none same =>
      exact .unclaimed (fun other identity token among => none other identity token (earlier among)) (kept.trans same)
    | claimed last identity token granted gains latest =>
      -- The request that the name belongs to is done, so this is another.
      have different : last ≠ request := by
        rintro rfl
        rw [granted] at going
        cases going
      refine .claimed last identity token ((move_other _ different _).trans granted) ?_ ?_
      · rwa [move, kept]
      · intro other identity' token' among unlike
        exact (latest other identity' token' (earlier among) unlike).append _

theorem Rivals.Account.grants (account : rivals.Account known name trace) (represents : known.Represents held)
    {request : Nat} {identity : Identity} {token : String} {after : Stage σ}
    (authorized : rivals.progress request = .authorized identity)
    (granted : after.progress = .granted name identity token)
    (fresh : (state rivals.store).index.containsToken token = false)
    (stored : (state after.store).index = (state rivals.store).index.insert name token identity.user) :
    (rivals.move request after).Account known name (trace ++ [(request, after.progress)]) := by
  have look : (request, .admitted) ∈ trace := (account.recorded request).looked (by rw [authorized]; rfl)
  have looks {other : Nat} (among : (other, Progress.admitted) ∈ trace ++ [(request, after.progress)]) :
      (other, Progress.admitted) ∈ trace := by
    refine (List.mem_append.mp among).resolve_right fun last => ?_
    cases (congrArg Prod.snd (List.mem_singleton.mp last)).trans granted
  have grant {other : Nat} {identity' : Identity} {token' : String}
      (among : (other, Progress.granted name identity' token') ∈ trace ++ [(request, after.progress)]) :
      (other, Progress.granted name identity' token') ∈ trace ∨ other = request ∧ token' = token :=
    (List.mem_append.mp among).imp_right fun last =>
      ⟨congrArg Prod.fst (List.mem_singleton.mp last),
        Progress.token_of_granted ((congrArg Prod.snd (List.mem_singleton.mp last)).trans granted)⟩
  refine ⟨fun other => ?_, fun other among => account.vacant other (looks among),
    fun other identity' token' among => ?_, fun one other identity' token' look among => ?_, ?_⟩
  · rcases eq_or_ne other request with rfl | different
    · rw [move_self]
      refine ⟨fun _ => List.mem_append_left _ look, fun _ => ⟨identity, token, granted, ?_⟩⟩
      rw [granted]
      exact List.mem_append_right _ (List.mem_singleton_self _)
    · rw [move_other _ different]
      exact (account.recorded other).append _
  · rcases grant among with among | ⟨-, rfl⟩
    · exact account.fresh other identity' token' among
    · exact account.belongs.fresh fresh
  · rcases List.mem_append.mp among with among | last
    · exact (account.order one other identity' token' (looks look) among).append _
    · rw [List.mem_singleton.mp last]
      exact .last (looks look) _
  · -- The last token takes the name from the one before it, if there is one.
    refine .claimed request identity token ((move_self _ _ _).trans granted) ?_ ?_
    · rw [move, stored]
      exact account.belongs.gains represents (account.vacant request look) identity.user fresh
    · intro other identity' token' among unlike
      rw [← granted]
      exact .last ((grant among).resolve_right fun same => unlike same.1) _

theorem Rivalry.account (run : Rivalry settings name headers start trace rivals)
    (represents : (state start).index.Represents held) : rivals.Account (state start).index name trace := by
  -- Along the run: in between steps the index stays, and each step is one of the two above.
  induction run with
  | start =>
    exact ⟨fun _ => ⟨nofun, nofun⟩, nofun, nofun, nofun, .unclaimed (fun _ _ _ => List.not_mem_nil) rfl⟩
  | idle run same ih =>
    refine ⟨ih.recorded, ih.vacant, ih.fresh, ih.order, ?_⟩
    cases ih.belongs with
    | unclaimed none known => exact .unclaimed none (same.trans known)
    | claimed last identity token granted gains latest =>
      exact .claimed last identity token granted (by rwa [same]) latest
  | step request moment run going advanced ih =>
    cases Stage.leads going advanced with
    | quiet untold kept cleared free => exact ih.quiet going untold kept cleared free
    | grants identity token authorized granted fresh stored =>
      exact ih.grants represents authorized granted fresh stored

theorem Rivalry.next {progress : Progress} {wire : Wire} {after : Stage σ}
    (run : Rivalry settings name headers start trace rivals) {request : Nat} (moment : Moment)
    (reached : rivals.progress request = progress) (going : progress.ended = false)
    (advanced : Stage.advance settings moment (headers request) name ⟨progress, rivals.store, wire⟩ = after) :
    Rivalry settings name headers start (trace ++ [(request, after.progress)]) (rivals.move request after) := by
  subst reached
  exact .step request moment run going advanced

theorem Rivalry.admits {wire after : Wire} {identity : Identity} {next : σ}
    (run : Rivalry settings name headers start trace rivals) {request : Nat} (moment : Moment)
    (there : name.isEmpty = false) (arrived : rivals.progress request = .arrived)
    (free : TokenStore.containsName rivals.store name = false)
    (authorized : authorize settings moment.now (headers request) rivals.store wire = (.ok identity, next, after)) :
    ∃ later, Rivalry settings name headers start
        (trace ++ [(request, .admitted)] ++ [(request, .authorized identity)]) later ∧
      later.store = next ∧ later.progress = Function.update rivals.progress request (.authorized identity) := by
  have looked := run.next moment arrived rfl (Stage.advance_arrived there free wire)
  refine ⟨_, looked.next moment (Rivals.move_self _ _ _) rfl (Stage.advance_admitted authorized), rfl, ?_⟩
  exact Function.update_idem _ _ _

theorem Rivalry.refuses (run : Rivalry settings name headers start trace rivals) {request : Nat} (moment : Moment)
    (there : name.isEmpty = false) (arrived : rivals.progress request = .arrived)
    (taken : TokenStore.containsName rivals.store name = true) (wire : Wire) :
    ∃ reply later, Rivalry settings name headers start (trace ++ [(request, .refused (some reply))]) later ∧
      reply.status = 400 ∧ later.store = rivals.store ∧
      later.progress = Function.update rivals.progress request (.refused (some reply)) :=
  ⟨_, _, run.next moment arrived rfl (Stage.advance_taken there taken wire), rfl, rfl, rfl⟩

theorem Rivalry.mints {identity : Identity} {token : String}
    (run : Rivalry settings name headers start trace rivals) {request : Nat} (moment : Moment)
    (authorized : rivals.progress request = .authorized identity)
    (generated : (TokenStore.generate rivals.store (settings.signer moment) .api identity.user identity.email).1 =
      .ok token) (wire : Wire) :
    ∃ later, Rivalry settings name headers start (trace ++ [(request, .granted name identity token)]) later ∧
      state later.store = (state rivals.store).storeToken name token identity.user ∧
      later.progress = Function.update rivals.progress request (.granted name identity token) := by
  obtain ⟨next, granted, left⟩ := grantToken_granted generated name wire
  exact ⟨_, run.next moment authorized rfl (Stage.advance_authorized granted), left, rfl⟩

/-- The request has a token for the name that is good, and the tokens that others were granted before it are not. -/
structure Rivals.Keeps (rivals : Rivals σ) (name : String) (trace : Trace) (last : Nat) (identity : Identity)
    (token : String) : Prop where
  granted : rivals.progress last = .granted name identity token
  resolves : TokenStore.userOf rivals.store token = .ok identity.user
  listed : name ∈ TokenStore.nameList rivals.store
  displaced : ∀ other identity' token', other ≠ last → rivals.progress other = .granted name identity' token' →
    trace.Precedes (other, rivals.progress other) (last, rivals.progress last) ∧
      (token' ≠ token → TokenStore.userOf rivals.store token' = .error .tokenNotFound)

namespace Rivals.Account

theorem overlap (account : rivals.Account known name trace) {one other : Nat}
    (first : (rivals.progress one).status? = some 200) (second : (rivals.progress other).status? = some 200) :
    rivals.Overlap trace one other := by
  obtain ⟨identity, token, granted, among⟩ := (account.recorded one).answered first
  obtain ⟨identity', token', granted', among'⟩ := (account.recorded other).answered second
  have look := (account.recorded one).looked (by rw [granted]; rfl)
  have look' := (account.recorded other).looked (by rw [granted']; rfl)
  rw [Overlap, granted, granted']
  exact ⟨account.order one other identity' token' look among', account.order other one identity token look' among⟩

theorem keeps (account : rivals.Account known name trace) {request : Nat}
    (succeeded : (rivals.progress request).status? = some 200) :
    ∃ last identity token, rivals.Keeps name trace last identity token := by
  cases account.belongs with
  | unclaimed none same =>
    obtain ⟨identity, token, -, among⟩ := (account.recorded request).answered succeeded
    exact absurd among (none request identity token)
  | claimed last identity token granted gains latest =>
    refine ⟨last, identity, token, granted, resolves_of_holds gains.holds, listed_of_holds gains.holds, ?_⟩
    intro other identity' token' different grant
    obtain ⟨identity'', token'', grant', among⟩ :=
      (account.recorded other).answered (by rw [grant]; rfl)
    rw [← grant'] at among
    rw [grant] at among ⊢
    rw [granted]
    refine ⟨latest other identity' token' among different, fun unlike => ?_⟩
    exact SnapshotStore.unresolved (gains.unheld (account.fresh other identity' token' among) unlike)

end Rivals.Account

/-- Of requests for API tokens under one name that are served side by side, any two that are answered 200 overlap. Of
the tokens they were granted, the one that was stored last is good and all others resolve no longer. So where no two
requests overlap, only one of them is answered 200, and its token stays good. -/
theorem last_rival_keeps_name (empty : state origin = .empty) (history : History settings origin turns start)
    (run : Rivalry settings name headers start trace rivals) :
    (∀ one other, one ≠ other → (rivals.progress one).status? = some 200 →
      (rivals.progress other).status? = some 200 → rivals.Overlap trace one other) ∧
    (∀ request, (rivals.progress request).status? = some 200 →
      ∃ last identity token, rivals.Keeps name trace last identity token) ∧
    ((∀ one other, one ≠ other → ¬rivals.Overlap trace one other) →
      (∀ one other, (rivals.progress one).status? = some 200 → (rivals.progress other).status? = some 200 →
        one = other) ∧
      ∀ request, (rivals.progress request).status? = some 200 → ∃ identity token,
        rivals.progress request = .granted name identity token ∧
          TokenStore.userOf rivals.store token = .ok identity.user) := by
  obtain ⟨held, represents⟩ := (history.accounted empty).sound
  have account := run.account represents
  refine ⟨fun one other _ => account.overlap, fun request => account.keeps, fun apart => ?_⟩
  have single (one other : Nat) (first : (rivals.progress one).status? = some 200)
      (second : (rivals.progress other).status? = some 200) : one = other := by
    by_contra different
    exact apart one other different (account.overlap first second)
  refine ⟨single, fun request succeeded => ?_⟩
  obtain ⟨last, identity, token, keeps⟩ := account.keeps succeeded
  obtain rfl := single request last succeeded (by rw [keeps.granted]; rfl)
  exact ⟨identity, token, keeps.granted, keeps.resolves⟩

end

namespace Visit

theorem laptop_free : TokenStore.containsName opened "laptop" = false := by decide +kernel

theorem apiTokenOf_injective {salt salt' : UInt64} (same : apiTokenOf salt = apiTokenOf salt') : salt = salt' :=
  congrArg ApiClaims.salt (ApiClaims.mint_injective same)

abbrev Bidding := Rivalry settings "laptop" (fun _ => (creationRequest "laptop").headers) opened

variable {trace : Trace} {rivals : Rivals MemoryStore}

theorem admission (run : Bidding trace rivals) (request : Nat) (arrived : rivals.progress request = .arrived)
    (untouched : rivals.store = opened) :
    ∃ later, Bidding (trace ++ [(request, .admitted)] ++ [(request, .authorized ⟨"alice", "a@b"⟩)]) later ∧
      later.store = opened ∧
      later.progress = Function.update rivals.progress request (.authorized ⟨"alice", "a@b"⟩) := by
  obtain ⟨store, progress⟩ := rivals
  dsimp only at untouched arrived
  subst untouched
  exact run.admits ⟨⟨1000, 0⟩, []⟩ (by decide) arrived laptop_free (creation_authorized "laptop")

theorem minting (run : Bidding trace rivals) (request : Nat) (salt : UInt64)
    (authorized : rivals.progress request = .authorized ⟨"alice", "a@b"⟩)
    (fresh : (state rivals.store).index.containsToken (apiTokenOf salt) = false) :
    ∃ later, Bidding (trace ++ [(request, .granted "laptop" ⟨"alice", "a@b"⟩ (apiTokenOf salt))]) later ∧
      state later.store = (state rivals.store).storeToken "laptop" (apiTokenOf salt) "alice" ∧
      later.progress =
        Function.update rivals.progress request (.granted "laptop" ⟨"alice", "a@b"⟩ (apiTokenOf salt)) :=
  run.mints ⟨⟨1000, 0⟩, [salt]⟩ authorized (SnapshotStore.generate_first (apiTokenOf_made salt) fresh)
    (providerOf alice)

end Visit

open Visit in
theorem last_rival_keeps_name_laptop :
    ∃ trace rivals, Rivalry settings "laptop" (fun _ => (creationRequest "laptop").headers) opened trace rivals ∧
      History settings MemoryStore.empty [loginOf alice 7 MemoryStore.empty] opened ∧
      (rivals.progress 0).status? = some 200 ∧ (rivals.progress 1).status? = some 400 ∧
      (∀ one other, one ≠ other → ¬rivals.Overlap trace one other) ∧
      (∀ one other, (rivals.progress one).status? = some 200 → (rivals.progress other).status? = some 200 →
        one = other) ∧
      ∃ identity token, rivals.progress 0 = .granted "laptop" identity token ∧
        TokenStore.userOf rivals.store token = .ok identity.user := by
  obtain ⟨first, admitted, untouched, come⟩ := admission .start 0 rfl rfl
  obtain ⟨second, granted, left, come'⟩ := minting admitted 0 8 (by rw [come, Function.update_self])
    (by rw [untouched]; exact apiTokenOf_fresh 8)
  have taken : TokenStore.containsName second.store "laptop" = true := by
    rw [SnapshotStore.containsName, left]
    exact congrArg Option.isSome ((TokenIndex.names_insert _ _ _ _ _).trans (if_pos rfl))
  have waiting : second.progress 1 = .arrived := by rw [come', come]; rfl
  obtain ⟨reply, last, run, status, -, reached⟩ :=
    granted.refuses ⟨⟨1000, 0⟩, []⟩ (by decide) waiting taken (providerOf alice)
  have succeeded : (last.progress 0).status? = some 200 := by
    rw [reached, come', Function.update_of_ne (by decide), Function.update_self]
    rfl
  have failed : (last.progress 1).status? = some 400 := by
    rw [reached, Function.update_self, ← status]
    rfl
  let trace : Trace := [(0, .admitted), (0, .authorized ⟨"alice", "a@b"⟩),
    (0, .granted "laptop" ⟨"alice", "a@b"⟩ (apiTokenOf 8)), (1, .refused (some reply))]
  have only : ∀ request, (request, Progress.admitted) ∈ trace → request = 0 := by
    intro request look
    simpa [trace, Progress.granted] using look
  have apart : ∀ one other, one ≠ other → ¬last.Overlap trace one other :=
    fun one other different overlap => different ((only one overlap.1.left).trans (only other overlap.2.left).symm)
  obtain ⟨-, -, alone⟩ := last_rival_keeps_name rfl opening run
  obtain ⟨single, lasts⟩ := alone apart
  exact ⟨trace, last, run, opening, succeeded, failed, apart, single, lasts 0 succeeded⟩

open Visit in
/-- The second request is served between the authorization of the first and its token. -/
theorem rival_token_displaced :
    ∃ trace rivals, Rivalry settings "laptop" (fun _ => (creationRequest "laptop").headers) opened trace rivals ∧
      History settings MemoryStore.empty [loginOf alice 7 MemoryStore.empty] opened ∧
      rivals.progress 0 = .granted "laptop" ⟨"alice", "a@b"⟩ (apiTokenOf 9) ∧
      rivals.progress 1 = .granted "laptop" ⟨"alice", "a@b"⟩ (apiTokenOf 8) ∧
      (∀ request, 1 < request → rivals.progress request = .arrived) ∧
      (rivals.progress 0).status? = some 200 ∧ (rivals.progress 1).status? = some 200 ∧
      TokenStore.userOf rivals.store (apiTokenOf 8) = .error .tokenNotFound := by
  obtain ⟨first, looked, untouched, come⟩ := admission .start 0 rfl rfl
  obtain ⟨second, admitted, untouched', come'⟩ := admission looked 1 (by rw [come]; rfl) untouched
  obtain ⟨third, granted, left, come''⟩ := minting admitted 1 8 (by rw [come']; rfl)
    (by rw [untouched']; exact apiTokenOf_fresh 8)
  have waiting : third.progress 0 = .authorized ⟨"alice", "a@b"⟩ := by rw [come'', come', come]; rfl
  have other : apiTokenOf 8 ≠ apiTokenOf 9 := fun same => absurd (apiTokenOf_injective same) (by decide)
  obtain ⟨last, run, final, reached⟩ := minting granted 0 9 waiting
    (by rw [left, untouched']; exact TokenIndex.containsToken_insert other.symm (apiTokenOf_fresh 9) _ _)
  have one : last.progress 0 = .granted "laptop" ⟨"alice", "a@b"⟩ (apiTokenOf 9) := by
    rw [reached, Function.update_self]
  have two : last.progress 1 = .granted "laptop" ⟨"alice", "a@b"⟩ (apiTokenOf 8) := by
    rw [reached, come'']
    rfl
  have named : (state third.store).index.names.find? "laptop" = some (apiTokenOf 8) := by
    rw [left]
    exact (TokenIndex.names_insert _ _ _ _ _).trans (if_pos rfl)
  have gone : (state last.store).index.tokens.find? (apiTokenOf 8) = none := by
    rw [final]
    exact (TokenIndex.tokens_insert _ _ _ _ _).trans ((if_neg other).trans (if_pos named))
  refine ⟨_, last, run, opening, one, two, fun request beyond => ?_, by rw [one]; rfl, by rw [two]; rfl, ?_⟩
  · have neither : request ≠ 0 ∧ request ≠ 1 := by omega
    rw [reached, come'', come', come]
    simp [Function.update_of_ne, neither]
  · exact SnapshotStore.unresolved gone

end LoginGateway.Gateway
