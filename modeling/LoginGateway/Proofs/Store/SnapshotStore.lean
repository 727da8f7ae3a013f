import LoginGateway.Proofs.Results
import LoginGateway.Proofs.Store.NoLostUpdate
import Mathlib.Data.Nat.Find

namespace LoginGateway

/-- A token store that answers from a snapshot that it keeps, and that fails at no change. -/
class SnapshotStore (σ : Type) [TokenStore σ] where
  state : σ → Snapshot
  generate (store : σ) : TokenStore.generate store = (state store).generate
  nameList (store : σ) : TokenStore.nameList store = (state store).index.nameList
  containsName (store : σ) : TokenStore.containsName store = (state store).index.containsName
  userOf (store : σ) : TokenStore.userOf store = (state store).userOf
  hasCredential (store : σ) : TokenStore.hasCredential store = (state store).hasCredential
  credentialOf (store : σ) : TokenStore.credentialOf store = (state store).credentialOf
  succeeds (store : σ) (mutation : Mutation) : (mutation.call store).1 = .ok ()
  state_call (store : σ) (mutation : Mutation) : state (mutation.call store).2 = mutation.apply (state store)

namespace Snapshot

theorem find?_storeCredential (known : Snapshot) (user : String) (credential : Credential) (other : String) :
    (known.storeCredential user credential).users.find? other =
      if other = user then some credential else known.users.find? other :=
  Dict.find?_insert _ _ _ _

theorem find?_storeCredential_self (known : Snapshot) (user : String) (credential : Credential) :
    (known.storeCredential user credential).users.find? user = some credential :=
  (known.find?_storeCredential user credential user).trans (if_pos rfl)

theorem find?_storeCredential_of_ne (known : Snapshot) {user other : String} (different : other ≠ user)
    (credential : Credential) : (known.storeCredential user credential).users.find? other = known.users.find? other :=
  (known.find?_storeCredential user credential other).trans (if_neg different)

theorem isSome_storeCredential {known : Snapshot} {other : String} (held : (known.users.find? other).isSome)
    (user : String) (credential : Credential) : ((known.storeCredential user credential).users.find? other).isSome := by
  rw [find?_storeCredential]
  split
  · rfl
  · exact held

end Snapshot

namespace SnapshotStore

variable {σ : Type} [TokenStore σ] [SnapshotStore σ]

theorem done (store : σ) (mutation : Mutation) :
    ∃ next, mutation.call store = (.ok (), next) ∧ state next = mutation.apply (state store) :=
  ⟨_, Prod.ext (succeeds store mutation) rfl, state_call store mutation⟩

theorem resolves {store : σ} {token user : String} (held : (state store).index.userOf? token = some user) :
    TokenStore.userOf store token = .ok user := by
  rw [SnapshotStore.userOf, Snapshot.userOf, held]

theorem unresolved {store : σ} {token : String} (unheld : (state store).index.userOf? token = none) :
    TokenStore.userOf store token = .error .tokenNotFound := by
  rw [SnapshotStore.userOf, Snapshot.userOf, unheld]

end SnapshotStore

namespace MemoryStore

theorem call_memory (store : MemoryStore) (mutation : Mutation) :
    mutation.call store = (.ok (), ⟨mutation.apply store.state⟩) := by
  cases mutation <;> rfl

instance : SnapshotStore MemoryStore where
  state := state
  generate _ := rfl
  nameList _ := rfl
  containsName _ := rfl
  userOf _ := rfl
  hasCredential _ := rfl
  credentialOf _ := rfl
  succeeds store mutation := by rw [call_memory]
  state_call store mutation := by rw [call_memory]

end MemoryStore

namespace PersistedStore

@[simp] theorem change_state (store : PersistedStore) (save : Bool) (state : Snapshot) :
    (store.change save state).state = state := by
  simp only [change]
  split
  · rw [(Saving.notify_fields _).1]
  · rfl

instance : SnapshotStore PersistedStore where
  state := state
  generate _ := rfl
  nameList _ := rfl
  containsName _ := rfl
  userOf _ := rfl
  hasCredential _ := rfl
  credentialOf _ := rfl
  succeeds store mutation := by rw [Mutation.call_persisted]
  state_call store mutation := by rw [Mutation.call_persisted, change_state]

theorem state_eq (store : PersistedStore) : SnapshotStore.state store = store.state := rfl

variable {β : Type} [Backend β]

theorem work_state (held : Bool) (steps : Nat) (store : PersistedStore) (backend : β) :
    (work held steps store backend).1.state = store.state := by
  induction steps generalizing store backend with
  | zero => rfl
  | succ steps ih =>
    rcases Saving.goes_or_waits held store with ⟨next, advance⟩ | ⟨rfl, state, last, saving⟩ | ⟨waiting, done⟩
    · rw [Saving.work_advance advance, ih]
      exact (Saving.advance?_state advance).1
    · rw [Saving.work_save saving]
      exact ih _ _
    · rw [Saving.work_waiting waiting done]

theorem settle_state (held : Bool) (store : PersistedStore) (backend : β) :
    (settle held store backend).1.state = store.state := work_state held _ store backend

end PersistedStore

namespace Signer

def comes (results : List (Except TokenError String)) (call : Nat) : Except TokenError String :=
  results[call]?.getD (.error noKey)

def repeats (taken : String → Bool) : Except TokenError String → Bool
  | .ok token => taken token
  | .error _ => false

theorem repeats_iff {taken : String → Bool} {result : Except TokenError String} :
    repeats taken result = true ↔ ∃ token, result = .ok token ∧ taken token = true := by
  cases result with
  | error error => simp [repeats]
  | ok token => simp [repeats]

theorem mem_of_comes {results : List (Except TokenError String)} {call : Nat} {token : String}
    (comes : comes results call = .ok token) : .ok token ∈ results := by
  rw [Signer.comes] at comes
  cases drawn : results[call]? with
  | none => rw [drawn] at comes; cases comes
  | some result =>
    rw [drawn] at comes
    cases comes
    exact List.mem_of_getElem? drawn

end Signer

section

variable {taken : String → Bool} {calls : Nat} {results : List (Except TokenError String)}

theorem firstFresh_of_new {result : Except TokenError String} (new : Signer.repeats taken result = false)
    (calls : Nat) (rest : List (Except TokenError String)) :
    firstFresh taken calls (result :: rest) = (result.mapError .signing, calls + 1) := by
  cases result with
  | error error => rfl
  | ok token =>
    rw [Signer.repeats] at new
    rw [firstFresh, if_neg (ne_true_of_eq_false new)]
    rfl

theorem firstFresh_of_repeats {result : Except TokenError String} (repeated : Signer.repeats taken result = true)
    (calls : Nat) (rest : List (Except TokenError String)) :
    firstFresh taken calls (result :: rest) = firstFresh taken (calls + 1) rest := by
  obtain ⟨token, rfl, held⟩ := Signer.repeats_iff.mp repeated
  rw [firstFresh, if_pos held]

theorem firstFresh_eq {last : Nat} (repeated : ∀ call < last, Signer.repeats taken (Signer.comes results call) = true)
    (new : Signer.repeats taken (Signer.comes results last) = false) (calls : Nat) :
    firstFresh taken calls results = ((Signer.comes results last).mapError .signing, calls + last + 1) := by
  induction last generalizing results calls with
  | zero =>
    cases results with
    | nil => rfl
    | cons first rest => exact firstFresh_of_new new calls rest
  | succ last ih =>
    cases results with
    | nil => cases repeated 0 (Nat.succ_pos last)
    | cons result rest =>
      have first : Signer.repeats taken result = true := repeated 0 (Nat.succ_pos last)
      have later : ∀ call < last, Signer.repeats taken (Signer.comes rest call) = true :=
        fun call before => repeated (call + 1) (Nat.succ_lt_succ before)
      rw [firstFresh_of_repeats first, ih later new, Nat.add_right_comm calls 1 last]
      rfl

/-- The search comes to its end, since a signer that has nothing left fails. -/
theorem firstFresh_ends (taken : String → Bool) (calls : Nat) (results : List (Except TokenError String)) :
    ∃ last, (∀ call < last, Signer.repeats taken (Signer.comes results call) = true) ∧
      Signer.repeats taken (Signer.comes results last) = false ∧
      firstFresh taken calls results = ((Signer.comes results last).mapError .signing, calls + last + 1) := by
  have ends : ∃ call, Signer.repeats taken (Signer.comes results call) = false := by
    refine ⟨results.length, ?_⟩
    rw [Signer.comes, List.getElem?_eq_none (Nat.le_refl _)]
    rfl
  have earlier : ∀ call < Nat.find ends, Signer.repeats taken (Signer.comes results call) = true :=
    fun call before => eq_true_of_ne_false (Nat.find_min ends before)
  exact ⟨Nat.find ends, earlier, Nat.find_spec ends, firstFresh_eq earlier (Nat.find_spec ends) calls⟩

theorem firstFresh_comes {token : String} (fresh : (firstFresh taken calls results).1 = .ok token) :
    .ok token ∈ results ∧ taken token = false := by
  obtain ⟨last, -, new, search⟩ := firstFresh_ends taken calls results
  rw [search] at fresh
  have comes := of_mapError_ok fresh
  rw [comes] at new
  exact ⟨Signer.mem_of_comes comes, new⟩

theorem firstFresh_ok (minted : ∀ result ∈ results, ∃ token, result = .ok token) {token : String}
    (among : .ok token ∈ results) (free : taken token = false) :
    ∃ token, (firstFresh taken calls results).1 = .ok token := by
  obtain ⟨last, earlier, -, search⟩ := firstFresh_ends taken calls results
  obtain ⟨call, inside, drawn⟩ := List.mem_iff_getElem.mp among
  have comes : Signer.comes results call = .ok token := by
    rw [Signer.comes, List.getElem?_eq_getElem inside, drawn]
    rfl
  -- The search does not get past the free token, so it ends with a call that the signer has.
  have before : last ≤ call := by
    by_contra past
    have repeated := earlier call (Nat.lt_of_not_le past)
    rw [comes] at repeated
    cases free.symm.trans repeated
  have within : last < results.length := Nat.lt_of_le_of_lt before inside
  obtain ⟨first, same⟩ := minted _ (List.getElem_mem within)
  refine ⟨first, ?_⟩
  rw [search, Signer.comes, List.getElem?_eq_getElem within, same]
  rfl

end

theorem SnapshotStore.generate_free {σ : Type} [TokenStore σ] [SnapshotStore σ] {store : σ} {signer : Signer}
    {kind : TokenKind} {user email token : String}
    (generated : (TokenStore.generate store signer kind user email).1 = .ok token) :
    (state store).index.containsToken token = false := by
  rw [SnapshotStore.generate] at generated
  exact (firstFresh_comes generated).2

/-- The salts come to a token that is not held yet, and there is a second that it expires in. -/
def TokenIndex.Supplied (index : TokenIndex) (secret : Octets) (now : Instant) (salts : List UInt64) (kind : TokenKind)
    (user email : String) : Prop :=
  ∃ salt ∈ salts, ∃ claims, ApiClaims.issue? user email salt now kind.lifetime = some claims ∧
    index.containsToken (SignedToken.mint secret claims.json) = false

theorem SnapshotStore.generate_ok {σ : Type} [TokenStore σ] [SnapshotStore σ] {store : σ} {secret : Octets}
    {now : Instant} {salts : List UInt64} {kind : TokenKind} {user email : String}
    (supplied : (state store).index.Supplied secret now salts kind user email) :
    ∃ token, (TokenStore.generate store (.ofSecret secret now salts) kind user email).1 = .ok token := by
  obtain ⟨salt, drawn, claims, made, free⟩ := supplied
  obtain ⟨second, ends⟩ : ∃ second, Claims.expiryAfter? now kind.lifetime = some second := by
    cases ends : Claims.expiryAfter? now kind.lifetime with
    | none => simp [ApiClaims.issue?, ends] at made
    | some second => exact ⟨second, rfl⟩
  rw [SnapshotStore.generate]
  refine firstFresh_ok ?_ (List.mem_map.mpr ⟨salt, drawn, by rw [made]⟩) free
  intro result signed
  obtain ⟨other, -, rfl⟩ := List.mem_map.mp signed
  simp [ApiClaims.issue?, ends]

/-- A token of a user that is signed with the secret and good from an instant on for so many seconds. -/
def Issued (secret : Octets) (now : Instant) (lifetime : Int) (user token : String) : Prop :=
  ∃ email salt expiry, Claims.expiryAfter? now lifetime = some expiry ∧
    token = SignedToken.mint secret (ApiClaims.json ⟨user, email, salt, some expiry⟩)

theorem Signer.minted_of_mem {secret : Octets} {now : Instant} {salts : List UInt64} {user email token : String}
    {lifetime : Int} (signed : .ok token ∈ Signer.ofSecret secret now salts user email lifetime) :
    ∃ salt expiry, Claims.expiryAfter? now lifetime = some expiry ∧
      token = SignedToken.mint secret (ApiClaims.json ⟨user, email, salt, some expiry⟩) := by
  obtain ⟨salt, -, made⟩ := List.mem_map.mp signed
  cases expiry : Claims.expiryAfter? now lifetime with
  | none => simp [ApiClaims.issue?, expiry] at made
  | some second =>
    simp only [ApiClaims.issue?, expiry, Option.map_some] at made
    exact ⟨salt, second, rfl, (Except.ok.inj made).symm⟩

theorem SnapshotStore.minted {σ : Type} [TokenStore σ] [SnapshotStore σ] {store : σ} {secret : Octets}
    {now : Instant} {salts : List UInt64} {kind : TokenKind} {user email token : String}
    (generated : (TokenStore.generate store (.ofSecret secret now salts) kind user email).1 = .ok token) :
    ∃ salt expiry, Claims.expiryAfter? now kind.lifetime = some expiry ∧
      token = SignedToken.mint secret (ApiClaims.json ⟨user, email, salt, some expiry⟩) := by
  rw [SnapshotStore.generate] at generated
  exact Signer.minted_of_mem (firstFresh_comes generated).1

theorem SnapshotStore.issued {σ : Type} [TokenStore σ] [SnapshotStore σ] {store : σ} {secret : Octets}
    {now : Instant} {salts : List UInt64} {kind : TokenKind} {user email token : String}
    (generated : (TokenStore.generate store (.ofSecret secret now salts) kind user email).1 = .ok token) :
    Issued secret now kind.lifetime user token :=
  ⟨email, SnapshotStore.minted generated⟩

theorem SnapshotStore.generate_first {σ : Type} [TokenStore σ] [SnapshotStore σ] {store : σ} {secret : Octets}
    {now : Instant} {salt : UInt64} {salts : List UInt64} {kind : TokenKind} {user email : String} {claims : ApiClaims}
    (made : ApiClaims.issue? user email salt now kind.lifetime = some claims)
    (free : (state store).index.containsToken (SignedToken.mint secret claims.json) = false) :
    (TokenStore.generate store (.ofSecret secret now (salt :: salts)) kind user email).1 =
      .ok (SignedToken.mint secret claims.json) := by
  rw [SnapshotStore.generate]
  simp [Snapshot.generate, Signer.ofSecret, made, firstFresh, free]

end LoginGateway
