import LoginGateway.Proofs.Store.Equivalence
import LoginGateway.Proofs.Store.Registrations

namespace LoginGateway

open SnapshotStore (state)

def Signer.Foretold (signer : Signer) (user email : String) (lifetime : Int) (stream : Nat → Except TokenError String)
    (calls : Nat) : Prop :=
  ∀ call < calls, comes (signer user email lifetime) call = stream call

inductive Snapshot.Grown : Snapshot → Prop where
  | empty : Grown empty
  | change {snapshot : Snapshot} (grown : Grown snapshot) (mutation : Mutation) : Grown (mutation.apply snapshot)

theorem Snapshot.Grown.represented {snapshot : Snapshot} (grown : snapshot.Grown) :
    ∃ held, snapshot.index.Represents held := by
  induction grown with
  | empty => exact ⟨_, TokenIndex.represents_empty⟩
  | change grown mutation ih =>
    obtain ⟨held, represents⟩ := ih
    cases mutation with
    | storeToken name token user => exact ⟨_, represents.insert ⟨name, token, user⟩⟩
    | deleteToken name => exact ⟨_, represents.remove name⟩
    | invalidate user => exact ⟨held, represents⟩
    | storeCredential user credential => exact ⟨held, represents⟩

theorem TokenIndex.Holds.insert {index : TokenIndex} {entry : Registration} (holds : index.Holds entry)
    {name token : String} (free : index.containsName name = false) (fresh : index.containsToken token = false)
    (user : String) : (index.insert name token user).Holds entry := by
  obtain ⟨named, stands⟩ := holds
  rw [containsName_eq_false] at free
  rw [containsToken_eq_false] at fresh
  have other : entry.name ≠ name := by
    intro same
    rw [same, free] at named
    cases named
  have different : entry.token ≠ token := by
    intro same
    rw [same, fresh] at stands
    cases stands
  constructor
  · rw [names_insert, if_neg other, named]
    exact Option.filter_eq_some_iff.mpr ⟨rfl, by simpa using different⟩
  · rw [tokens_insert, if_neg different, if_neg (by rw [free]; nofun)]
    exact stands

namespace SnapshotStore

variable {σ : Type} [TokenStore σ] [SnapshotStore σ]

theorem index_storeToken (store : σ) (name token user : String) :
    (state (TokenStore.storeToken store name token user).2).index = (state store).index.insert name token user :=
  congrArg Snapshot.index (state_call store (.storeToken name token user))

variable {store : σ} {signer : Signer} {kind : TokenKind} {user email : String}
  {stream : Nat → Except TokenError String}

theorem generate_eq {last : Nat} (told : signer.Foretold user email kind.lifetime stream (last + 1))
    (repeated : ∀ call < last, Signer.repeats (state store).index.containsToken (stream call) = true)
    (new : Signer.repeats (state store).index.containsToken (stream last) = false) :
    TokenStore.generate store signer kind user email = ((stream last).mapError .signing, last + 1) := by
  have here : Signer.comes (signer user email kind.lifetime) last = stream last := told last (Nat.lt_succ_self last)
  have before : ∀ call < last, Signer.repeats (state store).index.containsToken
      (Signer.comes (signer user email kind.lifetime) call) = true := by
    intro call earlier
    rw [told call (Nat.lt_succ_of_lt earlier)]
    exact repeated call earlier
  rw [← here] at new
  rw [SnapshotStore.generate, Snapshot.generate, firstFresh_eq before new 0, here, Nat.zero_add]

theorem lt_generate {calls : Nat} (told : signer.Foretold user email kind.lifetime stream calls)
    (repeated : ∀ call, Signer.repeats (state store).index.containsToken (stream call) = true) :
    calls < (TokenStore.generate store signer kind user email).2 := by
  obtain ⟨last, -, new, search⟩ :=
    firstFresh_ends (state store).index.containsToken 0 (signer user email kind.lifetime)
  have past : calls ≤ last := by
    by_contra before
    rw [told last (Nat.lt_of_not_le before), repeated last] at new
    cases new
  rw [SnapshotStore.generate, Snapshot.generate, search]
  simp only
  omega

/-- Whatever the signer's calls come to, a store returns the first that is not a token of its own, an error as well
as a token, and calls the signer as often as it takes to get there; as long as tokens repeat, it goes on. The store
stays as it is. A token that is returned is not in the store, and when it is stored under a new name, every other
name whose token stands for a user keeps it. In a state that the store's own changes have led to, that is so for all
names. -/
theorem generates_first_unstored (store : σ) (kind : TokenKind) (user email : String)
    (stream : Nat → Except TokenError String) :
    let known := (state store).index
    let repeats := fun call => Signer.repeats known.containsToken (stream call)
    let foretold := fun (signer : Signer) calls => signer.Foretold user email kind.lifetime stream calls
    let generated := fun signer => TokenStore.generate store signer kind user email
    ((∃ call, repeats call = false) →
      ∃ last, (∀ call < last, repeats call = true) ∧ repeats last = false ∧
        ∀ signer, foretold signer (last + 1) → generated signer = ((stream last).mapError .signing, last + 1)) ∧
    ((∀ call, repeats call = true) →
      ∀ signer calls, foretold signer calls → calls < (generated signer).2) ∧
    (Operation.generate kind user email).next store = store ∧
    ∀ signer token, (generated signer).1 = .ok token →
      known.containsToken token = false ∧
      ∀ name owner, TokenStore.containsName store name = false →
        let stored := (state (TokenStore.storeToken store name token owner).2).index
        (∀ entry, known.Holds entry → stored.Holds entry) ∧
        ((state store).Grown → ∀ other, other ≠ name → stored.names.find? other = known.names.find? other) := by
  intro known repeats foretold generated
  refine ⟨fun ends => ?_, fun repeated signer calls told => lt_generate told repeated, rfl,
    fun signer token made => ?_⟩
  · have earlier : ∀ call < Nat.find ends, repeats call = true :=
      fun call before => eq_true_of_ne_false (Nat.find_min ends before)
    have new := Nat.find_spec ends
    exact ⟨Nat.find ends, earlier, new, fun signer told => generate_eq told earlier new⟩
  · have fresh : known.containsToken token = false := generate_free made
    refine ⟨fresh, fun name owner free => ?_⟩
    rw [SnapshotStore.containsName] at free
    rw [index_storeToken]
    refine ⟨fun entry holds => holds.insert free fresh owner, fun grown other different => ?_⟩
    obtain ⟨held, represents⟩ := grown.represented
    rw [TokenIndex.names_insert, if_neg different, represents.unheld fresh]

theorem generates_first_unstored_third :
    let store : MemoryStore := ⟨(Mutation.storeToken "laptop" "first" "alice").apply .empty⟩
    let stream : Nat → Except TokenError String := fun call => if call < 2 then .ok "first" else .ok "second"
    let signer : Signer := fun _ _ _ => [.ok "first", .ok "first", .ok "second"]
    (state store).Grown ∧ signer.Foretold "alice" "" TokenKind.session.lifetime stream 3 ∧
      TokenStore.generate store signer .session "alice" "" = (.ok "second", 3) ∧
      (state (TokenStore.storeToken store "phone" "second" "alice").2).index.names.find? "laptop" = some "first" := by
  intro store stream signer
  have grown : (state store).Grown := .change .empty (.storeToken "laptop" "first" "alice")
  have told : signer.Foretold "alice" "" TokenKind.session.lifetime stream 3 := by
    unfold Signer.Foretold
    decide
  obtain ⟨finds, -, -, keeps⟩ := generates_first_unstored store .session "alice" "" stream
  obtain ⟨last, earlier, new, generated⟩ := finds ⟨2, by decide⟩
  have third : last = 2 := by
    rcases Nat.lt_trichotomy last 2 with less | same | more
    · have first : stream last = .ok "first" := if_pos less
      have repeated : Signer.repeats (state store).index.containsToken (stream last) = false := new
      rw [first] at repeated
      cases repeated
    · exact same
    · cases earlier 2 more
  subst third
  have made := generated signer told
  obtain ⟨-, stored⟩ := keeps signer "second" (congrArg Prod.fst made)
  exact ⟨grown, told, made, ((stored "phone" "alice" (by decide)).2 grown "laptop" (by decide)).trans (by decide)⟩

/-- Saved data may have a name whose token stands for nobody. That token is new, and takes the name away. -/
theorem foreign_name_detached :
    let data := Text.encode "\x7b\"names\":\x7b\"phone\":\"token\"\x7d\x7d"
    let store := (PersistedStore.openOn (⟨some data, 0⟩ : MemoryBackend)).1
    let signer : Signer := fun _ _ _ => [.ok "token"]
    TokenStore.generate store signer .api "alice" "a@b" = (.ok "token", 1) ∧
      TokenStore.containsName store "laptop" = false ∧ TokenStore.containsName store "phone" = true ∧
      TokenStore.containsName (TokenStore.storeToken store "laptop" "token" "alice").2 "phone" = false := by
  decide +kernel

end SnapshotStore

end LoginGateway
