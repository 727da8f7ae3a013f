import LoginGateway.Proofs.Store.Registrations
import LoginGateway.Proofs.Store.SnapshotStore
import Mathlib.Data.List.Pairwise

namespace LoginGateway

open SnapshotStore (state)

namespace IndexChange

/-- Neither change is about a registration that the other makes. -/
def Independent (first second : IndexChange) : Prop :=
  (∀ entry, first = .insert entry → ¬second.Concerns entry) ∧
  ∀ entry, second = .insert entry → ¬first.Concerns entry

instance : Std.Symm Independent := ⟨fun _ _ independent => ⟨independent.2, independent.1⟩⟩

theorem independent_insert {entry other : Registration} (name : entry.name ≠ other.name)
    (token : entry.token ≠ other.token) : (insert entry).Independent (.insert other) := by
  constructor
  · rintro _ ⟨⟩ (same | same)
    · exact name same
    · exact token same
  · rintro _ ⟨⟩ (same | same)
    · exact name same.symm
    · exact token same.symm

theorem independent_remove {entry : Registration} {name : String} (different : entry.name ≠ name) :
    (insert entry).Independent (.remove name) := by
  constructor
  · rintro _ ⟨⟩ same
    exact different same
  · nofun

theorem pairwise_independent {entries : List Registration} (names : (entries.map (·.name)).Nodup)
    (tokens : (entries.map (·.token)).Nodup) : (entries.map insert).Pairwise Independent := by
  rw [List.pairwise_map]
  exact (List.pairwise_map.mp names).imp₂ (fun _ _ => independent_insert) (List.pairwise_map.mp tokens)

end IndexChange

namespace Registrations

theorem mem_change {held : Registrations} {change : IndexChange} {entry : Registration} :
    entry ∈ (held.change change).1 ↔ change = .insert entry ∨ entry ∈ held ∧ ¬change.Concerns entry := by
  cases change with
  | insert new => simp only [change, mem_register, IndexChange.Concerns, IndexChange.insert.injEq, not_or, eq_comm]
  | remove name => simp only [change, mem_withdraw, IndexChange.Concerns, reduceCtorEq, false_or, ne_eq]

theorem change_comm (held : Registrations) {first second : IndexChange} (independent : first.Independent second) :
    ((held.change first).1.change second).1 = ((held.change second).1.change first).1 := by
  obtain ⟨spares, spared⟩ := independent
  ext entry
  simp only [mem_change]
  constructor
  · rintro (made | ⟨made | ⟨member, unconcerned⟩, unconcerned'⟩)
    · exact .inr ⟨.inl made, spared entry made⟩
    · exact .inl made
    · exact .inr ⟨.inr ⟨member, unconcerned'⟩, unconcerned⟩
  · rintro (made | ⟨made | ⟨member, unconcerned⟩, unconcerned'⟩)
    · exact .inr ⟨.inl made, spares entry made⟩
    · exact .inl made
    · exact .inr ⟨.inr ⟨member, unconcerned'⟩, unconcerned⟩

theorem run_perm (held : Registrations) {changes others : List IndexChange} (permuted : changes.Perm others)
    (independent : changes.Pairwise IndexChange.Independent) :
    (runAll change held changes).1 = (runAll change held others).1 := by
  rw [runAll_state, runAll_state]
  refine permuted.foldl_eq' (fun first isFirst second isSecond held => ?_) held
  by_cases same : first = second
  · rw [same]
  · exact change_comm held (independent.forall isFirst isSecond same)

end Registrations

namespace TokenIndex

theorem Represents.unique {index other : TokenIndex} {held : Registrations} (represents : index.Represents held)
    (represents' : other.Represents held) : index = other := by
  obtain ⟨names, tokens⟩ := index
  obtain ⟨names', tokens'⟩ := other
  have sameNames : names = names' := by
    refine Dict.ext_find? fun name => Option.ext fun token => ?_
    exact (represents.names name token).trans (represents'.names name token).symm
  have sameTokens : tokens = tokens' := by
    refine Dict.ext_find? fun token => Option.ext fun user => ?_
    exact (represents.tokens token user).trans (represents'.tokens token user).symm
  rw [sameNames, sameTokens]

theorem Represents.run {index : TokenIndex} {held : Registrations} (represents : index.Represents held)
    (changes : List IndexChange) :
    (runAll TokenIndex.change index changes).1.Represents (runAll Registrations.change held changes).1 :=
  (runAll_related (fun _ _ change related => related.change change) changes index held represents).1

theorem Represents.run_perm {index : TokenIndex} {held : Registrations} (represents : index.Represents held)
    {changes others : List IndexChange} (permuted : changes.Perm others)
    (independent : changes.Pairwise IndexChange.Independent) :
    (runAll TokenIndex.change index changes).1 = (runAll TokenIndex.change index others).1 := by
  have ordered := represents.run changes
  rw [held.run_perm permuted independent] at ordered
  exact ordered.unique (represents.run others)

def registerAll (index : TokenIndex) (entries : List Registration) : TokenIndex :=
  entries.foldl (fun index entry => index.insert entry.name entry.token entry.user) index

theorem registerAll_eq (index : TokenIndex) (entries : List Registration) :
    index.registerAll entries = (runAll change index (entries.map .insert)).1 := by
  rw [runAll_state, List.foldl_map]
  rfl

end TokenIndex

namespace Mutation

def OfIndex : Mutation → Prop
  | .storeToken _ _ _ | .deleteToken _ => True
  | .invalidate _ | .storeCredential _ _ => False

theorem apply_users {mutation : Mutation} (ofIndex : mutation.OfIndex) (known : Snapshot) :
    (mutation.apply known).users = known.users := by
  cases mutation with
  | storeToken name token user => rfl
  | deleteToken name => rfl
  | invalidate user => exact ofIndex.elim
  | storeCredential user credential => exact ofIndex.elim

theorem apply_index {mutation : Mutation} (ofUsers : ¬mutation.OfIndex) (known : Snapshot) :
    (mutation.apply known).index = known.index := by
  cases mutation with
  | storeToken name token user => exact (ofUsers trivial).elim
  | deleteToken name => exact (ofUsers trivial).elim
  | invalidate user => rfl
  | storeCredential user credential => rfl

theorem apply_comm {mutation other : Mutation} (ofIndex : mutation.OfIndex) (ofUsers : ¬other.OfIndex)
    (known : Snapshot) : mutation.apply (other.apply known) = other.apply (mutation.apply known) := by
  cases mutation with
  | invalidate user => exact ofIndex.elim
  | storeCredential user credential => exact ofIndex.elim
  | storeToken name token user | deleteToken name =>
    cases other with
    | storeToken name token user => exact (ofUsers trivial).elim
    | deleteToken name => exact (ofUsers trivial).elim
    | invalidate user => rfl
    | storeCredential user credential => rfl

end Mutation

namespace TokenIndex

/-- Of every index that changes have led to from the empty one: registrations that share no name and no token lead to
the same index in whatever order they are made, whatever their names and tokens were paired with before; and so do a
registration and the removal of another name. In every store the changes of the index leave the users alone, those of
the users leave the index alone, and either comes first with the same result. -/
theorem independent_changes_commute (past : List IndexChange) :
    let index := (runAll change empty past).1
    (∀ entries others : List Registration, entries.Perm others → (entries.map (·.name)).Nodup →
      (entries.map (·.token)).Nodup → index.registerAll entries = index.registerAll others) ∧
    (∀ (entry : Registration) (name : String), entry.name ≠ name →
      (index.insert entry.name entry.token entry.user).remove name =
        (index.remove name).insert entry.name entry.token entry.user) ∧
    ∀ (σ : Type) [TokenStore σ] [SnapshotStore σ] (store : σ) (mutation other : Mutation),
      mutation.OfIndex → ¬other.OfIndex →
        (state (mutation.call store).2).users = (state store).users ∧
        (state (other.call store).2).index = (state store).index ∧
        state (mutation.call (other.call store).2).2 = state (other.call (mutation.call store).2).2 := by
  intro index
  have represents : index.Represents (runAll Registrations.change ∅ past).1 := represents_empty.run past
  refine ⟨fun entries others permuted names tokens => ?_, fun entry name different => ?_, ?_⟩
  · rw [registerAll_eq, registerAll_eq]
    exact represents.run_perm (permuted.map _) (IndexChange.pairwise_independent names tokens)
  · have independent : [IndexChange.insert entry, .remove name].Pairwise IndexChange.Independent := by
      simpa using IndexChange.independent_remove different
    exact represents.run_perm (.swap _ _ _) independent
  · intro σ _ _ store mutation other ofIndex ofUsers
    simp only [SnapshotStore.state_call]
    exact ⟨Mutation.apply_users ofIndex _, Mutation.apply_index ofUsers _, Mutation.apply_comm ofIndex ofUsers _⟩

theorem independent_changes_commute_exchanged :
    let past : List IndexChange :=
      [.insert ⟨"laptop", "first", "alice"⟩, .insert ⟨"phone", "second", "bob"⟩, .insert ⟨"desk", "third", "bob"⟩]
    let index := (runAll change empty past).1
    let entries : List Registration :=
      [⟨"laptop", "second", "bob"⟩, ⟨"phone", "first", "alice"⟩, ⟨"tower", "fourth", "eve"⟩]
    let store : MemoryStore := ⟨⟨index, .empty⟩⟩
    (entries.map (·.name)).Nodup ∧ (entries.map (·.token)).Nodup ∧
      index.registerAll entries = index.registerAll entries.reverse ∧
      (index.registerAll entries).names.entries =
        [("desk", "third"), ("laptop", "second"), ("phone", "first"), ("tower", "fourth")] ∧
      "tower" ≠ "desk" ∧
      (index.insert "tower" "third" "eve").remove "desk" = (index.remove "desk").insert "tower" "third" "eve" ∧
      (Mutation.deleteToken "desk").OfIndex ∧ ¬(Mutation.invalidate "bob").OfIndex ∧
      state ((Mutation.deleteToken "desk").call ((Mutation.invalidate "bob").call store).2).2 =
        state ((Mutation.invalidate "bob").call ((Mutation.deleteToken "desk").call store).2).2 := by
  intro past index entries store
  have names : (entries.map (·.name)).Nodup := by decide
  have tokens : (entries.map (·.token)).Nodup := by decide
  obtain ⟨permuted, removed, users⟩ := independent_changes_commute past
  refine ⟨names, tokens, permuted entries entries.reverse entries.reverse_perm.symm names tokens, by decide +kernel,
    by decide, removed ⟨"tower", "third", "eve"⟩ "desk" (by decide), trivial, id, ?_⟩
  exact (users MemoryStore store (.deleteToken "desk") (.invalidate "bob") trivial id).2.2

end TokenIndex

end LoginGateway
