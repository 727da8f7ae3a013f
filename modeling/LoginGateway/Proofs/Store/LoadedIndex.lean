import LoginGateway.Proofs.Store.Registrations

namespace LoginGateway

namespace IndexChange

def name : IndexChange → String
  | .insert entry => entry.name
  | .remove name => name

def token? : IndexChange → Option String
  | .insert entry => some entry.token
  | .remove _ => none

end IndexChange

namespace TokenIndex

/-- The token stands for a user and no name holds it: whoever presents it is let in, and no list shows it. -/
def Unlisted (index : TokenIndex) (token : String) : Prop :=
  (index.tokens.find? token).isSome ∧ ∀ name, index.names.find? name ≠ some token

theorem listed_iff {index : TokenIndex} : index.Listed ↔ ∀ token, ¬index.Unlisted token := by
  constructor
  · rintro listed token ⟨stands, unheld⟩
    obtain ⟨name, holds⟩ := listed token stands
    exact unheld name holds
  · intro none token stands
    by_contra unheld
    exact none token ⟨stands, fun name holds => unheld ⟨name, holds⟩⟩

instance (index : TokenIndex) : Decidable index.OneName :=
  decidable_of_iff
    (∀ first ∈ index.names.entries, ∀ second ∈ index.names.entries, first.2 = second.2 → first.1 = second.1) <| by
    simp only [OneName, Dict.find?_eq_some_iff, Prod.forall]
    constructor
    · exact fun unique first second token holdsFirst holdsSecond => unique _ _ holdsFirst _ _ holdsSecond rfl
    · rintro unique first token holdsFirst second _ holdsSecond rfl
      exact unique first second token holdsFirst holdsSecond

instance (index : TokenIndex) : Decidable index.Mapped :=
  decidable_of_iff (∀ entry ∈ index.names.entries, (index.tokens.find? entry.2).isSome) <| by
    simp only [Mapped, Dict.find?_eq_some_iff, Prod.forall]

instance (index : TokenIndex) (token : String) : Decidable (index.Unlisted token) :=
  decidable_of_iff ((index.tokens.find? token).isSome ∧ ∀ entry ∈ index.names.entries, entry.2 ≠ token) <| by
    simp only [Unlisted, ne_eq, Dict.find?_eq_some_iff, Prod.forall]
    refine and_congr_right fun _ => ⟨fun unheld name holds => unheld name token holds rfl, ?_⟩
    rintro unheld name _ holds rfl
    exact unheld name holds

instance (index : TokenIndex) : Decidable index.Listed :=
  decidable_of_iff (∀ token ∈ index.tokens.keys, ¬index.Unlisted token) <| by
    rw [listed_iff]
    exact ⟨fun none token unlisted => none token (Dict.mem_keys_iff.mpr unlisted.1) unlisted,
      fun none token _ => none token⟩

theorem names_change (index : TokenIndex) (change : IndexChange) (name token : String) :
    (index.change change).1.names.find? name = some token ↔
      (∃ user, change = .insert ⟨name, token, user⟩) ∨
      index.names.find? name = some token ∧ name ≠ change.name ∧ change.token? ≠ some token := by
  cases change with
  | insert entry =>
    obtain ⟨new, given, user⟩ := entry
    simp only [change, names_insert, IndexChange.name, IndexChange.token?]
    by_cases same : name = new
    · simp [same, eq_comm]
    · simp [same, Ne.symm same, Option.filter_eq_some_iff, ne_comm]
  | remove gone =>
    have removed := names_remove index gone name
    simp only [remove] at removed
    simp only [change, removed, IndexChange.name, IndexChange.token?]
    by_cases same : name = gone <;> simp [same]

theorem tokens_change (index : TokenIndex) (change : IndexChange) (token user : String) :
    (index.change change).1.tokens.find? token = some user ↔
      (∃ name, change = .insert ⟨name, token, user⟩) ∨
      index.tokens.find? token = some user ∧ index.names.find? change.name ≠ some token ∧
        change.token? ≠ some token := by
  cases change with
  | insert entry =>
    obtain ⟨new, given, owner⟩ := entry
    simp only [change, tokens_insert, IndexChange.name, IndexChange.token?]
    by_cases same : token = given
    · simp [same, eq_comm]
    · by_cases lost : index.names.find? new = some token <;> simp [same, Ne.symm same, lost]
  | remove gone =>
    have removed := tokens_remove index gone token
    simp only [remove] at removed
    simp only [change, removed, IndexChange.name, IndexChange.token?]
    by_cases lost : index.names.find? gone = some token <;> simp [lost]

variable {index : TokenIndex}

theorem OneName.change (oneName : index.OneName) (change : IndexChange) : (index.change change).1.OneName := by
  intro first second token holdsFirst holdsSecond
  rcases (names_change _ _ _ _).mp holdsFirst with ⟨user, rfl⟩ | ⟨heldFirst, -, firstKept⟩
  · rcases (names_change _ _ _ _).mp holdsSecond with ⟨user', same⟩ | ⟨-, -, taken⟩
    · cases same
      rfl
    · exact absurd rfl taken
  · rcases (names_change _ _ _ _).mp holdsSecond with ⟨user, rfl⟩ | ⟨heldSecond, -, -⟩
    · exact absurd rfl firstKept
    · exact oneName first second token heldFirst heldSecond

theorem Mapped.change (mapped : index.Mapped) (oneName : index.OneName) (change : IndexChange) :
    (index.change change).1.Mapped := by
  intro name token holds
  rw [Option.isSome_iff_exists]
  rcases (names_change _ _ _ _).mp holds with ⟨user, made⟩ | ⟨held, other, ungiven⟩
  · exact ⟨user, (tokens_change _ _ _ _).mpr (.inl ⟨name, made⟩)⟩
  · obtain ⟨user, stands⟩ := Option.isSome_iff_exists.mp (mapped name token held)
    have kept : index.names.find? change.name ≠ some token :=
      fun shared => other (oneName name change.name token held shared)
    exact ⟨user, (tokens_change _ _ _ _).mpr (.inr ⟨stands, kept, ungiven⟩)⟩

theorem Unlisted.of_change {change : IndexChange} {token : String} (unlisted : (index.change change).1.Unlisted token) :
    index.Unlisted token := by
  obtain ⟨valid, unheld⟩ := unlisted
  obtain ⟨user, stands⟩ := Option.isSome_iff_exists.mp valid
  rcases (tokens_change _ _ _ _).mp stands with ⟨name, made⟩ | ⟨stood, spared, ungiven⟩
  · exact absurd ((names_change _ _ _ _).mpr (.inl ⟨user, made⟩)) (unheld name)
  · refine ⟨Option.isSome_iff_exists.mpr ⟨user, stood⟩, fun name held => ?_⟩
    have other : name ≠ change.name := by
      rintro rfl
      exact spared held
    exact unheld name ((names_change _ _ _ _).mpr (.inr ⟨held, other, ungiven⟩))

/-- The maps of an index fit each other afterwards as far as they did before. -/
structure KeepsFit (index after : TokenIndex) : Prop where
  oneName : index.OneName → after.OneName
  listed : index.Listed → after.Listed
  mapped : index.OneName → index.Mapped → after.Mapped
  unlisted : ∀ token, after.Unlisted token → index.Unlisted token

theorem keepsFit_change (index : TokenIndex) (change : IndexChange) : index.KeepsFit (index.change change).1 where
  oneName oneName := oneName.change change
  listed listed := listed_iff.mpr fun token unlisted => listed_iff.mp listed token unlisted.of_change
  mapped oneName mapped := mapped.change oneName change
  unlisted _ := Unlisted.of_change

theorem KeepsFit.trans {after last : TokenIndex} (first : index.KeepsFit after) (second : after.KeepsFit last) :
    index.KeepsFit last where
  oneName oneName := second.oneName (first.oneName oneName)
  listed listed := second.listed (first.listed listed)
  mapped oneName mapped := second.mapped (first.oneName oneName) (first.mapped oneName mapped)
  unlisted token unlisted := first.unlisted token (second.unlisted token unlisted)

theorem keepsFit_run (index : TokenIndex) (changes : List IndexChange) :
    index.KeepsFit (runAll change index changes).1 := by
  induction changes generalizing index with
  | nil => exact ⟨id, id, fun _ => id, fun _ => id⟩
  | cons change changes ih => exact (index.keepsFit_change change).trans (ih _)

/-- Of every index, whatever its maps hold: an insertion leaves the name with the token and the token with the user, no
other name with the token, and the token that the name held before with nobody; a removal leaves neither the name nor a
user for its token. Either keeps each property by which the maps fit each other, and so does every run of them; no
token that stands for a user is ever left without a name that was not so from the beginning. -/
theorem any_index_changes (index : TokenIndex) :
    (∀ entry : Registration,
      let after := index.insert entry.name entry.token entry.user
      after.Holds entry ∧
      (∀ other, after.names.find? other = some entry.token → other = entry.name) ∧
      ∀ displaced, index.names.find? entry.name = some displaced → displaced ≠ entry.token →
        after.tokens.find? displaced = none) ∧
    (∀ name,
      let after := index.remove name
      after.names.find? name = none ∧
      ∀ token, index.names.find? name = some token → after.tokens.find? token = none) ∧
    (∀ entry : Registration, index.KeepsFit (index.insert entry.name entry.token entry.user)) ∧
    (∀ name, index.KeepsFit (index.remove name)) ∧
    ∀ changes, index.KeepsFit (runAll change index changes).1 := by
  refine ⟨fun entry => ⟨index.holds_insert entry, ?_, ?_⟩, fun name => ⟨?_, ?_⟩,
    fun entry => index.keepsFit_change (.insert entry), fun name => index.keepsFit_change (.remove name),
    index.keepsFit_run⟩
  · intro other holds
    rcases (names_change index (.insert entry) other entry.token).mp holds with ⟨user, same⟩ | ⟨-, -, taken⟩
    · exact (congrArg Registration.name (IndexChange.insert.inj same)).symm
    · exact absurd rfl taken
  · intro displaced held different
    rw [tokens_insert, if_neg different, if_pos held]
  · rw [names_remove, if_pos rfl]
  · intro token held
    rw [tokens_remove, if_pos held]

def foreign : TokenIndex :=
  ⟨.ofList [("desk", "first"), ("laptop", "first"), ("phone", "second")],
    .ofList [("first", "alice"), ("lost", "eve"), ("second", "bob")]⟩

theorem any_index_changes_foreign :
    let entry : Registration := ⟨"laptop", "second", "bob"⟩
    let after := foreign.insert entry.name entry.token entry.user
    let sound := (foreign.remove "desk").insert "laptop" "lost" "eve"
    (foreign.names.find? "laptop" = some "first" ∧ after.tokens.find? "first" = none) ∧
    (after.names.find? "phone" ≠ some "second") ∧
    (foreign.names.find? "desk" = some "first" ∧ (foreign.remove "desk").tokens.find? "first" = none) ∧
    (foreign.Mapped ∧ ¬foreign.OneName ∧ ¬after.Mapped) ∧
    (after.Unlisted "lost" ∧ foreign.Unlisted "lost") ∧
    sound.OneName ∧ sound.Mapped ∧ sound.Listed ∧
    (sound.remove "phone").OneName ∧ (sound.remove "phone").Mapped ∧ (sound.remove "phone").Listed := by
  intro entry after sound
  obtain ⟨inserted, removed, fitsInserted, -, -⟩ := any_index_changes foreign
  obtain ⟨-, alone, displaced⟩ := inserted entry
  obtain ⟨-, gone⟩ := removed "desk"
  have shared : foreign.names.find? "laptop" = some "first" ∧ foreign.names.find? "desk" = some "first" := by decide
  have unlisted : after.Unlisted "lost" := by decide
  have oneName : sound.OneName := by decide
  have mapped : sound.Mapped := by decide
  have listed : sound.Listed := by decide
  have fits := (any_index_changes sound).2.2.2.1 "phone"
  refine ⟨⟨shared.1, displaced "first" shared.1 (by decide)⟩, fun held => ?_,
    ⟨shared.2, gone "first" shared.2⟩, by decide, ⟨unlisted, (fitsInserted entry).unlisted "lost" unlisted⟩,
    oneName, mapped, listed, fits.oneName oneName, fits.mapped oneName mapped, fits.listed listed⟩
  exact absurd (alone "phone" held) (by decide)

end TokenIndex

end LoginGateway
