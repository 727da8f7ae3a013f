import LoginGateway.Proofs.Runs
import LoginGateway.Store.Index
import Mathlib.Data.Finset.Filter
import Mathlib.Data.Finset.Insert

namespace LoginGateway

structure Registration where
  name : String
  token : String
  user : String
  deriving DecidableEq, Repr

inductive IndexChange where
  | insert (entry : Registration)
  | remove (name : String)
  deriving DecidableEq, Repr

/-- Whether the change is about the name or the token of a registration. -/
def IndexChange.Concerns : IndexChange → Registration → Prop
  | .insert entry, other => other.name = entry.name ∨ other.token = entry.token
  | .remove name, other => other.name = name

def TokenIndex.change (index : TokenIndex) : IndexChange → TokenIndex × Option Bool
  | .insert entry => (index.insert entry.name entry.token entry.user, none)
  | .remove name => ((index.removal name).1, some (index.removal name).2)

abbrev Registrations := Finset Registration

namespace Registrations

def register (held : Registrations) (entry : Registration) : Registrations :=
  insert entry (held.filter fun other => other.name ≠ entry.name ∧ other.token ≠ entry.token)

def withdraw (held : Registrations) (name : String) : Registrations := held.filter fun other => other.name ≠ name

def change (held : Registrations) : IndexChange → Registrations × Option Bool
  | .insert entry => (held.register entry, none)
  | .remove name => (held.withdraw name, some (decide (∃ entry ∈ held, entry.name = name)))

theorem mem_register {held : Registrations} {entry other : Registration} :
    other ∈ held.register entry ↔
      other = entry ∨ other ∈ held ∧ other.name ≠ entry.name ∧ other.token ≠ entry.token := by
  simp [register]

theorem mem_withdraw {held : Registrations} {name : String} {other : Registration} :
    other ∈ held.withdraw name ↔ other ∈ held ∧ other.name ≠ name := by
  simp [withdraw]

def Distinct (held : Registrations) : Prop :=
  ∀ first ∈ held, ∀ second ∈ held, first.name = second.name ∨ first.token = second.token → first = second

theorem Distinct.register {held : Registrations} (distinct : held.Distinct) (entry : Registration) :
    (held.register entry).Distinct := by
  intro first firstMem second secondMem shared
  rcases mem_register.mp firstMem with rfl | ⟨firstHeld, firstName, firstToken⟩ <;>
    rcases mem_register.mp secondMem with rfl | ⟨secondHeld, secondName, secondToken⟩
  · rfl
  · exact (shared.elim (fun same => secondName same.symm) fun same => secondToken same.symm).elim
  · exact (shared.elim firstName firstToken).elim
  · exact distinct first firstHeld second secondHeld shared

theorem Distinct.withdraw {held : Registrations} (distinct : held.Distinct) (name : String) :
    (held.withdraw name).Distinct := by
  intro first firstMem second secondMem shared
  exact distinct first (mem_withdraw.mp firstMem).1 second (mem_withdraw.mp secondMem).1 shared

end Registrations

namespace TokenIndex

theorem names_insert (index : TokenIndex) (name token user other : String) :
    (index.insert name token user).names.find? other =
      if other = name then some token else (index.names.find? other).filter (· != token) := by
  simp only [insert, Dict.find?_filter, Dict.find?_insert]
  by_cases same : other = name
  · simp [same]
  · simp [same, beq_eq_false_iff_ne.mpr same]

theorem find?_displace (tokens : Dict String) (previous : Option String) {token other : String}
    (different : other ≠ token) :
    (displace tokens previous token).find? other = if previous = some other then none else tokens.find? other := by
  cases previous with
  | none => simp [displace]
  | some old =>
    simp only [displace, Option.some.injEq]
    split
    · rename_i kept
      rw [if_neg fun same => different (same.symm.trans kept)]
    · rw [Dict.find?_erase]
      simp only [eq_comm]

theorem tokens_insert (index : TokenIndex) (name token user other : String) :
    (index.insert name token user).tokens.find? other =
      if other = token then some user
      else if index.names.find? name = some other then none else index.tokens.find? other := by
  simp only [insert, Dict.find?_insert]
  split
  · rfl
  · rename_i different
    rw [find?_displace _ _ different]

theorem containsName_eq_false {index : TokenIndex} {name : String} :
    index.containsName name = false ↔ index.names.find? name = none :=
  Option.isSome_eq_false_iff.trans Option.isNone_iff_eq_none

theorem containsToken_eq_false {index : TokenIndex} {token : String} :
    index.containsToken token = false ↔ index.tokens.find? token = none :=
  Option.isSome_eq_false_iff.trans Option.isNone_iff_eq_none

theorem containsToken_insert {index : TokenIndex} {token other : String} (different : other ≠ token)
    (free : index.containsToken other = false) (name user : String) :
    (index.insert name token user).containsToken other = false := by
  rw [containsToken_eq_false] at free ⊢
  rw [tokens_insert, if_neg different]
  split
  · rfl
  · exact free

theorem names_remove (index : TokenIndex) (name other : String) :
    (index.remove name).names.find? other = if other = name then none else index.names.find? other := by
  simp only [remove, removal]
  split
  · rw [Dict.find?_erase]
  · rename_i absent
    split
    · rename_i same
      rw [same, absent]
    · rfl

theorem tokens_remove (index : TokenIndex) (name other : String) :
    (index.remove name).tokens.find? other =
      if index.names.find? name = some other then none else index.tokens.find? other := by
  simp only [remove, removal]
  cases index.names.find? name with
  | none => simp
  | some token => simp only [Dict.find?_erase, Option.some.injEq, eq_comm]

theorem removal_answer (index : TokenIndex) (name : String) :
    (index.removal name).2 = (index.names.find? name).isSome := by
  simp only [removal]
  cases index.names.find? name <;> rfl

/-- The maps are the projections of these registrations. -/
structure Represents (index : TokenIndex) (held : Registrations) : Prop where
  names : ∀ name token, index.names.find? name = some token ↔ ∃ user, ⟨name, token, user⟩ ∈ held
  tokens : ∀ token user, index.tokens.find? token = some user ↔ ∃ name, ⟨name, token, user⟩ ∈ held
  distinct : held.Distinct

theorem represents_empty : Represents empty ∅ where
  names := by simp [empty]
  tokens := by simp [empty]
  distinct := by simp [Registrations.Distinct]

theorem Represents.name_unique {index : TokenIndex} {held : Registrations} (represents : index.Represents held)
    {entry : Registration} (member : entry ∈ held) {name : String}
    (holds : index.names.find? name = some entry.token) : name = entry.name := by
  obtain ⟨user, other⟩ := (represents.names _ _).mp holds
  exact congrArg Registration.name (represents.distinct _ other _ member (.inr rfl))

theorem Represents.insert {index : TokenIndex} {held : Registrations} (represents : index.Represents held)
    (entry : Registration) :
    (index.insert entry.name entry.token entry.user).Represents (held.register entry) where
  names name token := by
    rw [names_insert]
    simp only [Registrations.mem_register]
    by_cases same : name = entry.name
    · constructor
      · intro found
        rw [if_pos same] at found
        exact ⟨entry.user, .inl (by rw [same, ← Option.some.inj found])⟩
      · rintro ⟨user, rfl | ⟨-, other, -⟩⟩
        · simp
        · exact absurd same other
    · rw [if_neg same, Option.filter_eq_some_iff, represents.names]
      constructor
      · rintro ⟨⟨user, member⟩, other⟩
        exact ⟨user, .inr ⟨member, same, by simpa using other⟩⟩
      · rintro ⟨user, rfl | ⟨member, -, other⟩⟩
        · exact absurd rfl same
        · exact ⟨⟨user, member⟩, by simpa using other⟩
  tokens token user := by
    rw [tokens_insert]
    simp only [Registrations.mem_register]
    by_cases same : token = entry.token
    · constructor
      · intro found
        rw [if_pos same] at found
        exact ⟨entry.name, .inl (by rw [same, ← Option.some.inj found])⟩
      · rintro ⟨name, rfl | ⟨-, -, other⟩⟩
        · simp
        · exact absurd same other
    · rw [if_neg same]
      -- The token that the name loses is no other name's token, so what stays is what has another name.
      split
      · rename_i lost
        refine ⟨by simp, ?_⟩
        rintro ⟨name, rfl | ⟨member, other, -⟩⟩
        · exact absurd rfl same
        · exact absurd (represents.name_unique member lost).symm other
      · rename_i kept
        rw [represents.tokens]
        constructor
        · rintro ⟨name, member⟩
          refine ⟨name, .inr ⟨member, ?_, same⟩⟩
          rintro rfl
          exact kept ((represents.names _ _).mpr ⟨user, member⟩)
        · rintro ⟨name, rfl | ⟨member, -, -⟩⟩
          · exact absurd rfl same
          · exact ⟨name, member⟩
  distinct := represents.distinct.register entry

theorem Represents.remove {index : TokenIndex} {held : Registrations} (represents : index.Represents held)
    (name : String) : (index.remove name).Represents (held.withdraw name) where
  names other token := by
    rw [names_remove]
    simp only [Registrations.mem_withdraw]
    split
    · rename_i same
      simp [same]
    · rename_i different
      simp [represents.names, different]
  tokens token user := by
    rw [tokens_remove]
    simp only [Registrations.mem_withdraw]
    split
    · rename_i lost
      refine ⟨by simp, ?_⟩
      rintro ⟨other, member, different⟩
      exact absurd (represents.name_unique member lost).symm different
    · rename_i kept
      rw [represents.tokens]
      constructor
      · rintro ⟨other, member⟩
        refine ⟨other, member, ?_⟩
        rintro rfl
        exact kept ((represents.names _ _).mpr ⟨user, member⟩)
      · rintro ⟨other, member, -⟩
        exact ⟨other, member⟩
  distinct := represents.distinct.withdraw name

theorem Represents.isSome_names {index : TokenIndex} {held : Registrations} (represents : index.Represents held)
    (name : String) : (index.names.find? name).isSome ↔ ∃ entry ∈ held, entry.name = name := by
  rw [Option.isSome_iff_exists]
  constructor
  · rintro ⟨token, found⟩
    obtain ⟨user, member⟩ := (represents.names _ _).mp found
    exact ⟨_, member, rfl⟩
  · rintro ⟨entry, member, rfl⟩
    exact ⟨entry.token, (represents.names _ _).mpr ⟨entry.user, member⟩⟩

theorem Represents.change {index : TokenIndex} {held : Registrations} (represents : index.Represents held)
    (change : IndexChange) :
    (index.change change).1.Represents (held.change change).1 ∧
      (index.change change).2 = (held.change change).2 := by
  cases change with
  | insert entry => exact ⟨represents.insert entry, rfl⟩
  | remove name =>
    refine ⟨represents.remove name, ?_⟩
    simp only [TokenIndex.change, Registrations.change, removal_answer]
    congr 1
    exact Bool.eq_iff_iff.mpr ((represents.isSome_names name).trans decide_eq_true_iff.symm)

def OneName (index : TokenIndex) : Prop :=
  ∀ first second token, index.names.find? first = some token → index.names.find? second = some token →
    first = second

def Mapped (index : TokenIndex) : Prop :=
  ∀ name token, index.names.find? name = some token → (index.tokens.find? token).isSome

def Listed (index : TokenIndex) : Prop :=
  ∀ token, (index.tokens.find? token).isSome → ∃ name, index.names.find? name = some token

def Holds (index : TokenIndex) (entry : Registration) : Prop :=
  index.names.find? entry.name = some entry.token ∧ index.tokens.find? entry.token = some entry.user

theorem holds_insert (index : TokenIndex) (entry : Registration) :
    (index.insert entry.name entry.token entry.user).Holds entry :=
  ⟨(index.names_insert _ _ _ _).trans (if_pos rfl), (index.tokens_insert _ _ _ _).trans (if_pos rfl)⟩

structure Answers (index : TokenIndex) (held : Registrations) : Prop where
  containsName : ∀ name, index.containsName name ↔ ∃ entry ∈ held, entry.name = name
  containsToken : ∀ token, index.containsToken token ↔ ∃ entry ∈ held, entry.token = token
  userOf : ∀ token user, index.userOf? token = some user ↔ ∃ entry ∈ held, entry.token = token ∧ entry.user = user
  nameList : index.nameList.Nodup ∧ ∀ name, name ∈ index.nameList ↔ ∃ entry ∈ held, entry.name = name

theorem Represents.oneName {index : TokenIndex} {held : Registrations} (represents : index.Represents held) :
    index.OneName := by
  intro first second token holdsFirst holdsSecond
  obtain ⟨user, member⟩ := (represents.names _ _).mp holdsSecond
  exact represents.name_unique member holdsFirst

theorem Represents.mapped {index : TokenIndex} {held : Registrations} (represents : index.Represents held) :
    index.Mapped := by
  intro name token holds
  obtain ⟨user, member⟩ := (represents.names _ _).mp holds
  exact Option.isSome_iff_exists.mpr ⟨user, (represents.tokens _ _).mpr ⟨name, member⟩⟩

theorem Represents.ne_of_fresh {index : TokenIndex} {held : Registrations} (represents : index.Represents held)
    {name token new : String} (fresh : index.containsToken new = false)
    (holds : index.names.find? name = some token) : token ≠ new := by
  rintro rfl
  have mapped := represents.mapped name token holds
  rw [containsToken_eq_false.mp fresh] at mapped
  cases mapped

theorem Represents.unheld {index : TokenIndex} {held : Registrations} (represents : index.Represents held)
    {new : String} (fresh : index.containsToken new = false) (name : String) :
    (index.names.find? name).filter (· != new) = index.names.find? name := by
  cases holds : index.names.find? name with
  | none => rfl
  | some token =>
    have different := represents.ne_of_fresh fresh holds
    exact Option.filter_eq_some_iff.mpr ⟨rfl, by simpa using different⟩

theorem Represents.listed {index : TokenIndex} {held : Registrations} (represents : index.Represents held) :
    index.Listed := by
  intro token stands
  obtain ⟨user, found⟩ := Option.isSome_iff_exists.mp stands
  obtain ⟨name, member⟩ := (represents.tokens _ _).mp found
  exact ⟨name, (represents.names _ _).mpr ⟨user, member⟩⟩

theorem Represents.holds_iff {index : TokenIndex} {held : Registrations} (represents : index.Represents held)
    (entry : Registration) : index.Holds entry ↔ entry ∈ held := by
  constructor
  · rintro ⟨named, stands⟩
    obtain ⟨name, member⟩ := (represents.tokens _ _).mp stands
    have same : entry.name = name := represents.name_unique member named
    rwa [← same] at member
  · intro member
    exact ⟨(represents.names _ _).mpr ⟨_, member⟩, (represents.tokens _ _).mpr ⟨_, member⟩⟩

theorem Represents.answers {index : TokenIndex} {held : Registrations} (represents : index.Represents held) :
    index.Answers held where
  containsName := represents.isSome_names
  containsToken token := by
    constructor
    · intro contained
      obtain ⟨user, found⟩ := Option.isSome_iff_exists.mp contained
      obtain ⟨name, member⟩ := (represents.tokens _ _).mp found
      exact ⟨_, member, rfl⟩
    · rintro ⟨entry, member, rfl⟩
      exact Option.isSome_iff_exists.mpr ⟨_, (represents.tokens _ _).mpr ⟨entry.name, member⟩⟩
  userOf token user := by
    refine (represents.tokens token user).trans ⟨?_, ?_⟩
    · rintro ⟨name, member⟩
      exact ⟨_, member, rfl, rfl⟩
    · rintro ⟨entry, member, rfl, rfl⟩
      exact ⟨entry.name, member⟩
  nameList :=
    ⟨index.names.keys_nodup, fun name => Dict.mem_keys_iff.trans (represents.isSome_names name)⟩

theorem Represents.holds_change_iff {index : TokenIndex} {held : Registrations} (represents : index.Represents held)
    {change : IndexChange} {entry : Registration} (spared : ¬change.Concerns entry) :
    (index.change change).1.Holds entry ↔ index.Holds entry := by
  rw [(represents.change change).1.holds_iff, represents.holds_iff]
  cases change with
  | insert new =>
    have ⟨name, token⟩ := not_or.mp spared
    have different : entry ≠ new := fun same => name (congrArg Registration.name same)
    simp [Registrations.change, Registrations.mem_register, different, name, token]
  | remove name =>
    have different : entry.name ≠ name := spared
    simp [Registrations.change, Registrations.mem_withdraw, different]

/-- Over every run of changes from the empty index, the two maps are the projections of a set of registrations
that each change alters by name and token, and the removals are answered by that set. -/
theorem index_runs_as_registrations (changes : List IndexChange) :
    let index := (runAll TokenIndex.change empty changes).1
    let held := (runAll Registrations.change ∅ changes).1
    (runAll TokenIndex.change empty changes).2 = (runAll Registrations.change ∅ changes).2 ∧
    index.Represents held ∧ index.Answers held ∧ index.OneName ∧ index.Mapped ∧
    (∀ token, index.containsToken token → ∃! name, index.names.find? name = some token) ∧
    ∀ change entry, ¬change.Concerns entry → ((index.change change).1.Holds entry ↔ index.Holds entry) := by
  intro index held
  have ⟨represents, answers⟩ : index.Represents held ∧ _ :=
    runAll_related (fun _ _ change related => related.change change) changes empty ∅ represents_empty
  refine ⟨answers, represents, represents.answers, represents.oneName, represents.mapped, ?_, ?_⟩
  · intro token contained
    obtain ⟨name, holds⟩ := represents.listed token contained
    exact ⟨name, holds, fun other otherHolds => represents.oneName other name token otherHolds holds⟩
  · intro change entry spared
    exact represents.holds_change_iff spared

theorem index_runs_as_registrations_moved :
    let changes : List IndexChange :=
      [.insert ⟨"laptop", "first", "alice"⟩, .insert ⟨"phone", "first", "alice"⟩, .insert ⟨"phone", "second", "bob"⟩,
       .remove "laptop"]
    let index := (runAll TokenIndex.change empty changes).1
    (runAll TokenIndex.change empty changes).2 = [none, none, none, some false] ∧
    index.containsToken "second" ∧ (∃! name, index.names.find? name = some "second") ∧
    ¬IndexChange.Concerns (.remove "desk") ⟨"phone", "second", "bob"⟩ ∧
    ((index.change (.remove "desk")).1.Holds ⟨"phone", "second", "bob"⟩ ↔ index.Holds ⟨"phone", "second", "bob"⟩) := by
  intro changes index
  have contained : index.containsToken "second" := by decide +kernel
  have spared : ¬IndexChange.Concerns (.remove "desk") ⟨"phone", "second", "bob"⟩ := by
    simp [IndexChange.Concerns]
  have ⟨answers, _, _, _, _, held, kept⟩ := index_runs_as_registrations changes
  refine ⟨?_, contained, held "second" contained, spared, kept _ _ spared⟩
  rw [answers]
  decide +kernel

end TokenIndex

end LoginGateway
