namespace LoginGateway

structure Dict (α : Type) where
  entries : List (String × α)
  ordered : entries.Pairwise fun left right => left.1 < right.1

namespace Dict

variable {α β : Type}

def empty : Dict α := ⟨[], .nil⟩

instance : Inhabited (Dict α) := ⟨empty⟩

instance [DecidableEq α] : DecidableEq (Dict α) := fun left right =>
  decidable_of_iff (left.entries = right.entries)
    ⟨fun same => by cases left; cases right; cases same; rfl, fun same => same ▸ rfl⟩

def find? (dict : Dict α) (key : String) : Option α := dict.entries.lookup key

def contains (dict : Dict α) (key : String) : Bool := (dict.find? key).isSome

def keys (dict : Dict α) : List String := dict.entries.map (·.1)

def size (dict : Dict α) : Nat := dict.entries.length

def insertEntry (key : String) (value : α) : List (String × α) → List (String × α)
  | [] => [(key, value)]
  | (other, old) :: rest =>
    if key < other then (key, value) :: (other, old) :: rest
    else if key = other then (key, value) :: rest
    else (other, old) :: insertEntry key value rest

theorem lt_of_not_lt_of_ne {left right : String} (notLess : ¬left < right) (different : left ≠ right) :
    right < left :=
  Decidable.byContradiction fun notGreater =>
    different (String.le_antisymm (String.not_lt.mp notGreater) (String.not_lt.mp notLess))

theorem mem_insertEntry {key : String} {value : α} {entries : List (String × α)} {entry : String × α}
    (member : entry ∈ insertEntry key value entries) : entry = (key, value) ∨ entry ∈ entries := by
  induction entries with
  | nil => simpa [insertEntry] using member
  | cons head rest ih =>
    obtain ⟨other, old⟩ := head
    simp only [insertEntry] at member
    split at member
    · simpa using member
    · split at member
      · rcases List.mem_cons.mp member with same | member
        · exact .inl same
        · exact .inr (List.mem_cons_of_mem _ member)
      · rcases List.mem_cons.mp member with same | member
        · exact .inr (same ▸ List.mem_cons_self)
        · exact (ih member).imp id (List.mem_cons_of_mem _)

theorem insertEntry_ordered (key : String) (value : α) {entries : List (String × α)}
    (ordered : entries.Pairwise fun left right => left.1 < right.1) :
    (insertEntry key value entries).Pairwise fun left right => left.1 < right.1 := by
  induction ordered with
  | nil => exact List.pairwise_singleton _ _
  | @cons head rest below tail ih =>
    obtain ⟨other, old⟩ := head
    simp only [insertEntry]
    split
    · rename_i less
      refine .cons (fun entry member => ?_) (.cons below tail)
      rcases List.mem_cons.mp member with rfl | member
      · exact less
      · exact String.lt_trans less (below _ member)
    · split
      · rename_i same
        exact .cons (fun entry member => same ▸ below entry member) tail
      · rename_i notLess different
        refine .cons (fun entry member => ?_) ih
        rcases mem_insertEntry member with rfl | member
        · exact lt_of_not_lt_of_ne notLess different
        · exact below _ member

def insert (dict : Dict α) (key : String) (value : α) : Dict α :=
  ⟨insertEntry key value dict.entries, insertEntry_ordered key value dict.ordered⟩

def filter (dict : Dict α) (keep : String → α → Bool) : Dict α :=
  ⟨dict.entries.filter fun entry => keep entry.1 entry.2, dict.ordered.filter _⟩

def map (f : α → β) (dict : Dict α) : Dict β :=
  ⟨dict.entries.map fun entry => (entry.1, f entry.2), List.pairwise_map.mpr dict.ordered⟩

def erase (dict : Dict α) (key : String) : Dict α := dict.filter fun other _ => other != key

/-- The map of a list of entries; of two with one key the later stands. -/
def ofList (entries : List (String × α)) : Dict α :=
  entries.foldl (fun dict entry => dict.insert entry.1 entry.2) empty

theorem lookup_insertEntry (key : String) (value : α) (entries : List (String × α)) (other : String) :
    (insertEntry key value entries).lookup other = if other = key then some value else entries.lookup other := by
  induction entries with
  | nil =>
    by_cases same : other = key
    · simp [insertEntry, same]
    · simp [insertEntry, List.lookup_cons, same, beq_eq_false_iff_ne.mpr same]
  | cons head rest ih =>
    obtain ⟨first, old⟩ := head
    simp only [insertEntry]
    split
    · by_cases same : other = key
      · simp [same]
      · simp [List.lookup_cons, same, beq_eq_false_iff_ne.mpr same]
    · split
      · rename_i same
        subst same
        by_cases same : other = key
        · simp [same]
        · simp [List.lookup_cons, same, beq_eq_false_iff_ne.mpr same]
      · rename_i different
        by_cases same : other = first
        · subst same
          simp [Ne.symm different]
        · simp [List.lookup_cons, beq_eq_false_iff_ne.mpr same, ih]

@[simp] theorem find?_empty (key : String) : (empty : Dict α).find? key = none := rfl

theorem find?_insert (dict : Dict α) (key : String) (value : α) (other : String) :
    (dict.insert key value).find? other = if other = key then some value else dict.find? other :=
  lookup_insertEntry key value dict.entries other

theorem lookup_eq_none_of_below {key : String} {entries : List (String × α)}
    (below : ∀ entry ∈ entries, key < entry.1) : entries.lookup key = none := by
  induction entries with
  | nil => rfl
  | cons head rest ih =>
    have different : key ≠ head.1 := fun same => String.lt_irrefl _ (same ▸ below head List.mem_cons_self)
    rw [List.lookup_cons, beq_eq_false_iff_ne.mpr different]
    exact ih fun entry member => below entry (List.mem_cons_of_mem _ member)

theorem lookup_filter (keep : String → α → Bool) {entries : List (String × α)}
    (ordered : entries.Pairwise fun left right => left.1 < right.1) (key : String) :
    (entries.filter fun entry => keep entry.1 entry.2).lookup key = (entries.lookup key).filter (keep key) := by
  induction ordered with
  | nil => rfl
  | @cons head rest below tail ih =>
    obtain ⟨first, value⟩ := head
    by_cases same : key = first
    · subst same
      have absent := lookup_eq_none_of_below below
      simp only [absent, Option.filter_none] at ih
      cases kept : keep key value <;> simp [kept, ih, Option.filter]
    · have different := beq_eq_false_iff_ne.mpr same
      cases kept : keep first value <;> simp [kept, List.lookup_cons, different, ih]

theorem find?_filter (dict : Dict α) (keep : String → α → Bool) (key : String) :
    (dict.filter keep).find? key = (dict.find? key).filter (keep key) :=
  lookup_filter keep dict.ordered key

theorem find?_erase (dict : Dict α) (key other : String) :
    (dict.erase key).find? other = if other = key then none else dict.find? other := by
  rw [erase, find?_filter]
  by_cases same : other = key <;> cases dict.find? other <;> simp [same]

theorem lookup_eq_some_iff {entries : List (String × α)}
    (ordered : entries.Pairwise fun left right => left.1 < right.1) {key : String} {value : α} :
    entries.lookup key = some value ↔ (key, value) ∈ entries := by
  induction ordered with
  | nil => simp
  | @cons head rest below tail ih =>
    obtain ⟨first, old⟩ := head
    by_cases same : key = first
    · subst same
      have absent : (key, value) ∉ rest := fun member => String.lt_irrefl key (below (key, value) member)
      simp [absent, eq_comm]
    · simp [List.lookup_cons, beq_eq_false_iff_ne.mpr same, ih, same]

theorem find?_eq_some_iff {dict : Dict α} {key : String} {value : α} :
    dict.find? key = some value ↔ (key, value) ∈ dict.entries :=
  lookup_eq_some_iff dict.ordered

theorem map_eq_self {f : α → α} {dict : Dict α} (same : ∀ entry ∈ dict.entries, f entry.2 = entry.2) :
    dict.map f = dict := by
  obtain ⟨entries, ordered⟩ := dict
  have each : ∀ entry ∈ entries, (entry.1, f entry.2) = id entry := fun entry member => Prod.ext rfl (same entry member)
  simp only [map, mk.injEq]
  rw [List.map_congr_left each, List.map_id]

theorem erase_of_absent {dict : Dict α} {key : String} (absent : dict.find? key = none) : dict.erase key = dict := by
  cases dict with
  | mk entries ordered =>
    simp only [erase, filter, mk.injEq, List.filter_eq_self, bne_iff_ne, ne_eq]
    intro entry member same
    have found := (lookup_eq_some_iff ordered).mpr member
    rw [same] at found
    rw [find?, found] at absent
    cases absent

theorem mem_keys_iff {dict : Dict α} {key : String} : key ∈ dict.keys ↔ (dict.find? key).isSome := by
  rw [Option.isSome_iff_exists]
  simp only [find?_eq_some_iff, keys, List.mem_map]
  constructor
  · rintro ⟨entry, member, rfl⟩
    exact ⟨entry.2, member⟩
  · rintro ⟨value, member⟩
    exact ⟨_, member, rfl⟩

theorem keys_nodup (dict : Dict α) : dict.keys.Nodup := by
  apply List.pairwise_map.mpr
  apply dict.ordered.imp
  intro left right below same
  rw [same] at below
  exact String.lt_irrefl _ below

theorem ext_find? {left right : Dict α} (same : ∀ key, left.find? key = right.find? key) : left = right := by
  obtain ⟨entries, ordered⟩ := left
  obtain ⟨others, otherOrdered⟩ := right
  have distinct : ∀ {list : List (String × α)}, (list.Pairwise fun left right => left.1 < right.1) → list.Nodup := by
    intro list sorted
    refine sorted.imp fun below same => ?_
    rw [same] at below
    exact String.lt_irrefl _ below
  have members : ∀ entry, entry ∈ entries ↔ entry ∈ others := by
    rintro ⟨key, value⟩
    have found : entries.lookup key = others.lookup key := same key
    rw [← lookup_eq_some_iff ordered, ← lookup_eq_some_iff otherOrdered, found]
  have permuted := (List.perm_ext_iff_of_nodup (distinct ordered) (distinct otherOrdered)).mpr members
  have equal : entries = others := by
    refine permuted.eq_of_pairwise (fun first second _ _ below above => ?_) ordered otherOrdered
    exact absurd (String.lt_trans below above) (String.lt_irrefl _)
  subst equal
  rfl

theorem find?_foldl_insert {entries : List (String × α)} (distinct : (entries.map (·.1)).Nodup) (start : Dict α)
    (key : String) (value : α) :
    (entries.foldl (fun dict entry => dict.insert entry.1 entry.2) start).find? key = some value ↔
      (key, value) ∈ entries ∨ key ∉ entries.map (·.1) ∧ start.find? key = some value := by
  induction entries generalizing start with
  | nil => simp
  | cons entry rest ih =>
    obtain ⟨first, content⟩ := entry
    rw [List.map_cons, List.nodup_cons] at distinct
    rw [List.foldl_cons, ih distinct.2, find?_insert]
    by_cases same : key = first
    · subst same
      have absent : (key, value) ∉ rest := fun member => distinct.1 (List.mem_map.mpr ⟨_, member, rfl⟩)
      simp [distinct.1, absent, eq_comm]
    · simp [same]

theorem find?_ofList {entries : List (String × α)} (distinct : (entries.map (·.1)).Nodup) (key : String)
    (value : α) : (ofList entries).find? key = some value ↔ (key, value) ∈ entries := by
  rw [ofList, find?_foldl_insert distinct]
  simp

theorem mem_ofList {entries : List (String × α)} {entry : String × α} (member : entry ∈ (ofList entries).entries) :
    entry ∈ entries := by
  have grown : ∀ (entries : List (String × α)) (start : Dict α),
      entry ∈ (entries.foldl (fun dict entry => dict.insert entry.1 entry.2) start).entries →
        entry ∈ start.entries ∨ entry ∈ entries := by
    intro entries
    induction entries with
    | nil => exact fun start held => .inl held
    | cons first rest ih =>
      intro start held
      rcases ih _ held with held | held
      · rcases mem_insertEntry held with same | held
        · exact .inr (same ▸ List.mem_cons_self)
        · exact .inl held
      · exact .inr (List.mem_cons_of_mem _ held)
  rcases grown entries empty member with held | held
  · cases held
  · exact held

theorem ofList_of_perm {dict : Dict α} {entries : List (String × α)} (permuted : entries.Perm dict.entries) :
    ofList entries = dict := by
  have distinct : (entries.map (·.1)).Nodup := (permuted.map _).nodup_iff.mpr dict.keys_nodup
  apply ext_find?
  intro key
  apply Option.ext
  intro value
  rw [find?_ofList distinct, permuted.mem_iff, find?_eq_some_iff]

end Dict

end LoginGateway
