import LoginGateway.Proofs.Store.SavedState
import LoginGateway.Store.Persisted

namespace LoginGateway

open Json

namespace Json

theorem length_joined (pieces : List Octets) :
    (joined pieces).length = (pieces.map (·.length + 1)).sum - 1 := by
  cases pieces with
  | nil => rfl
  | cons piece pieces =>
    have rest : (pieces.flatMap (0x2C :: ·)).length = (pieces.map (·.length + 1)).sum := by
      simp [List.length_flatMap]
    rw [joined, List.length_append, rest, List.map_cons, List.sum_cons]
    omega

/-- Neither the order of the members counts for the length nor what is in them, but for their own length. -/
theorem length_object (members : List (String × Octets)) :
    (object members).length =
      (members.map fun member => (quote member.1).length + member.2.length + 2).sum - 1 + 2 := by
  have pieces : (members.map fun member => (quote member.1 ++ 0x3A :: member.2).length + 1) =
      members.map fun member => (quote member.1).length + member.2.length + 2 := by
    apply List.map_congr_left
    intro member _
    rw [List.length_append, List.length_cons]
    omega
  have length := length_joined (members.map fun member => quote member.1 ++ 0x3A :: member.2)
  rw [List.map_map] at length
  rw [object, List.length_cons, List.length_append, List.length_singleton]
  show (joined (members.map fun member => quote member.1 ++ 0x3A :: member.2)).length + 1 + 1 = _
  rw [length]
  show (members.map fun member => (quote member.1 ++ 0x3A :: member.2).length + 1).sum - 1 + 1 + 1 = _
  rw [pieces]

theorem length_object_perm {members others : List (String × Octets)} (permuted : members.Perm others) :
    (object members).length = (object others).length := by
  rw [length_object, length_object, (permuted.map _).sum_nat]

end Json

namespace Snapshot

def mapText {α : Type} (text : α → Octets) (entries : List (String × α)) : Octets :=
  Json.object (entries.map fun entry => (entry.1, text entry.2))

def listedText (names tokens : List (String × String)) (users : List (String × Credential)) : Octets :=
  Json.object [("names", mapText quote names), ("tokens", mapText quote tokens),
    ("users", mapText Credential.json users)]

/-- The texts that a state can have: each map with its entries in some order. -/
inductive Text (snapshot : Snapshot) : Octets → Prop
  | listed {names tokens : List (String × String)} {users : List (String × Credential)}
      (named : names.Perm snapshot.index.names.entries) (held : tokens.Perm snapshot.index.tokens.entries)
      (known : users.Perm snapshot.users.entries) : Text snapshot (listedText names tokens users)

theorem text_json (snapshot : Snapshot) : snapshot.Text snapshot.json := .listed (.refl _) (.refl _) (.refl _)

theorem length_mapText {α : Type} (text : α → Octets) {entries others : List (String × α)}
    (permuted : entries.Perm others) : (mapText text entries).length = (mapText text others).length :=
  length_object_perm (permuted.map _)

theorem Text.length_eq {snapshot : Snapshot} {data : Octets} (written : snapshot.Text data) :
    data.length = snapshot.json.length := by
  obtain ⟨named, held, known⟩ := written
  show (listedText _ _ _).length = (listedText _ _ _).length
  simp only [listedText, length_object, List.map_cons, List.map_nil, length_mapText quote named,
    length_mapText quote held, length_mapText Credential.json known]

def mapTree {α : Type} (node : α → Node) (entries : List (String × α)) : Node :=
  .object (entries.map fun entry => memberNode entry.1 (node entry.2)) true

theorem text_listedText (names tokens : List (String × String)) (users : List (String × Credential)) :
    (Node.object [memberNode "names" (mapTree textNode names), memberNode "tokens" (mapTree textNode tokens),
      memberNode "users" (mapTree Credential.node users)] true).Text (listedText names tokens users) :=
  text_object
    (.cons ((TokenIndex.text_entries text_quote names).member _)
      (.cons ((TokenIndex.text_entries text_quote tokens).member _)
        (.cons ((TokenIndex.text_entries Credential.written users).member _) .nil)))

theorem Text.rendered {snapshot : Snapshot} {data : Octets} (written : snapshot.Text data) :
    snapshot.Rendered data := by
  obtain ⟨named, held, known⟩ := written
  have form := Form.object (.present (Dict.form_entries named fun _ _ => rfl))
    (.present (Dict.form_entries held fun _ _ => rfl))
    (.present (Dict.form_entries known fun entry _ => entry.2.form_node)) (arranged_self _ _)
  exact ⟨_, form, text_listedText _ _ _⟩

/-- Whatever the order of the entries, what is read back is the state, but for a leap second within a minute, which
comes back as the second after it; so a state is read back as it was just if its leap seconds end minutes, and every
state that was read before is. All texts of a state have one length, so that being too large to be saved is a matter of
the state. -/
theorem saved_state_round_trip (snapshot : Snapshot) :
    snapshot.Text snapshot.json ∧
    ∀ data, snapshot.Text data →
      (snapshot.Valid → Snapshot.ofJson? data = some snapshot.asWritten) ∧
      (Snapshot.ofJson? data = some snapshot ↔ snapshot.Valid ∧ snapshot.OnMinute) ∧
      (∀ source, Snapshot.ofJson? source = some snapshot → Snapshot.ofJson? data = some snapshot) ∧
      data.length = snapshot.json.length ∧
      (PersistedStore.oversized snapshot = true ↔ sizeLimit < data.length) := by
  refine ⟨snapshot.text_json, fun data written => ⟨written.rendered.ofJson?, ⟨ofJson?_valid, ?_⟩, ?_,
    written.length_eq, ?_⟩⟩
  · rintro ⟨valid, whole⟩
    exact written.rendered.ofJson?_self valid whole
  · intro source read
    obtain ⟨valid, whole⟩ := ofJson?_valid read
    exact written.rendered.ofJson?_self valid whole
  · rw [PersistedStore.oversized, decide_eq_true_eq, written.length_eq]

def withinMinute : Snapshot where
  index := .empty
  users := .ofList [("alice", ⟨"a", "", none, some ⟨1700000010, 1500000000⟩⟩)]

/-- What is saved of it says half a second past the eleventh, and that is how it is read back. -/
theorem leap_second_moved :
    withinMinute.Valid ∧ Snapshot.ofJson? withinMinute.json ≠ some withinMinute ∧
      Snapshot.ofJson? withinMinute.json =
        some ⟨.empty, .ofList [("alice", ⟨"a", "", none, some ⟨1700000011, 500000000⟩⟩)]⟩ := by
  have valid : withinMinute.Valid := by decide
  have moved : withinMinute.asWritten = ⟨.empty, .ofList [("alice", ⟨"a", "", none, some ⟨1700000011, 500000000⟩⟩)]⟩ :=
    by decide
  refine ⟨valid, ?_, moved ▸ ofJson?_json valid⟩
  rw [ofJson?_json valid, moved]
  decide

def unusual : Snapshot where
  index := ⟨.ofList [("laptop", "t1"), ("\"\n", "t2")], .ofList [("t1", "alice"), ("t2", "Zoë")]⟩
  users := .ofList [("alice", ⟨"access", "", some "", some ⟨1483228799, 1500000000⟩⟩),
    ("Zoë", ⟨"", "Bearer", none, some ⟨-99999999999, 1⟩⟩)]

theorem saved_state_round_trip_reversed :
    unusual.index.names.entries.reverse ≠ unusual.index.names.entries ∧
    Snapshot.ofJson? (listedText unusual.index.names.entries.reverse unusual.index.tokens.entries.reverse
      unusual.users.entries.reverse) = some unusual := by
  have written : unusual.Text (listedText unusual.index.names.entries.reverse unusual.index.tokens.entries.reverse
      unusual.users.entries.reverse) :=
    .listed (List.reverse_perm _) (List.reverse_perm _) (List.reverse_perm _)
  exact ⟨by decide, ((saved_state_round_trip unusual).2 _ written).2.1.mpr (by decide)⟩

end Snapshot

end LoginGateway
