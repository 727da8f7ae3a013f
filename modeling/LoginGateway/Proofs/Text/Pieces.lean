import LoginGateway.Proofs.Text.Octets
import LoginGateway.Text.Blank
import Mathlib.Data.List.DropRight

namespace LoginGateway.Text

variable {α : Type} {drops isSeparator : α → Bool}

theorem encode_append (front back : String) : encode (front ++ back) = encode front ++ encode back := by
  simp [encode]

theorem beq_of_not_mem [BEq α] [LawfulBEq α] {separator : α} {items : List α} (absent : separator ∉ items) :
    ∀ item ∈ items, (item == separator) = false := by
  intro item member
  rw [beq_eq_false_iff_ne]
  rintro rfl
  exact absent member

theorem bne_of_not_mem [BEq α] [LawfulBEq α] {separator : α} {items : List α} (absent : separator ∉ items) :
    ∀ item ∈ items, (item != separator) = true :=
  fun item member => by rw [bne, beq_of_not_mem absent item member]; rfl

theorem takeWhile_of_not_mem [BEq α] [LawfulBEq α] {separator : α} {items : List α} (absent : separator ∉ items) :
    items.takeWhile (· != separator) = items :=
  List.takeWhile_eq_self_iff.mpr (bne_of_not_mem absent)

theorem takeWhile_append_stop {p : α → Bool} {stop : α} (stops : p stop = false) (front back : List α) :
    (front ++ stop :: back).takeWhile p = front.takeWhile p := by
  rw [List.takeWhile_append]
  split
  · rename_i all
    rw [List.takeWhile_cons, stops, if_neg Bool.false_ne_true, List.append_nil,
      (List.takeWhile_prefix p).eq_of_length all]
  · rfl

theorem dropWhile_append_stop {p : α → Bool} {stop : α} (stops : p stop = false) (front back : List α) :
    (front ++ stop :: back).dropWhile p = front.dropWhile p ++ stop :: back := by
  rw [List.dropWhile_append]
  split
  · rename_i none
    rw [List.isEmpty_iff.mp none, List.dropWhile_cons, stops, if_neg Bool.false_ne_true, List.nil_append]
  · rfl

theorem strip_eq (drops : α → Bool) (items : List α) :
    strip drops items = (items.dropWhile drops).rdropWhile drops := rfl

theorem dropWhile_of_head {items : List α} (kept : ∀ item ∈ items.head?, drops item = false) :
    items.dropWhile drops = items := by
  cases items with
  | nil => rfl
  | cons item rest =>
    rw [List.dropWhile_cons, kept item rfl]
    rfl

theorem dropWhile_of_kept {items : List α} (kept : ∀ item ∈ items, drops item = false) :
    items.dropWhile drops = items :=
  dropWhile_of_head fun item first => kept item (List.mem_of_mem_head? first)

theorem stripEnd_of_last {items : List α} (kept : ∀ item ∈ items.getLast?, drops item = false) :
    stripEnd drops items = items := by
  have back : ∀ item ∈ items.reverse.head?, drops item = false := by
    rw [List.head?_reverse]
    exact kept
  rw [stripEnd, dropWhile_of_head back, List.reverse_reverse]

theorem stripEnd_of_kept {items : List α} (kept : ∀ item ∈ items, drops item = false) :
    stripEnd drops items = items :=
  stripEnd_of_last fun item last => kept item (List.mem_of_getLast? last)

theorem strip_of_kept {items : List α} (kept : ∀ item ∈ items, drops item = false) : strip drops items = items := by
  rw [strip, dropWhile_of_kept kept]
  exact stripEnd_of_kept kept

theorem strip_cons {item : α} (dropped : drops item = true) (items : List α) :
    strip drops (item :: items) = strip drops items := by
  rw [strip, List.dropWhile_cons, if_pos dropped, strip]

theorem strip_append_cons {front : List α} {item : α} (kept : ∀ item ∈ front, drops item = false)
    (stays : drops item = false) (back : List α) :
    strip drops (front ++ item :: back) = front ++ item :: stripEnd drops back := by
  have begins : (front ++ item :: back).dropWhile drops = front ++ item :: back := by
    cases front with
    | nil => rw [List.nil_append, List.dropWhile_cons, stays]; rfl
    | cons first rest => rw [List.cons_append, List.dropWhile_cons, kept first List.mem_cons_self]; rfl
  have ends : (front ++ item :: back).reverse.dropWhile drops =
      back.reverse.dropWhile drops ++ item :: front.reverse := by
    rw [List.reverse_append, List.reverse_cons, List.append_assoc, List.dropWhile_append]
    split
    · rename_i dropped
      rw [List.isEmpty_iff.mp dropped, List.singleton_append, List.dropWhile_cons, stays]
      rfl
    · rfl
  rw [strip, begins, ends, stripEnd]
  simp

theorem stripEnd_append {back : List α} (dropped : ∀ item ∈ back, drops item = true) (front : List α) :
    stripEnd drops (front ++ back) = stripEnd drops front := by
  have all : ∀ item ∈ back.reverse, drops item = true := fun item member => dropped item (List.mem_reverse.mp member)
  rw [stripEnd, List.reverse_append, List.dropWhile_append_of_pos all, stripEnd]

theorem stripEnd_append_kept {back : List α} (nonempty : back ≠ []) (kept : ∀ item ∈ back, drops item = false)
    (front : List α) : stripEnd drops (front ++ back) = front ++ back := by
  obtain ⟨middle, last, rfl⟩ := (List.eq_nil_or_concat' back).resolve_left nonempty
  have stays : ¬drops last = true := by
    rw [kept last (by simp)]
    exact Bool.false_ne_true
  rw [← List.append_assoc]
  exact List.rdropWhile_concat_neg _ _ _ stays

def Bare (drops : α → Bool) (items : List α) : Prop :=
  (∀ item ∈ items.head?, drops item = false) ∧ ∀ item ∈ items.getLast?, drops item = false

theorem strip_of_bare {items : List α} (bare : Bare drops items) : strip drops items = items := by
  rw [strip, dropWhile_of_head bare.1]
  exact stripEnd_of_last bare.2

theorem head_dropWhile (drops : α → Bool) (items : List α) :
    ∀ item ∈ (items.dropWhile drops).head?, drops item = false := by
  intro item first
  have stays := List.head?_dropWhile_not drops items
  rw [Option.mem_def.mp first] at stays
  simpa using stays

theorem bare_strip (drops : α → Bool) (items : List α) : Bare drops (strip drops items) := by
  refine ⟨?_, ?_⟩
  · rw [strip_eq]
    obtain ⟨tail, whole⟩ := List.rdropWhile_prefix drops (l := items.dropWhile drops)
    cases shorter : (items.dropWhile drops).rdropWhile drops with
    | nil => simp
    | cons item others =>
      rw [shorter, List.cons_append] at whole
      have first := head_dropWhile drops items
      rw [← whole] at first
      exact first
  · rw [strip, List.getLast?_reverse]
    exact head_dropWhile drops _

theorem strip_append {front back : List α} (before : ∀ item ∈ front, drops item = true)
    (after : ∀ item ∈ back, drops item = true) (items : List α) :
    strip drops (front ++ items ++ back) = strip drops items := by
  rw [strip_eq, strip_eq, List.append_assoc, List.dropWhile_append_of_pos before, List.dropWhile_append]
  split
  · rename_i empty
    rw [List.dropWhile_eq_nil_iff.mpr after, List.isEmpty_iff.mp empty]
  · exact stripEnd_append after _

theorem exists_strip (drops : α → Bool) (items : List α) :
    ∃ front back, items = front ++ strip drops items ++ back ∧ (∀ item ∈ front, drops item = true) ∧
      ∀ item ∈ back, drops item = true := by
  refine ⟨items.takeWhile drops, (items.dropWhile drops).rtakeWhile drops, ?_, fun item => List.mem_takeWhile_imp,
    fun item => List.mem_rtakeWhile_imp⟩
  rw [strip_eq, List.append_assoc, List.rdropWhile_append_rtakeWhile, List.takeWhile_append_dropWhile]

theorem stripEnd_encode {c : Char} (ascii : c.val < 0x80) (text : String) :
    stripEnd (· == octetOf c) (encode text) = encode (String.ofList (stripEnd (· == c) text.toList)) := by
  rw [encode_ofList, encode_eq]
  -- The characters go from the last one to the first, as they are stripped.
  induction text.toList using List.reverseRecOn with
  | nil => rfl
  | append_singleton front last ih =>
    rw [List.flatMap_append, List.flatMap_singleton]
    by_cases same : last = c
    · subst same
      rw [utf8EncodeChar_of_ascii ascii, stripEnd_append (by simp), stripEnd_append (by simp), ih]
    · have kept : ∀ octet ∈ String.utf8EncodeChar last, (octet == octetOf c) = false := by
        apply beq_of_not_mem
        intro member
        have written : octetOf c ∈ encode (String.ofList [last]) := by
          rw [encode_ofList, List.flatMap_singleton]
          exact member
        rw [octetOf_mem_encode_iff ascii, String.toList_ofList, List.mem_singleton] at written
        exact same written.symm
      have stays : ∀ item ∈ [last], (item == c) = false := by simp [same]
      rw [stripEnd_append_kept String.utf8EncodeChar_ne_nil kept, stripEnd_append_kept (List.cons_ne_nil _ _) stays,
        List.flatMap_append, List.flatMap_singleton]

theorem strip_ne_nil {items : List α} {item : α} (member : item ∈ items) (kept : drops item = false) :
    strip drops items ≠ [] := by
  intro nothing
  rw [strip_eq, List.rdropWhile_eq_nil_iff] at nothing
  cases dropped : items.dropWhile drops with
  | nil =>
    have all := List.dropWhile_eq_nil_iff.mp dropped item member
    rw [kept] at all
    cases all
  | cons first rest =>
    have stays := List.head_dropWhile_not drops (by rw [dropped]; exact List.cons_ne_nil _ _)
    have goes := nothing first (by rw [dropped]; exact List.mem_cons_self)
    simp only [dropped, List.head_cons] at stays
    rw [stays] at goes
    cases goes

theorem strip_strip (drops : α → Bool) (items : List α) : strip drops (strip drops items) = strip drops items :=
  strip_of_bare (bare_strip drops items)

theorem trim_of_mem {text : String} {c : Char} (member : c ∈ text.toList) (there : isBlank c = false) :
    (trim text).isEmpty = false := by
  rw [String.isEmpty_eq_false_iff, trim]
  intro blank
  have nothing := congrArg String.toList blank
  rw [String.toList_ofList] at nothing
  exact strip_ne_nil member there nothing

theorem trim_trim (text : String) : trim (trim text) = trim text := by
  rw [trim, trim, String.toList_ofList, strip_strip]

theorem split_eq (isSeparator : α → Bool) (items : List α) : split isSeparator items = items.splitOnP isSeparator := by
  induction items with
  | nil => rfl
  | cons item rest ih =>
    rw [List.splitOnP_cons_eq_if_modifyHead, ← ih, split, List.foldr_cons]
    change (if isSeparator item then [] :: split isSeparator rest else _) = _
    split
    · rfl
    · split <;> rename_i pieces
      · exact absurd pieces (split_ne_nil isSeparator rest)
      · rw [split, pieces]
        rfl

theorem split_append_cons {separator : α} (separates : isSeparator separator = true) (front back : List α) :
    split isSeparator (front ++ separator :: back) = split isSeparator front ++ split isSeparator back := by
  simp only [split_eq]
  exact List.splitOnP_append_cons front back separates

theorem split_whole {items : List α} (whole : ∀ item ∈ items, isSeparator item = false) :
    split isSeparator items = [items] := by
  rw [split_eq]
  exact List.splitOnP_eq_singleton whole

theorem split_intercalate [BEq α] [LawfulBEq α] {separator : α} {pieces : List (List α)} (some : pieces ≠ [])
    (single : ∀ piece ∈ pieces, separator ∉ piece) :
    split (· == separator) ([separator].intercalate pieces) = pieces := by
  rw [split_eq, ← List.splitOn_eq_splitOnP]
  exact List.splitOn_intercalate separator single some

theorem split_last [DecidableEq α] {separator : α} {items : List α} (member : separator ∈ items) :
    ∃ front back, items = front ++ separator :: back ∧ separator ∉ back := by
  obtain ⟨back, front, same, absent⟩ := List.eq_append_cons_of_mem (List.mem_reverse.mpr member)
  refine ⟨front.reverse, back.reverse, ?_, fun held => absent (List.mem_reverse.mp held)⟩
  rw [← List.reverse_reverse items, same]
  simp

theorem cut_whole {items : List α} (whole : ∀ item ∈ items, isSeparator item = false) :
    cut isSeparator items = (items, none) := by
  have passed : items.dropWhile (fun item => !isSeparator item) = [] := by
    rw [List.dropWhile_eq_nil_iff]
    exact fun item member => by rw [whole item member]; rfl
  rw [cut, passed]

theorem of_cut {items before after : List α}
    (cuts : cut isSeparator items = (before, some after)) :
    ∃ separator, items = before ++ separator :: after ∧ isSeparator separator = true ∧
      ∀ item ∈ before, isSeparator item = false := by
  rw [cut] at cuts
  split at cuts
  · cases cuts
  · rename_i separator rest passed
    cases cuts
    refine ⟨separator, ?_, ?_, ?_⟩
    · rw [← passed, List.takeWhile_append_dropWhile]
    · have stays := head_dropWhile (fun item => !isSeparator item) items separator (by rw [passed]; rfl)
      simpa using stays
    · intro item member
      simpa using List.mem_takeWhile_imp member

theorem cutLast_whole {items : List α} (whole : ∀ item ∈ items, isSeparator item = false) :
    cutLast isSeparator items = (items, none) := by
  have reversed : ∀ item ∈ items.reverse, isSeparator item = false :=
    fun item member => whole item (List.mem_reverse.mp member)
  simp only [cutLast, cut_whole reversed, List.reverse_reverse, Option.map_none]

end LoginGateway.Text
