namespace LoginGateway.Text

def split {α : Type} (isSeparator : α → Bool) (items : List α) : List (List α) :=
  items.foldr (fun item pieces =>
    if isSeparator item then [] :: pieces
    else match pieces with
      | [] => [[item]]
      | piece :: others => (item :: piece) :: others) [[]]

def cut {α : Type} (isSeparator : α → Bool) (items : List α) : List α × Option (List α) :=
  match items.dropWhile (fun item => !isSeparator item) with
  | [] => (items, none)
  | _ :: rest => (items.takeWhile (fun item => !isSeparator item), some rest)

def cutLast {α : Type} (isSeparator : α → Bool) (items : List α) : List α × Option (List α) :=
  let (last, before) := cut isSeparator items.reverse
  (last.reverse, before.map List.reverse)

def strip {α : Type} (drops : α → Bool) (items : List α) : List α :=
  ((items.dropWhile drops).reverse.dropWhile drops).reverse

def stripEnd {α : Type} (drops : α → Bool) (items : List α) : List α :=
  (items.reverse.dropWhile drops).reverse

theorem split_ne_nil {α : Type} (isSeparator : α → Bool) (items : List α) : split isSeparator items ≠ [] := by
  cases items with
  | nil => simp [split]
  | cons item rest =>
    simp only [split, List.foldr_cons]
    split
    · simp
    · split <;> simp

theorem cut_append {α : Type} {isSeparator : α → Bool} {before after : List α} {separator : α}
    (none : ∀ item ∈ before, isSeparator item = false) (separates : isSeparator separator = true) :
    cut isSeparator (before ++ separator :: after) = (before, some after) := by
  have passed : ∀ item ∈ before, (!isSeparator item) = true := fun item member => by simp [none item member]
  have dropped : (before ++ separator :: after).dropWhile (fun item => !isSeparator item) = separator :: after := by
    rw [List.dropWhile_append_of_pos passed, List.dropWhile_cons, separates]
    rfl
  have taken : (before ++ separator :: after).takeWhile (fun item => !isSeparator item) = before := by
    rw [List.takeWhile_append_of_pos passed, List.takeWhile_cons, separates]
    exact List.append_nil _
  simp only [cut, dropped, taken]

theorem cutLast_append {α : Type} {isSeparator : α → Bool} {before after : List α} {separator : α}
    (none : ∀ item ∈ after, isSeparator item = false) (separates : isSeparator separator = true) :
    cutLast isSeparator (before ++ separator :: after) = (after, some before) := by
  have reversed : (before ++ separator :: after).reverse = after.reverse ++ separator :: before.reverse := by simp
  have cutAt : cut isSeparator (after.reverse ++ separator :: before.reverse) =
      (after.reverse, some before.reverse) :=
    cut_append (fun item member => none item (List.mem_reverse.mp member)) separates
  simp only [cutLast, reversed, cutAt]
  simp

end LoginGateway.Text
