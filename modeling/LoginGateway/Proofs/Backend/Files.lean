import LoginGateway.Backend.File
import LoginGateway.Proofs.Results
import Mathlib.Data.List.Induction

namespace LoginGateway.Files

variable {tree next : Tree} {place reached : Place} {path : Path}

@[simp] theorem entryAt?_top (tree : Tree) : entryAt? tree [] = some .directory := if_pos rfl

theorem entryAt?_below (tree : Tree) (below : place ≠ []) : entryAt? tree place = tree.lookup place := if_neg below

theorem lookup_cons_ne {here other : Place} (apart : other ≠ here) (entry : Entry) (rest : Tree) :
    List.lookup other ((here, entry) :: rest) = List.lookup other rest := by
  rw [List.lookup_cons, beq_eq_false_iff_ne.mpr apart]

theorem lookup_filter_ne (tree : Tree) (place other : Place) :
    (tree.filter (·.1 != place)).lookup other = if other = place then none else tree.lookup other := by
  induction tree with
  | nil => simp
  | cons item rest ih =>
    obtain ⟨here, entry⟩ := item
    by_cases gone : here = place
    · subst gone
      rw [List.filter_cons_of_neg (by simp), ih]
      split
      · rfl
      · rename_i apart
        rw [lookup_cons_ne apart]
    · rw [List.filter_cons_of_pos (by simpa using gone)]
      by_cases same : other = here
      · subst same
        rw [List.lookup_cons_self, List.lookup_cons_self, if_neg gone]
      · rw [lookup_cons_ne same, lookup_cons_ne same, ih]

theorem entryAt?_put (tree : Tree) (below : place ≠ []) (entry : Entry) (other : Place) :
    entryAt? (put tree place entry) other = if other = place then some entry else entryAt? tree other := by
  by_cases same : other = place
  · subst same
    rw [entryAt?_below _ below, if_pos rfl, put, List.lookup_cons_self]
  · rw [if_neg same, entryAt?, entryAt?, put, lookup_cons_ne same, lookup_filter_ne, if_neg same]

theorem entryAt?_drop (tree : Tree) (below : place ≠ []) (other : Place) :
    entryAt? (drop tree place) other = if other = place then none else entryAt? tree other := by
  by_cases same : other = place
  · subst same
    rw [entryAt?_below _ below, if_pos rfl, drop, lookup_filter_ne, if_pos rfl]
  · rw [if_neg same, entryAt?, entryAt?, drop, lookup_filter_ne, if_neg same]

theorem ne_top (other : entryAt? tree place ≠ some .directory) : place ≠ [] := by
  rintro rfl
  exact other (entryAt?_top tree)

theorem drop_put (tree : Tree) (place : Place) (entry : Entry) :
    drop (put tree place entry) place = drop tree place := by
  simp [drop, put]

theorem put_put (tree : Tree) (place : Place) (first second : Entry) :
    put (put tree place first) place second = put tree place second := by
  simp [put]

/-- Everything is in a directory. -/
def Rooted (tree : Tree) : Prop := ∀ entry ∈ tree, entryAt? tree entry.1.dropLast = some .directory

theorem Rooted.above (rooted : Rooted tree) (there : entryAt? tree place ≠ none) :
    entryAt? tree place.dropLast = some .directory := by
  by_cases top : place = []
  · subst top
    exact entryAt?_top tree
  · rw [entryAt?_below tree top] at there
    obtain ⟨entry, found⟩ := Option.ne_none_iff_exists'.mp there
    obtain ⟨before, after, parts, -⟩ := List.lookup_eq_some_iff.mp found
    exact rooted (place, entry) (by rw [parts]; exact List.mem_append_right _ List.mem_cons_self)

def Keeps (tree next : Tree) : Prop :=
  ∀ place, entryAt? tree place = some .directory → entryAt? next place = some .directory

theorem keeps_put (other : entryAt? tree place ≠ some .directory) (entry : Entry) :
    Keeps tree (put tree place entry) := by
  intro directory there
  rw [entryAt?_put tree (ne_top other), if_neg]
  · exact there
  · rintro rfl
    exact other there

theorem Rooted.put (rooted : Rooted tree) (other : entryAt? tree place ≠ some .directory)
    (above : entryAt? tree place.dropLast = some .directory) (entry : Entry) : Rooted (put tree place entry) := by
  intro item member
  rcases List.mem_cons.mp member with rfl | member
  · exact keeps_put other entry _ above
  · exact keeps_put other entry _ (rooted item (List.mem_filter.mp member).1)

theorem ne_dot_of_moves {front back : Path} {step : String} (steps : moves path = front ++ step :: back) :
    step ≠ "." := by
  have member : step ∈ moves path := by simp [steps]
  simpa using (List.mem_filter.mp member).2

theorem enter_name {name : String} (stays : name ≠ ".") (up : name ≠ "..") (place : Place) :
    enter place name = place ++ [name] := by
  rw [enter, if_neg stays, if_neg up]

theorem follow_append (tree : Tree) (place : Place) (front back : Path) :
    follow tree place (front ++ back) = (follow tree place front).bind (follow tree · back) := by
  induction front generalizing place with
  | nil => rfl
  | cons step rest ih =>
    simp only [List.cons_append, follow]
    split
    · rfl
    · rfl
    · split
      · exact ih _
      · rfl

theorem follow_concat_iff {front : Path} {step : String} :
    follow tree place (front ++ [step]) = .ok reached ↔
      ∃ parent, follow tree place front = .ok parent ∧ entryAt? tree parent = some .directory ∧ isName step = true ∧
        reached = enter parent step := by
  rw [follow_append]
  cases follow tree place front with
  | error obstacle => simp [Except.bind]
  | ok parent =>
    simp only [Except.bind, follow, Except.ok.injEq, exists_eq_left']
    cases entryAt? tree parent with
    | none => simp
    | some entry =>
      cases entry with
      | file data => simp
      | directory =>
        by_cases named : isName step = true
        · simp [named, eq_comm]
        · simp [named]

theorem follow_stay (tree : Tree) (place : Place) {path : Path} (more : path ≠ []) :
    follow tree place ("." :: path) = follow tree place path := by
  cases path with
  | nil => exact absurd rfl more
  | cons step rest =>
    have named : isName "." = true := by decide
    rw [follow]
    split
    · rename_i missing
      rw [follow, missing]
    · rename_i file
      rw [follow, file]
    · rw [if_pos named, enter, if_pos rfl]

/-- Where a path leads is where its steps that lead elsewhere do, if that is a directory in case the path ends by
staying there. -/
theorem follow_moves (tree : Tree) (place : Place) (path : Path) :
    follow tree place path = (follow tree place (moves path)).bind fun reached =>
      if path.getLast? = some "." then follow tree reached ["."] else .ok reached := by
  induction path generalizing place with
  | nil => rfl
  | cons step rest ih =>
    by_cases stays : step = "."
    · subst stays
      rw [moves, List.filter_cons_of_neg (by simp), ← moves]
      cases rest with
      | nil => rfl
      | cons next others => rw [List.getLast?_cons_cons, ← ih, follow_stay tree place (List.cons_ne_nil _ _)]
    · rw [moves, List.filter_cons_of_pos (by simpa using stays), ← moves, follow, follow]
      split
      · rfl
      · rfl
      · split
        · rw [ih]
          cases rest with
          | nil => simp [moves, follow, stays]
          | cons next others => rw [List.getLast?_cons_cons]
        · rfl

theorem follow_moves_of_ok (leads : follow tree place path = .ok reached) :
    follow tree place (moves path) = .ok reached := by
  rw [follow_moves] at leads
  cases arrives : follow tree place (moves path) with
  | error obstacle =>
    rw [arrives] at leads
    cases leads
  | ok stop =>
    rw [arrives, Except.bind] at leads
    split at leads
    · have stays : follow tree stop ([] ++ ["."]) = .ok reached := leads
      obtain ⟨parent, begins, -, -, rfl⟩ := follow_concat_iff.mp stays
      cases begins
      rfl
    · exact leads

theorem follow_of_keeps (keeps : Keeps tree next) (leads : follow tree place path = .ok reached) :
    follow next place path = .ok reached := by
  induction path generalizing place with
  | nil => exact leads
  | cons step rest ih =>
    rw [follow] at leads ⊢
    split at leads
    · cases leads
    · cases leads
    · rename_i directory
      rw [keeps place directory]
      dsimp only
      split at leads
      · rename_i named
        rw [if_pos named]
        exact ih leads
      · cases leads

theorem follow_of_locate (leads : locate tree path = .ok reached) : follow tree [] path = .ok reached := by
  rw [locate] at leads
  split at leads
  · exact leads
  · cases leads

theorem locate_of_keeps (keeps : Keeps tree next) (leads : locate tree path = .ok reached) :
    locate next path = .ok reached := by
  rw [locate] at leads ⊢
  split at leads
  · rename_i spelled
    rw [if_pos spelled]
    exact follow_of_keeps keeps leads
  · cases leads

theorem Rooted.above_reached (rooted : Rooted tree) (leads : follow tree [] path = .ok reached)
    (missing : entryAt? tree reached = none) : entryAt? tree reached.dropLast = some .directory := by
  cases path using List.reverseRecOn with
  | nil =>
    cases leads
    exact entryAt?_top tree
  | append_singleton front step =>
    obtain ⟨parent, -, directory, -, rfl⟩ := follow_concat_iff.mp leads
    by_cases stays : step = "."
    · rw [enter, if_pos stays, directory] at missing
      cases missing
    · by_cases up : step = ".."
      · rw [enter, if_neg stays, if_pos up, rooted.above (by rw [directory]; exact Option.some_ne_none _)] at missing
        cases missing
      · rw [enter_name stays up, List.dropLast_concat]
        exact directory

theorem Rooted.up (rooted : Rooted tree) {front : Path} (leads : follow tree [] (front ++ [".."]) = .ok reached) :
    entryAt? tree reached = some .directory := by
  obtain ⟨parent, -, directory, -, rfl⟩ := follow_concat_iff.mp leads
  rw [enter, if_neg (by decide), if_pos rfl]
  exact rooted.above (by rw [directory]; exact Option.some_ne_none _)

def readAt (tree : Tree) (stays : Prop) [Decidable stays] (place : Place) : Except Obstacle (Option Octets) :=
  match entryAt? tree place with
  | none => .ok none
  | some .directory => .error .isDirectory
  | some (.file data) => if stays then .error .notDirectory else .ok (some data)

theorem read_eq (tree : Tree) (path : Path) :
    read tree path =
      if isSpelled path then
        match follow tree [] (moves path) with
        | .error .missing => .ok none
        | .error obstacle => .error obstacle
        | .ok place => readAt tree (path.getLast? = some ".") place
      else .error .badName := by
  by_cases spelled : isSpelled path = true
  · rw [read, locate, if_pos spelled, if_pos spelled, follow_moves]
    cases follow tree [] (moves path) with
    | error obstacle => cases obstacle <;> rfl
    | ok place =>
      have named : isName "." = true := by decide
      simp only [Except.bind, readAt]
      by_cases stays : path.getLast? = some "."
      · rw [if_pos stays, follow]
        cases there : entryAt? tree place with
        | none => rfl
        | some entry => cases entry <;> simp [named, enter, follow, there, stays]
      · simp only [if_neg stays]
        cases entryAt? tree place with
        | none => rfl
        | some entry => cases entry <;> rfl
  · rw [read, locate, if_neg spelled, if_neg spelled]

theorem read_congr (same : follow next [] (moves path) = follow tree [] (moves path))
    (entries : ∀ place, follow tree [] (moves path) = .ok place → entryAt? next place = entryAt? tree place) :
    read next path = read tree path := by
  rw [read_eq, read_eq, same]
  cases leads : follow tree [] (moves path) with
  | error obstacle => cases obstacle <;> rfl
  | ok place => simp only [readAt, entries place leads]

theorem read_missing (spelled : isSpelled path = true) (missing : follow tree [] (moves path) = .error .missing) :
    read tree path = .ok none := by
  rw [read_eq, if_pos spelled, missing]

theorem read_empty (spelled : isSpelled path = true) (leads : follow tree [] (moves path) = .ok place)
    (empty : entryAt? tree place = none) : read tree path = .ok none := by
  simp only [read_eq, if_pos spelled, leads, readAt, empty]

theorem of_read {data : Octets} (found : read tree path = .ok (some data)) :
    ∃ place, locate tree path = .ok place ∧ entryAt? tree place = some (.file data) := by
  rw [read] at found
  cases leads : locate tree path with
  | error obstacle => cases obstacle <;> simp [leads] at found
  | ok place =>
    rw [leads] at found
    cases there : entryAt? tree place with
    | none => simp [there] at found
    | some entry => cases entry <;> simp_all

theorem makeDirectory_done (done : perform tree (.makeDirectory path) = .ok next) :
    ∃ place, locate tree path = .ok place ∧
      (entryAt? tree place = some .directory ∧ next = tree ∨
        entryAt? tree place = none ∧ next = put tree place .directory) := by
  obtain ⟨place, leads, done⟩ := of_bind_ok done
  refine ⟨place, leads, ?_⟩
  split at done
  · rename_i directory
    exact .inl ⟨directory, (Except.ok.inj done).symm⟩
  · cases done
  · rename_i missing
    exact .inr ⟨missing, (Except.ok.inj done).symm⟩

theorem create_done (done : perform tree (.create path) = .ok next) :
    ∃ place, locate tree path = .ok place ∧ entryAt? tree place ≠ some .directory ∧
      next = put tree place (.file []) := by
  obtain ⟨place, leads, done⟩ := of_bind_ok done
  refine ⟨place, leads, ?_⟩
  split at done
  · cases done
  · rename_i other
    exact ⟨other, (Except.ok.inj done).symm⟩

theorem append_done {data : Octets} (done : perform tree (.append path data) = .ok next) :
    ∃ place written, locate tree path = .ok place ∧ entryAt? tree place = some (.file written) ∧
      next = put tree place (.file (written ++ data)) := by
  obtain ⟨place, leads, done⟩ := of_bind_ok done
  split at done
  · rename_i written there
    exact ⟨place, written, leads, there, (Except.ok.inj done).symm⟩
  · cases done
  · cases done

theorem sync_done (done : perform tree (.sync path) = .ok next) : next = tree := by
  obtain ⟨place, leads, done⟩ := of_bind_ok done
  split at done
  · exact (Except.ok.inj done).symm
  · cases done

theorem rename_done {source target : Path} (done : perform tree (.rename source target) = .ok next) :
    ∃ old new data, locate tree source = .ok old ∧ locate tree target = .ok new ∧
      entryAt? tree old = some (.file data) ∧ entryAt? tree new ≠ some .directory ∧
      next = put (drop tree old) new (.file data) := by
  obtain ⟨old, leadsOld, done⟩ := of_bind_ok done
  obtain ⟨new, leadsNew, done⟩ := of_bind_ok done
  split at done
  · cases done
  · rename_i data there other
    exact ⟨old, new, data, leadsOld, leadsNew, there, other, (Except.ok.inj done).symm⟩
  · cases done
  · cases done

/-- What operations in order may leave when they are stopped at some point: before an operation or when all are done,
or when a part of some data has been appended. An operation that fails stops them. -/
inductive Halted : Tree → List Operation → Tree → Prop
  | here (tree : Tree) (operations : List Operation) : Halted tree operations tree
  | within {tree next : Tree} {path : Path} {part : Octets} (rest : Octets) (operations : List Operation)
      (done : perform tree (.append path part) = .ok next) :
      Halted tree (.append path (part ++ rest) :: operations) next
  | after {tree next left : Tree} {operation : Operation} {operations : List Operation}
      (done : perform tree operation = .ok next) (halted : Halted next operations left) :
      Halted tree (operation :: operations) left

theorem performAll_halted (tree : Tree) (operations : List Operation) :
    Halted tree operations (performAll tree operations).2 := by
  induction operations generalizing tree with
  | nil => exact .here tree []
  | cons operation operations ih =>
    rw [performAll]
    split
    · rename_i next done
      exact .after done (ih next)
    · exact .here tree _

theorem Halted.append {front back : List Operation} {left : Tree} (halted : Halted tree (front ++ back) left) :
    ∃ made, Halted tree front made ∧
      (left = made ∨ performAll tree front = (.ok (), made) ∧ Halted made back left) := by
  induction front generalizing tree with
  | nil => exact ⟨tree, .here tree [], .inr ⟨rfl, halted⟩⟩
  | cons operation front ih =>
    rw [List.cons_append] at halted
    cases halted with
    | here => exact ⟨_, .here _ _, .inl rfl⟩
    | within rest _ done => exact ⟨left, .within rest front done, .inl rfl⟩
    | after done halted =>
      obtain ⟨made, first, second⟩ := ih halted
      refine ⟨made, .after done first, ?_⟩
      rw [performAll, done]
      exact second

theorem performAll_append {front back : List Operation} {left : Tree}
    (done : performAll tree (front ++ back) = (.ok (), left)) :
    ∃ made, performAll tree front = (.ok (), made) ∧ performAll made back = (.ok (), left) := by
  induction front generalizing tree with
  | nil => exact ⟨tree, rfl, done⟩
  | cons operation front ih =>
    rw [List.cons_append, performAll] at done
    rw [performAll]
    split at done
    · rename_i next first
      exact ih done
    · cases done

theorem performAll_cons {operation : Operation} {operations : List Operation} {left : Tree}
    (done : performAll tree (operation :: operations) = (.ok (), left)) :
    ∃ made, perform tree operation = .ok made ∧ performAll made operations = (.ok (), left) := by
  rw [performAll] at done
  split at done
  · rename_i next first
    exact ⟨next, first, done⟩
  · cases done

end LoginGateway.Files
