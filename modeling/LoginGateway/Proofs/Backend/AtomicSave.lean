import LoginGateway.Proofs.Backend.Files

namespace LoginGateway

namespace Files

variable {tree next made left : Tree} {path front : Path} {data : Octets}

/-- From directories that are not there yet, the path goes down only, by names that a directory can have. -/
def Downward (tree : Tree) (path : Path) : Prop :=
  ∀ front step back, moves path = front ++ step :: back →
    (step ≠ ".." ∧ isName step = true) ∨ ∃ place, locate tree front = .ok place ∧ entryAt? tree place = some .directory

def SameFiles (tree next : Tree) : Prop :=
  ∀ place data, entryAt? next place = some (.file data) ↔ entryAt? tree place = some (.file data)

theorem makeDirectory_keeps (done : perform tree (.makeDirectory front) = .ok next) :
    Keeps tree next ∧ SameFiles tree next := by
  obtain ⟨place, -, ⟨-, rfl⟩ | ⟨missing, rfl⟩⟩ := makeDirectory_done done
  · exact ⟨fun _ there => there, fun _ _ => Iff.rfl⟩
  · have other : entryAt? tree place ≠ some .directory := by simp [missing]
    refine ⟨keeps_put other _, fun file data => ?_⟩
    rw [entryAt?_put tree (ne_top other)]
    split
    · rename_i same
      subst same
      simp [missing]
    · rfl

theorem Downward.of_keeps (downward : Downward tree path) (keeps : Keeps tree next) : Downward next path := by
  intro front step back steps
  rcases downward front step back steps with legal | ⟨place, leads, directory⟩
  · exact .inl legal
  · exact .inr ⟨place, locate_of_keeps keeps leads, keeps place directory⟩

theorem Rooted.makeDirectory (rooted : Rooted tree) (done : perform tree (.makeDirectory front) = .ok next) :
    Rooted next := by
  obtain ⟨place, leads, ⟨-, rfl⟩ | ⟨missing, rfl⟩⟩ := makeDirectory_done done
  · exact rooted
  · exact rooted.put (by simp [missing]) (rooted.above_reached (follow_of_locate leads) missing) _

theorem read_makeDirectory (rooted : Rooted tree) (downward : Downward tree path) {step : String} {back : Path}
    (steps : moves path = front ++ step :: back) (done : perform tree (.makeDirectory front) = .ok next) :
    read next path = read tree path := by
  have keeps := (makeDirectory_keeps done).1
  obtain ⟨place, leads, ⟨-, rfl⟩ | ⟨missing, rfl⟩⟩ := makeDirectory_done done
  · rfl
  · have other : entryAt? tree place ≠ some .directory := by simp [missing]
    by_cases spelled : isSpelled path = true
    · have before : follow tree [] (moves path) = .error .missing := by
        rw [steps, follow_append, follow_of_locate leads, Except.bind, follow, missing]
      have stays := ne_dot_of_moves steps
      obtain ⟨up, named⟩ : step ≠ ".." ∧ isName step = true := by
        rcases downward front step back steps with legal | ⟨_, same, directory⟩
        · exact legal
        · rw [leads] at same
          cases same
          exact absurd directory other
      -- Once the directory is made, the path ends one step further on, where nothing can be that was in no directory.
      have below : entryAt? (put tree place .directory) (place ++ [step]) = none := by
        rw [entryAt?_put tree (ne_top other), if_neg (by simp)]
        by_contra there
        have above := rooted.above there
        rw [List.dropLast_concat] at above
        exact other above
      have after : follow (put tree place .directory) [] (moves path) =
          follow (put tree place .directory) (place ++ [step]) back := by
        have here : entryAt? (put tree place .directory) place = some .directory := by
          rw [entryAt?_put tree (ne_top other), if_pos rfl]
        rw [steps, follow_append, follow_of_keeps keeps (follow_of_locate leads), Except.bind, follow, here]
        dsimp only
        rw [if_pos named, enter_name stays up]
      rw [read_missing spelled before]
      cases back with
      | nil => exact read_empty spelled after below
      | cons _ _ => exact read_missing spelled (by rw [after, follow, below])
    · rw [read_eq, read_eq, if_neg spelled, if_neg spelled]

structure Prepared (path : Path) (tree made : Tree) : Prop where
  rooted : Rooted made
  keeps : Keeps tree made
  files : SameFiles tree made
  read : Downward tree path → read made path = read tree path

theorem Halted.prepared {fronts : List Path} (onWay : ∀ front ∈ fronts, ∃ step back, moves path = front ++ step :: back)
    (rooted : Rooted tree) (halted : Halted tree (fronts.map .makeDirectory) made) : Prepared path tree made := by
  induction fronts generalizing tree with
  | nil =>
    cases halted
    exact ⟨rooted, fun _ there => there, fun _ _ => Iff.rfl, fun _ => rfl⟩
  | cons front fronts ih =>
    obtain ⟨⟨step, back, steps⟩, onWay⟩ := List.forall_mem_cons.mp onWay
    cases halted with
    | here => exact ⟨rooted, fun _ there => there, fun _ _ => Iff.rfl, fun _ => rfl⟩
    | after done halted =>
      have ⟨keeps, files⟩ := makeDirectory_keeps done
      have rest := ih onWay (rooted.makeDirectory done) halted
      exact ⟨rest.rooted, fun place there => rest.keeps place (keeps place there),
        fun place data => (rest.files place data).trans (files place data),
        fun downward => (rest.read (downward.of_keeps keeps)).trans (read_makeDirectory rooted downward steps done)⟩

theorem mem_ancestors {steps : Path} (member : front ∈ ancestors steps) :
    ∃ step back, steps = front ++ step :: back := by
  obtain ⟨depth, within, rfl⟩ := List.mem_map.mp member
  have shorter := List.mem_range.mp within
  exact ⟨steps[depth], steps.drop (depth + 1), by rw [List.getElem_cons_drop, List.take_append_drop]⟩

def OwnTemporary (path : Path) : Prop := ∃ name, name ≠ "" ∧ (moves path).getLast? = some (name ++ ".tmp")

/-- The path leads to one name in a directory and the temporary file has another, in this tree and as long as its
directories stay. -/
structure Beside (tree : Tree) (path : Path) (target spare : Place) : Prop where
  located : locate tree (temporary path) = .ok spare
  free : entryAt? tree spare ≠ some .directory
  leads : ∀ {left place}, Keeps tree left → locate left path = .ok place → place = target
  read : ∀ {left}, Keeps tree left → entryAt? left target = entryAt? tree target → read left path = read tree path
  apart : ¬OwnTemporary path → target ≠ spare

theorem temporary_top (steps : moves path = []) : temporary path = path := by
  rw [temporary, steps]
  rfl

theorem temporary_up (steps : moves path = front ++ [".."]) : temporary path = path := by
  rw [temporary, steps, List.getLast?_concat]
  rfl

theorem temporary_name {name : String} (steps : moves path = front ++ [name]) (up : name ≠ "..") :
    temporary path = front ++ [stem name ++ ".tmp"] := by
  rw [temporary, steps, List.getLast?_concat, List.dropLast_concat]
  split
  · rename_i last
    cases last
  · rename_i last
    exact absurd (Option.some.inj last) up
  · rename_i last
    cases last
    rfl

theorem ownTemporary_of_same {name : String} (steps : moves path = front ++ [name])
    (same : name = stem name ++ ".tmp") : OwnTemporary path := by
  refine ⟨stem name, ?_, ?_⟩
  · intro empty
    rw [empty] at same
    subst same
    exact absurd empty (by decide)
  · rw [steps, List.getLast?_concat, ← same]

theorem enter_spare (parent : Place) (name : String) :
    enter parent (stem name ++ ".tmp") = parent ++ [stem name ++ ".tmp"] := by
  apply enter_name
  all_goals
    intro same
    have last := congrArg (·.toList.getLast?) same
    simp at last

theorem Beside.of_name {parent : Place} {name : String} (steps : moves path = front ++ [name]) (up : name ≠ "..")
    (leads : follow tree [] front = .ok parent) (directory : entryAt? tree parent = some .directory)
    (located : locate tree (temporary path) = .ok (parent ++ [stem name ++ ".tmp"]))
    (free : entryAt? tree (parent ++ [stem name ++ ".tmp"]) ≠ some .directory) :
    Beside tree path (parent ++ [name]) (parent ++ [stem name ++ ".tmp"]) where
  located := located
  free := free
  leads := by
    intro left place keeps found
    have arrives := follow_moves_of_ok (follow_of_locate found)
    rw [steps] at arrives
    obtain ⟨_, same, -, -, rfl⟩ := follow_concat_iff.mp arrives
    rw [follow_of_keeps keeps leads] at same
    cases same
    exact enter_name (ne_dot_of_moves steps) up parent
  read := by
    intro left keeps same
    apply read_congr
    · rw [steps, follow_append, follow_append, follow_of_keeps keeps leads, leads]
      simp only [Except.bind, follow, keeps parent directory, directory]
    · intro place arrives
      rw [steps] at arrives
      obtain ⟨_, begins, -, -, rfl⟩ := follow_concat_iff.mp arrives
      rw [leads] at begins
      cases begins
      rw [enter_name (ne_dot_of_moves steps) up]
      exact same
  apart := by
    intro own same
    have names : name = stem name ++ ".tmp" := by simpa using same
    exact own (ownTemporary_of_same steps names)

theorem Beside.of_create (rooted : Rooted tree) (done : perform tree (.create (temporary path)) = .ok next) :
    ∃ target spare, Beside tree path target spare ∧ next = put tree spare (.file []) := by
  obtain ⟨spare, located, free, rfl⟩ := create_done done
  have follows := follow_of_locate located
  -- A path of no steps or one that ends by going up leads to a directory, and no file can be made there.
  cases steps : moves path using List.reverseRecOn with
  | nil =>
    rw [temporary_top steps] at follows
    have top := follow_moves_of_ok follows
    rw [steps] at top
    cases top
    exact absurd (entryAt?_top tree) free
  | append_singleton front name =>
    by_cases up : name = ".."
    · subst up
      rw [temporary_up steps] at follows
      have above := follow_moves_of_ok follows
      rw [steps] at above
      exact absurd (rooted.up above) free
    · rw [temporary_name steps up] at follows
      obtain ⟨parent, leads, directory, -, rfl⟩ := follow_concat_iff.mp follows
      rw [enter_spare] at located free ⊢
      exact ⟨_, _, .of_name steps up leads directory located free, rfl⟩

section Beside

variable {target spare : Place} (beside : Beside tree path target spare)

include beside

theorem Beside.keeps (written : Octets) : Keeps tree (put tree spare (.file written)) := keeps_put beside.free _

theorem Beside.written (written : Octets) : entryAt? (put tree spare (.file written)) spare = some (.file written) := by
  rw [entryAt?_put tree (ne_top beside.free), if_pos rfl]

theorem Beside.read_written (apart : target ≠ spare) (written : Octets) :
    Files.read (put tree spare (.file written)) path = Files.read tree path :=
  beside.read (beside.keeps written) (by rw [entryAt?_put tree (ne_top beside.free), if_neg apart])

theorem Beside.append {written part : Octets}
    (done : perform (put tree spare (.file written)) (.append (Files.temporary path) part) = .ok next) :
    next = put tree spare (.file (written ++ part)) := by
  obtain ⟨place, before, located, there, rfl⟩ := append_done done
  rw [locate_of_keeps (beside.keeps written) beside.located] at located
  cases located
  rw [beside.written] at there
  cases there
  exact put_put ..

structure Replaced (tree : Tree) (path : Path) (data : Octets) (target spare : Place) (left : Tree) : Prop where
  located : locate left path = .ok target
  stored : entryAt? left target = some (.file data)
  sparing : locate left (temporary path) = .ok spare
  gone : entryAt? left spare = none
  others : ∀ place, place ≠ target → place ≠ spare → entryAt? left place = entryAt? tree place

theorem Beside.rename (apart : target ≠ spare)
    (done : perform (put tree spare (.file data)) (.rename (Files.temporary path) path) = .ok next) :
    Replaced tree path data target spare next := by
  obtain ⟨old, new, found, locatedOld, locatedNew, there, other, rfl⟩ := rename_done done
  rw [locate_of_keeps (beside.keeps data) beside.located] at locatedOld
  cases locatedOld
  cases beside.leads (beside.keeps data) locatedNew
  rw [beside.written] at there
  cases there
  have below := ne_top other
  have after : ∀ place, entryAt? (put (drop (put tree spare (.file data)) spare) target (.file data)) place =
      if place = target then some (.file data) else if place = spare then none else entryAt? tree place := by
    intro place
    rw [entryAt?_put _ below, drop_put, entryAt?_drop tree (ne_top beside.free)]
  have keeps : Keeps (put tree spare (.file data))
      (put (drop (put tree spare (.file data)) spare) target (.file data)) := by
    intro place directory
    have notSpare : place ≠ spare := by
      rintro rfl
      rw [beside.written] at directory
      cases directory
    have notTarget : place ≠ target := by
      rintro rfl
      exact other directory
    rw [entryAt?_put tree (ne_top beside.free), if_neg notSpare] at directory
    rw [after, if_neg notTarget, if_neg notSpare]
    exact directory
  refine ⟨locate_of_keeps keeps locatedNew, ?_,
    locate_of_keeps keeps (locate_of_keeps (beside.keeps data) beside.located), ?_, ?_⟩
  · rw [after, if_pos rfl]
  · rw [after, if_neg apart.symm, if_pos rfl]
  · intro place otherTarget otherSpare
    rw [after, if_neg otherTarget, if_neg otherSpare]

end Beside

theorem Replaced.read {target spare : Place} (replaced : Replaced tree path data target spare left) :
    Files.read left path = .ok (some data) := by
  simp only [Files.read, replaced.located, replaced.stored]

/-- However far a save comes, what is read is what was read after the directories were made, or the new data. -/
theorem Halted.save (rooted : Rooted tree) (apart : ¬OwnTemporary path)
    (halted : Halted tree (saveOperations path data) left) :
    ∃ made, Prepared path tree made ∧ (read left path = read made path ∨ read left path = .ok (some data)) := by
  obtain ⟨made, directories, rest⟩ := halted.append
  have prepared := Halted.prepared (fun _ => mem_ancestors) rooted directories
  refine ⟨made, prepared, ?_⟩
  rcases rest with rfl | ⟨-, rest⟩
  · exact .inl rfl
  · cases rest with
    | here => exact .inl rfl
    | after created rest =>
      obtain ⟨target, spare, beside, rfl⟩ := Beside.of_create prepared.rooted created
      have unchanged := beside.read_written (beside.apart apart)
      cases rest with
      | here => exact .inl (unchanged _)
      | within _ _ appended =>
        rw [beside.append appended]
        exact .inl (unchanged _)
      | after appended rest =>
        cases beside.append appended
        cases rest with
        | here => exact .inl (unchanged _)
        | after synced rest =>
          cases sync_done synced
          cases rest with
          | here => exact .inl (unchanged _)
          | after renamed rest =>
            have replaced := beside.rename (beside.apart apart) renamed
            cases rest
            exact .inr replaced.read

theorem performAll_save (rooted : Rooted tree) (apart : ¬OwnTemporary path)
    (done : performAll tree (saveOperations path data) = (.ok (), left)) :
    ∃ made target spare, Prepared path tree made ∧ target ≠ spare ∧ Replaced made path data target spare left := by
  obtain ⟨made, directories, done⟩ := performAll_append done
  have halted : Halted tree ((ancestors (moves path)).map .makeDirectory) made := by
    simpa only [directories] using performAll_halted tree ((ancestors (moves path)).map .makeDirectory)
  have prepared := Halted.prepared (fun _ => mem_ancestors) rooted halted
  obtain ⟨_, created, done⟩ := performAll_cons done
  obtain ⟨_, appended, done⟩ := performAll_cons done
  obtain ⟨_, synced, done⟩ := performAll_cons done
  obtain ⟨_, renamed, finished⟩ := performAll_cons done
  obtain ⟨target, spare, beside, rfl⟩ := Beside.of_create prepared.rooted created
  cases beside.append appended
  cases sync_done synced
  cases finished
  exact ⟨made, target, spare, prepared, beside.apart apart, beside.rename (beside.apart apart) renamed⟩

theorem downward_of_names (names : ∀ step ∈ path, step ≠ ".." ∧ isName step = true) (tree : Tree) :
    Downward tree path := by
  intro front step back steps
  have member : step ∈ moves path := by simp [steps]
  exact .inl (names step (List.mem_filter.mp member).1)

end Files

namespace FileBackend

open Files

/-- Wherever a save is stopped, the blob is read that was read before, or the new one; however the path goes, it is
never less than a whole one. When a save is done, the new blob is read, the temporary file is gone, and all other files
are what they were. -/
theorem save_atomic (backend : FileBackend) (rooted : Rooted backend.tree)
    (apart : ¬OwnTemporary (pathOf backend.path)) (data : Octets) :
    (∀ left, Halted backend.tree (saveOperations (pathOf backend.path) data) left →
      (Downward backend.tree (pathOf backend.path) →
        (Backend.load { backend with tree := left }).1 = (Backend.load backend).1 ∨
          (Backend.load { backend with tree := left }).1 = .ok (some data)) ∧
      ∀ blob, (Backend.load { backend with tree := left }).1 = .ok (some blob) →
        blob = data ∨ ∃ place, entryAt? backend.tree place = some (.file blob)) ∧
    (∃ left, Halted backend.tree (saveOperations (pathOf backend.path) data) left ∧
      (Backend.save backend data).2 = { backend with tree := left }) ∧
    ∀ saved, Backend.save backend data = (.ok (), saved) →
      Backend.load saved = (.ok (some data), saved) ∧
      ∃ target spare, target ≠ spare ∧ locate saved.tree (pathOf backend.path) = .ok target ∧
        locate saved.tree (temporary (pathOf backend.path)) = .ok spare ∧ entryAt? saved.tree spare = none ∧
        ∀ place, place ≠ target → place ≠ spare → ∀ blob,
          entryAt? saved.tree place = some (.file blob) ↔ entryAt? backend.tree place = some (.file blob) := by
  refine ⟨fun left halted => ?_, ⟨_, performAll_halted _ _, rfl⟩, fun saved done => ?_⟩
  · obtain ⟨made, prepared, found⟩ := Halted.save rooted apart halted
    refine ⟨fun downward => ?_, fun blob loaded => ?_⟩
    · rcases found with unchanged | replaced
      · left
        change (read left _).mapError _ = (read backend.tree _).mapError _
        rw [unchanged, prepared.read downward]
      · right
        change (read left _).mapError _ = _
        rw [replaced]
        rfl
    · have present : read left (pathOf backend.path) = .ok (some blob) := of_mapError_ok loaded
      rcases found with unchanged | replaced
      · rw [unchanged] at present
        obtain ⟨place, -, there⟩ := of_read present
        exact .inr ⟨place, (prepared.files place blob).mp there⟩
      · rw [replaced] at present
        cases present
        exact .inl rfl
  · obtain ⟨result, rfl⟩ := Prod.mk.inj done
    have done : performAll backend.tree (saveOperations (pathOf backend.path) data) =
        (.ok (), (performAll backend.tree (saveOperations (pathOf backend.path) data)).2) :=
      Prod.ext (of_mapError_ok result) rfl
    obtain ⟨made, target, spare, prepared, distinct, replaced⟩ := performAll_save rooted apart done
    refine ⟨?_, target, spare, distinct, replaced.located, replaced.sparing, replaced.gone, ?_⟩
    · change ((read _ _).mapError _, _) = _
      rw [replaced.read]
      rfl
    · intro place otherTarget otherSpare blob
      rw [replaced.others place otherTarget otherSpare]
      exact prepared.files place blob

def nestedBackend : FileBackend := ⟨"state/tokens.json", [(["tokens.tmp"], .file [9])]⟩

theorem save_atomic_nested :
    (∀ left, Halted nestedBackend.tree (saveOperations (pathOf nestedBackend.path) [1]) left →
      (Backend.load { nestedBackend with tree := left }).1 = .ok none ∨
        (Backend.load { nestedBackend with tree := left }).1 = .ok (some [1])) ∧
    ∃ saved, Backend.save nestedBackend [1] = (.ok (), saved) ∧ Backend.load saved = (.ok (some [1]), saved) := by
  have steps : pathOf nestedBackend.path = ["state", "tokens.json"] := rfl
  have rooted : Rooted nestedBackend.tree := by simp [Rooted, nestedBackend]
  have downward : Downward nestedBackend.tree (pathOf nestedBackend.path) := by
    apply downward_of_names
    rw [steps]
    decide
  have apart : ¬OwnTemporary (pathOf nestedBackend.path) := by
    rintro ⟨name, -, last⟩
    rw [steps] at last
    have ends := congrArg (·.toList.getLast?) (Option.some.inj last)
    simp at ends
  obtain ⟨halts, -, done⟩ := save_atomic nestedBackend rooted apart [1]
  exact ⟨fun left halted => (halts left halted).1 downward, _, rfl, (done _ rfl).1⟩

def selfSparing : FileBackend := ⟨"tokens.tmp", [(["tokens.tmp"], .file [1])]⟩

def climbing : FileBackend := ⟨"a/../b", [(["b"], .file [1]), (["b.tmp"], .directory)]⟩

theorem save_not_atomic :
    (∃ left, Halted selfSparing.tree (saveOperations (pathOf selfSparing.path) [2]) left ∧
      (Backend.load selfSparing).1 = .ok (some [1]) ∧
      (Backend.load { selfSparing with tree := left }).1 = .ok (some [])) ∧
    (Backend.load climbing).1 = .ok none ∧
      Backend.load (Backend.save climbing [2]).2 = (.ok (some [1]), (Backend.save climbing [2]).2) := by
  have top : perform selfSparing.tree (.makeDirectory []) = .ok selfSparing.tree := rfl
  exact ⟨⟨[(["tokens.tmp"], .file [])], .after top (.after rfl (.here _ _)), rfl, rfl⟩, rfl, rfl⟩

end FileBackend

end LoginGateway
