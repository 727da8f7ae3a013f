import LoginGateway.Proofs.Text.Pieces

namespace LoginGateway.Text

/-- The text is these words in order, with a blank or more between any two of them and any blanks around them. -/
inductive Worded : List Char → List String → Prop
  | nil : Worded [] []
  | blank {c : Char} {rest : List Char} {found : List String} (blank : isBlank c = true) (others : Worded rest found) :
      Worded (c :: rest) found
  | word {word : String} {rest : List Char} {found : List String} (there : word ≠ "")
      (unspaced : ∀ c ∈ word.toList, isBlank c = false) (ends : ∀ c ∈ rest.head?, isBlank c = true)
      (others : Worded rest found) : Worded (word.toList ++ rest) (word :: found)

theorem Worded.word_of_mem {text : List Char} {found : List String} (worded : Worded text found) :
    ∀ word ∈ found, word ≠ "" ∧ ∀ c ∈ word.toList, isBlank c = false := by
  induction worded with
  | nil => simp
  | blank _ _ ih => exact ih
  | word there unspaced _ _ ih => exact List.forall_mem_cons.mpr ⟨⟨there, unspaced⟩, ih⟩

theorem words_blank {c : Char} (blank : isBlank c = true) (rest : List Char) :
    words (String.ofList (c :: rest)) = words (String.ofList rest) := by
  have pieces : split isBlank (c :: rest) = [] :: split isBlank rest := split_append_cons blank [] rest
  rw [words, words, String.toList_ofList, String.toList_ofList, pieces]
  rfl

theorem words_whole {word : String} (there : word ≠ "") (unspaced : ∀ c ∈ word.toList, isBlank c = false) :
    words word = [word] := by
  have some : word.toList.isEmpty = false := by simpa using there
  rw [words, split_whole unspaced, List.filterMap_cons, some, List.filterMap_nil]
  simp

theorem words_append {c : Char} (blank : isBlank c = true) (front : String) (back : List Char) :
    words (String.ofList (front.toList ++ c :: back)) = words front ++ words (String.ofList back) := by
  rw [words, words, words, String.toList_ofList, String.toList_ofList, split_append_cons blank, List.filterMap_append]

theorem Worded.words_eq {text : List Char} {found : List String} (worded : Worded text found) :
    words (String.ofList text) = found := by
  induction worded with
  | nil => rfl
  | blank blank _ ih => rw [words_blank blank, ih]
  | @word word rest found there unspaced ends _ ih =>
    cases rest with
    | nil =>
      rw [← ih, List.append_nil, String.ofList_toList, words_whole there unspaced]
      rfl
    | cons c back =>
      have blank := ends c rfl
      rw [words_append blank, words_whole there unspaced, ← words_blank blank, ih, List.singleton_append]

theorem exists_worded : ∀ text : List Char, ∃ found, Worded text found
  | [] => ⟨[], .nil⟩
  | c :: rest => by
    by_cases blank : isBlank c = true
    · obtain ⟨found, others⟩ := exists_worded rest
      exact ⟨found, .blank blank others⟩
    · have begins : (c :: rest).takeWhile (!isBlank ·) = c :: rest.takeWhile (!isBlank ·) := by
        simp [blank]
      have shorter : ((c :: rest).dropWhile (!isBlank ·)).length < (c :: rest).length := by
        have whole := congrArg List.length
          (List.takeWhile_append_dropWhile (p := (!isBlank ·)) (l := c :: rest))
        rw [begins, List.length_append, List.length_cons] at whole
        omega
      obtain ⟨found, others⟩ := exists_worded ((c :: rest).dropWhile (!isBlank ·))
      refine ⟨String.ofList ((c :: rest).takeWhile (!isBlank ·)) :: found, ?_⟩
      have unspaced : ∀ d ∈ (c :: rest).takeWhile (!isBlank ·), isBlank d = false := by
        intro d member
        simpa using List.mem_takeWhile_imp member
      have ends : ∀ d ∈ ((c :: rest).dropWhile (!isBlank ·)).head?, isBlank d = true := by
        intro d first
        simpa using head_dropWhile (!isBlank ·) (c :: rest) d first
      have there : String.ofList ((c :: rest).takeWhile (!isBlank ·)) ≠ "" := by
        rw [begins]
        simp
      have worded := Worded.word there (by simpa using unspaced) ends others
      rwa [String.toList_ofList, List.takeWhile_append_dropWhile] at worded
  termination_by text => text.length
  decreasing_by
    · exact Nat.lt_succ_self _
    · exact shorter

theorem worded_iff {text : String} {found : List String} : Worded text.toList found ↔ words text = found := by
  constructor
  · intro worded
    rw [← worded.words_eq, String.ofList_toList]
  · rintro rfl
    obtain ⟨found, worded⟩ := exists_worded text.toList
    rw [← String.ofList_toList (s := text), worded.words_eq, String.toList_ofList]
    exact worded

end LoginGateway.Text
