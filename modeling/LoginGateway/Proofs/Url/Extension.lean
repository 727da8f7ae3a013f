import LoginGateway.Proofs.Encoding.Percent
import LoginGateway.Proofs.Results
import LoginGateway.Proofs.Text.Pieces
import LoginGateway.Url.Parse

namespace LoginGateway.Url

structure Segment (text : String) : Prop where
  kept : ∀ c ∈ text.toList, isPathChar c = true
  single : ∀ c ∈ text.toList, c ≠ '/' ∧ c ≠ '\\'
  named : isDot text.toList = false ∧ isDoubleDot text.toList = false

def below (segments : List String) : String := String.join (segments.map ("/" ++ ·))

@[simp] theorem below_nil : below [] = "" := rfl

theorem below_cons (segment : String) (segments : List String) :
    below (segment :: segments) = "/" ++ segment ++ below segments := by
  simp [below, String.join_cons]

theorem below_toList (segment : String) (segments : List String) :
    (below (segment :: segments)).toList = '/' :: (segment.toList ++ (below segments).toList) := by
  simp [below_cons]

theorem split_below {isSlash : Char → Bool} (slash : isSlash '/' = true) {segment : String} {segments : List String}
    (single : ∀ text ∈ segment :: segments, ∀ c ∈ text.toList, isSlash c = false) :
    Text.split isSlash (segment.toList ++ (below segments).toList) = (segment :: segments).map String.toList := by
  induction segments generalizing segment with
  | nil =>
    rw [below_nil, String.toList_empty, List.append_nil]
    exact Text.split_whole (single segment List.mem_cons_self)
  | cons next others ih =>
    obtain ⟨first, rest⟩ := List.forall_mem_cons.mp single
    rw [below_toList, Text.split_append_cons slash, Text.split_whole first, ih rest]
    rfl

theorem kept_below {segments : List String} (legal : ∀ segment ∈ segments, Segment segment) :
    ∀ c ∈ (below segments).toList, isPathChar c = true := by
  induction segments with
  | nil => simp
  | cons segment others ih =>
    obtain ⟨first, rest⟩ := List.forall_mem_cons.mp legal
    intro c member
    rw [below_toList, List.mem_cons, List.mem_append] at member
    rcases member with rfl | member | member
    · decide
    · exact first.kept c member
    · exact ih rest c member

def resolved (done : List (List Char)) : List (List Char) → List (List Char)
  | [] => done
  | segment :: rest =>
    if isDoubleDot segment then resolved (done.drop 1) rest
    else if isDot segment then resolved done rest
    else resolved (segment :: done) rest

theorem resolve_append {back : List (List Char)} (more : back ≠ []) (done front : List (List Char)) :
    resolve done (front ++ back) = resolve (resolved done front) back := by
  induction front generalizing done with
  | nil => rfl
  | cons segment rest ih =>
    have goesOn : (rest ++ back).isEmpty = false := by simp [more]
    simp only [List.cons_append, resolve, resolved, goesOn]
    split
    · exact ih _
    · split
      · exact ih _
      · exact ih _

theorem resolve_named {segments : List (List Char)}
    (named : ∀ segment ∈ segments, isDot segment = false ∧ isDoubleDot segment = false) (done : List (List Char)) :
    resolve done segments = segments.reverse ++ done := by
  induction segments generalizing done with
  | nil => rfl
  | cons segment rest ih =>
    obtain ⟨⟨single, double⟩, others⟩ := List.forall_mem_cons.mp named
    simp only [resolve, single, double]
    simp [ih others]

def writtenPath (segments : List (List Char)) : String :=
  String.join (segments.map fun segment => "/" ++ Percent.encode isPathChar (String.ofList segment))

theorem writtenPath_append (front back : List (List Char)) :
    writtenPath (front ++ back) = writtenPath front ++ writtenPath back := by
  simp [writtenPath, String.join_append]

theorem writtenPath_segments {segments : List String} (legal : ∀ segment ∈ segments, Segment segment) :
    writtenPath (segments.map String.toList) = below segments := by
  have each : ∀ segment ∈ segments,
      "/" ++ Percent.encode isPathChar (String.ofList segment.toList) = "/" ++ segment := by
    intro segment member
    rw [String.ofList_toList, Percent.encode_kept (List.all_eq_true.mpr (legal segment member).kept)]
  rw [writtenPath, below, List.map_map]
  exact congrArg String.join (List.map_congr_left each)

def isWebSlash (c : Char) : Bool := c == '/' || true && c == '\\'

theorem normalPath_cons {c : Char} (slash : isWebSlash c = true) (text : List Char) :
    normalPath true (c :: text) = writtenPath (resolve [] (Text.split isWebSlash text)).reverse := by
  have begins : (c == '/' || true && c == '\\') = true := slash
  simp only [normalPath, begins, if_true, writtenPath]
  rfl

theorem normalPath_below {front : List Char} (begins : ∀ c ∈ front.head?, isWebSlash c = true) :
    ∃ root, ∀ segments, segments ≠ [] → (∀ segment ∈ segments, Segment segment) →
      normalPath true (front ++ (below segments).toList) = root ++ below segments := by
  have slash : isWebSlash '/' = true := by decide
  have single : ∀ segments : List String, (∀ segment ∈ segments, Segment segment) → ∀ segment ∈ segments,
      ∀ c ∈ segment.toList, isWebSlash c = false := by
    intro segments legal segment member c among
    obtain ⟨unslashed, straight⟩ := (legal segment member).single c among
    simp [isWebSlash, unslashed, straight]
  have named : ∀ segments : List String, (∀ segment ∈ segments, Segment segment) →
      ∀ segment ∈ segments.map String.toList, isDot segment = false ∧ isDoubleDot segment = false := by
    intro segments legal text member
    obtain ⟨segment, among, rfl⟩ := List.mem_map.mp member
    exact (legal segment among).named
  cases front with
  | nil =>
    refine ⟨"", fun segments more legal => ?_⟩
    obtain ⟨segment, others, rfl⟩ := List.exists_cons_of_ne_nil more
    rw [List.nil_append, below_toList, normalPath_cons slash, split_below slash (single _ legal),
      resolve_named (named _ legal), List.append_nil, List.reverse_reverse, writtenPath_segments legal,
      String.empty_append]
  | cons c rest =>
    refine ⟨writtenPath (resolved [] (Text.split isWebSlash rest)).reverse, fun segments more legal => ?_⟩
    obtain ⟨segment, others, rfl⟩ := List.exists_cons_of_ne_nil more
    rw [List.cons_append, normalPath_cons (begins c rfl), below_toList, Text.split_append_cons slash,
      split_below slash (single _ legal), resolve_append (by simp), resolve_named (named _ legal), List.reverse_append,
      List.reverse_reverse, writtenPath_append, writtenPath_segments legal]

def Unqueried (text : List Char) : Prop := ∀ c ∈ text, c ≠ '?' ∧ c ≠ '#'

theorem cutQuery_unqueried {text : List Char} (unqueried : Unqueried text) : cutQuery text = (text, none) := by
  have whole : text.takeWhile (· != '#') = text :=
    Text.takeWhile_of_not_mem fun member => (unqueried '#' member).2 rfl
  rw [cutQuery, whole]
  exact Text.cut_whole (Text.beq_of_not_mem fun member => (unqueried '?' member).1 rfl)

theorem unqueried_below {segments : List String} (legal : ∀ segment ∈ segments, Segment segment) :
    Unqueried (below segments).toList := by
  have unkept : isPathChar '?' = false ∧ isPathChar '#' = false := by decide
  intro c member
  have kept := kept_below legal c member
  constructor
  · rintro rfl
    simp [unkept.1] at kept
  · rintro rfl
    simp [unkept.2] at kept

def isStop (c : Char) : Bool := c == '/' || c == '?' || c == '#' || (true && c == '\\')

theorem withAuthority?_unqueried {scheme : String} (web : isWeb scheme = true) {text : List Char}
    (unqueried : Unqueried text) :
    withAuthority? scheme text = (authority? scheme (text.takeWhile (!isStop ·))).map fun (host, port) =>
      ⟨scheme, some host, port, normalPath true (text.dropWhile (!isStop ·)), none⟩ := by
  have rest : Unqueried (text.dropWhile (!isStop ·)) :=
    fun c member => unqueried c ((List.dropWhile_sublist _).mem member)
  have parts := cutQuery_unqueried rest
  have stops : (fun c => !(c == '/' || c == '?' || c == '#' || (true && c == '\\'))) = (!isStop ·) := rfl
  rw [withAuthority?, web]
  dsimp only
  rw [stops, parts]
  cases authority? scheme (text.takeWhile (!isStop ·)) with
  | none => rfl
  | some _ => rfl

theorem withAuthority?_below {scheme : String} (web : isWeb scheme = true) {text : List Char} {origin : Url}
    (unqueried : Unqueried text) (found : withAuthority? scheme text = some origin) :
    ∃ root, ∀ segments, segments ≠ [] → (∀ segment ∈ segments, Segment segment) →
      withAuthority? scheme (text ++ (below segments).toList) =
        some { origin with path := root ++ below segments } := by
  rw [withAuthority?_unqueried web unqueried] at found
  obtain ⟨⟨host, port⟩, authority, rfl⟩ := Option.map_eq_some_iff.mp found
  have begins : ∀ c ∈ (text.dropWhile (!isStop ·)).head?, isWebSlash c = true := by
    intro c first
    have stops := Text.head_dropWhile (!isStop ·) text c first
    have ⟨question, hash⟩ := unqueried c ((List.dropWhile_sublist _).mem (List.mem_of_mem_head? first))
    simpa [isStop, isWebSlash, question, hash, or_iff_not_imp_left] using stops
  obtain ⟨root, goesOn⟩ := normalPath_below begins
  refine ⟨root, fun segments more legal => ?_⟩
  have unqueriedBelow := unqueried_below legal
  have whole : Unqueried (text ++ (below segments).toList) := by
    intro c member
    rcases List.mem_append.mp member with member | member
    · exact unqueried c member
    · exact unqueriedBelow c member
  rw [withAuthority?_unqueried web whole]
  obtain ⟨segment, others, rfl⟩ := List.exists_cons_of_ne_nil more
  have stops : (!isStop '/') = false := by decide
  have path := goesOn _ more legal
  rw [below_toList] at path ⊢
  rw [Text.takeWhile_append_stop (p := (!isStop ·)) stops, Text.dropWhile_append_stop (p := (!isStop ·)) stops,
    authority, path]
  rfl

theorem scheme?_append {text rest : List Char} {scheme : String} (found : scheme? text = some (scheme, rest)) :
    rest ⊆ text ∧ ∀ back, scheme? (text ++ back) = some (scheme, rest ++ back) := by
  rw [scheme?] at found
  split at found
  · rename_i first more after cuts
    obtain ⟨separator, parts, separates, none⟩ := Text.of_cut cuts
    split at found
    · rename_i legal
      cases found
      refine ⟨fun c member => by rw [parts]; simp [member], fun back => ?_⟩
      have whole : text ++ back = (first :: more) ++ separator :: (rest ++ back) := by simp [parts]
      rw [scheme?, whole, Text.cut_append none separates]
      simp only [legal, if_true]
    · cases found
  · cases found

theorem withAuthority?_nil {scheme : String} (web : isWeb scheme = true) : withAuthority? scheme [] = none := by
  have nameless : webHost? [] = none := by decide
  have unqueried : Unqueried [] := by simp [Unqueried]
  rw [withAuthority?_unqueried web unqueried, authority?]
  simp [Text.cutLast, Text.cut, cutPort, web, nameless]

theorem file?_scheme {text : List Char} {url : Url} (found : file? text = some url) : url.scheme = "file" := by
  unfold file? at found
  dsimp only at found
  repeat' split at found
  all_goals
    obtain ⟨_, -, found⟩ := Option.bind_eq_some_iff.mp found
    cases found
    rfl

theorem withAuthority?_scheme {scheme : String} {text : List Char} {url : Url}
    (found : withAuthority? scheme text = some url) : url.scheme = scheme := by
  rw [withAuthority?] at found
  obtain ⟨⟨host, port⟩, -, found⟩ := Option.bind_eq_some_iff.mp found
  cases found
  rfl

theorem parse?_eq {text : String} (plain : ∀ c ∈ text.toList, 0x20 < c.val) :
    parse? text = (scheme? text.toList).bind fun (scheme, rest) =>
      if scheme = "file" then file? rest
      else if isWeb scheme then withAuthority? scheme (rest.dropWhile isWebSlash)
      else match rest with
        | '/' :: '/' :: rest => withAuthority? scheme rest
        | rest =>
          some ⟨scheme, none, none, String.ofList (cutQuery rest).1, (cutQuery rest).2.map (normalQuery false)⟩ := by
  have bare : Text.strip (fun c : Char => decide (c.val ≤ 0x20)) text.toList = text.toList := by
    apply Text.strip_of_kept
    intro c member
    simpa using plain c member
  have unbroken : text.toList.filter (fun c => c != '\t' && c != '\n' && c != '\r') = text.toList := by
    rw [List.filter_eq_self]
    intro c member
    have visible := plain c member
    have controls : ['\t', '\n', '\r'].all (fun d => d.val ≤ 0x20) = true := by decide
    have other : ∀ d ∈ ['\t', '\n', '\r'], c ≠ d := fun d listed same =>
      UInt32.not_lt.mpr (of_decide_eq_true (List.all_eq_true.mp controls d listed)) (same ▸ visible)
    simp [other]
  rw [parse?]
  change (scheme? ((Text.strip (fun c : Char => decide (c.val ≤ 0x20)) text.toList).filter _)).bind _ = _
  rw [bare, unbroken]
  rfl

theorem visible_below {segments : List String} (legal : ∀ segment ∈ segments, Segment segment) :
    ∀ c ∈ (below segments).toList, 0x20 < c.val := by
  intro c member
  have kept := kept_below legal c member
  simp only [isPathChar, isPrintable, Bool.and_eq_true, decide_eq_true_eq] at kept
  exact kept.1.1

theorem parse?_scheme {text : String} {scheme : String} {rest : List Char} {url : Url}
    (plain : ∀ c ∈ text.toList, 0x20 < c.val) (begins : scheme? text.toList = some (scheme, rest))
    (found : parse? text = some url) : url.scheme = scheme := by
  rw [parse?_eq plain, begins, Option.bind_some] at found
  dsimp only at found
  split at found
  · rename_i file
    rw [file, file?_scheme found]
  · split at found
    · exact withAuthority?_scheme found
    · split at found
      · exact withAuthority?_scheme found
      · cases found
        rfl

theorem parse?_web {text : String} {scheme : String} {rest : List Char} (plain : ∀ c ∈ text.toList, 0x20 < c.val)
    (begins : scheme? text.toList = some (scheme, rest)) (web : scheme = "http" ∨ scheme = "https") :
    parse? text = withAuthority? scheme (rest.dropWhile isWebSlash) := by
  rw [parse?_eq plain, begins, Option.bind_some]
  rcases web with rfl | rfl <;> rfl

theorem parse?_below {server : String} {origin : Url} (found : parse? server = some origin)
    (web : origin.scheme = "http" ∨ origin.scheme = "https")
    (plain : ∀ c ∈ server.toList, 0x20 < c.val ∧ c ≠ '?' ∧ c ≠ '#') :
    ∃ root, ∀ segments, segments ≠ [] → (∀ segment ∈ segments, Segment segment) →
      parse? (server ++ below segments) = some { origin with path := root ++ below segments } := by
  have visible : ∀ c ∈ server.toList, 0x20 < c.val := fun c member => (plain c member).1
  have parsed := found
  rw [parse?_eq visible] at parsed
  obtain ⟨⟨scheme, rest⟩, begins, -⟩ := Option.bind_eq_some_iff.mp parsed
  have same := parse?_scheme visible begins found
  rw [same] at web
  rw [parse?_web visible begins web] at found
  have known : isWeb scheme = true := by rcases web with rfl | rfl <;> rfl
  obtain ⟨among, goesOn⟩ := scheme?_append begins
  have unqueried : Unqueried (rest.dropWhile isWebSlash) :=
    fun c member => (plain c (among ((List.dropWhile_sublist _).mem member))).2
  obtain ⟨root, leads⟩ := withAuthority?_below known unqueried found
  refine ⟨root, fun segments more legal => ?_⟩
  have whole : ∀ c ∈ (server ++ below segments).toList, 0x20 < c.val := by
    intro c member
    rw [String.toList_append, List.mem_append] at member
    exact member.elim (visible c) (visible_below legal c)
  have begins' := goesOn (below segments).toList
  rw [← String.toList_append] at begins'
  -- Slashes before the host do not count. There is a host, so those that are written behind the server do.
  have hosted : (rest.dropWhile isWebSlash).isEmpty = false := by
    rw [List.isEmpty_eq_false_iff]
    intro nothing
    rw [nothing, withAuthority?_nil known] at found
    cases found
  rw [parse?_web whole begins' web, List.dropWhile_append, hosted]
  exact leads segments more legal

end LoginGateway.Url
