import LoginGateway.Proofs.Http.Fields
import LoginGateway.Proofs.Token.Presented

namespace LoginGateway

open Http

namespace PresentedToken

def CookieName (name : String) : Prop := ∀ c ∈ name.toList, 0x21 ≤ c.toNat ∧ c.toNat ≤ 0x7E ∧ c ≠ '=' ∧ c ≠ ';'

def returned (setCookie : String) : String := String.ofList (setCookie.toList.takeWhile (· != ';'))

def cookieField (cookies : List String) : Octets := Text.encode ("; ".intercalate cookies)

theorem CookieName.undivided {name : String} (legal : CookieName name) : ';' ∉ name.toList :=
  fun member => (legal ';' member).2.2.2 rfl

theorem CookieName.readable {name : String} (legal : CookieName name) : Readable name :=
  readable_of_visible fun c member => ⟨(legal c member).1, (legal c member).2.1⟩

theorem CookieName.isValue {name : String} (legal : CookieName name) : isValue (Text.encode name) = true := by
  rw [isValue_encode_iff]
  intro c member
  have range := legal.readable c member
  omega

theorem returned_single (setCookie : String) : ';' ∉ (returned setCookie).toList := by
  intro member
  rw [returned, String.toList_ofList] at member
  exact absurd (List.mem_takeWhile_imp member) (by decide)

theorem returned_whole {text : String} (whole : ';' ∉ text.toList) : returned text = text := by
  rw [returned, Text.takeWhile_of_not_mem whole, String.ofList_toList]

theorem returned_append {front : String} (whole : ';' ∉ front.toList) (back : String) :
    returned (front ++ back) = front ++ returned back := by
  rw [returned, String.toList_append, List.takeWhile_append_of_pos (Text.bne_of_not_mem whole), String.ofList_append,
    String.ofList_toList, returned]

theorem returned_attributes (front : String) {attributes : String}
    (marked : attributes.toList.takeWhile (· != ';') = []) : returned (front ++ attributes) = returned front := by
  rw [returned, String.toList_append, List.takeWhile_append, marked, List.append_nil, returned]
  split
  · rename_i full
    rw [(List.takeWhile_prefix _).eq_of_length full]
  · rfl

theorem cookiePair?_blank (piece : List Char) : cookiePair? (' ' :: piece) = cookiePair? piece := by
  have blank : Text.isBlank ' ' = true := by decide
  rw [cookiePair?, cookiePair?, Text.strip_cons blank]

theorem cookiePair?_eq {name : String} (legal : CookieName name) (value : List Char) :
    cookiePair? (name.toList ++ '=' :: value) =
      some (name, String.ofList (Text.strip (· == '\x22') (Text.strip Text.isBlank (Text.stripEnd Text.isBlank value)))) := by
  have kept : ∀ c ∈ name.toList, Text.isBlank c = false := by
    intro c member
    obtain ⟨least, most, -⟩ := legal c member
    exact Text.not_isBlank least most
  have unequal : ∀ c ∈ name.toList, (c == '=') = false := by
    intro c member
    rw [beq_eq_false_iff_ne]
    exact (legal c member).2.2.1
  have stays : Text.isBlank '=' = false := by decide
  rw [cookiePair?, Text.strip_append_cons kept stays, Text.cut_append unequal (beq_self_eq_true '=')]
  dsimp only
  rw [String.ofList_toList]

theorem readable_cookies (cookies : List String) :
    Readable ("; ".intercalate cookies) ↔ ∀ cookie ∈ cookies, Readable cookie :=
  readable_intercalate (by simp [Readable]) cookies

theorem split_blank (text : List Char) :
    (Text.split (· == ';') (' ' :: text)).filterMap cookiePair? = (Text.split (· == ';') text).filterMap cookiePair? := by
  obtain ⟨piece, others, pieces⟩ := List.exists_cons_of_ne_nil (Text.split_ne_nil (· == ';') text)
  have spaced : Text.split (· == ';') (' ' :: text) = (' ' :: piece) :: others := by
    rw [Text.split_eq, List.splitOnP_cons_eq_if_modifyHead, ← Text.split_eq, pieces]
    rfl
  rw [spaced, pieces, List.filterMap_cons, List.filterMap_cons, cookiePair?_blank]

theorem split_intercalate {cookies : List String} (single : ∀ cookie ∈ cookies, ';' ∉ cookie.toList) :
    (Text.split (· == ';') ("; ".intercalate cookies).toList).filterMap cookiePair? =
      (cookies.map String.toList).filterMap cookiePair? := by
  have whole : ∀ {cookie : String}, ';' ∉ cookie.toList → Text.split (· == ';') cookie.toList = [cookie.toList] :=
    fun absent => Text.split_whole (Text.beq_of_not_mem absent)
  induction cookies with
  | nil => rfl
  | cons cookie others ih =>
    obtain ⟨alone, rest⟩ := List.forall_mem_cons.mp single
    cases others with
    | nil => rw [String.intercalate_singleton, whole alone]; rfl
    | cons next others =>
      have joined : ("; ".intercalate (cookie :: next :: others)).toList =
          cookie.toList ++ ';' :: ' ' :: ("; ".intercalate (next :: others)).toList := by
        rw [String.intercalate_cons_cons]
        simp
      have pieces : Text.split (· == ';') (cookie.toList ++ ';' :: ' ' :: ("; ".intercalate (next :: others)).toList) =
          Text.split (· == ';') cookie.toList ++
            Text.split (· == ';') (' ' :: ("; ".intercalate (next :: others)).toList) :=
        Text.split_append_cons (by decide) _ _
      rw [joined, pieces, whole alone, List.filterMap_append, split_blank, ih rest, ← List.filterMap_append]
      rfl

variable {headers : Headers} {name : String} {sent : List String}

structure Sends (headers : Headers) (sent : List String) : Prop where
  bare : headers.first? "authorization" = none
  field : ∃ others, headers.all "cookie" = cookieField sent :: others
  single : ∀ cookie ∈ sent, ';' ∉ cookie.toList

theorem Sends.cookies (sends : Sends headers sent) (readable : ∀ cookie ∈ sent, Readable cookie) :
    ∃ rest, cookies headers = (sent.map String.toList).filterMap cookiePair? ++ rest := by
  obtain ⟨others, field⟩ := sends.field
  have read : readable? (cookieField sent) = some ("; ".intercalate sent) :=
    ((readable_cookies sent).mpr readable).read
  simp only [PresentedToken.cookies, field, List.flatMap_cons, read, split_intercalate sends.single]
  exact ⟨_, rfl⟩

/-- The cookie is among those that the request sends, and the first of its name. -/
def Carries (headers : Headers) (name cookie : String) : Prop :=
  ∃ before after, Sends headers (before ++ cookie :: after) ∧ (∀ other ∈ before ++ after, Readable other) ∧
    ∀ other ∈ before, ∀ value, cookiePair? other.toList ≠ some (name, value)

theorem ofRequest_carried {secret claims : Octets} (legal : CookieName name)
    (carries : Carries headers name (name ++ "=" ++ SignedToken.mint secret claims)) :
    ofRequest headers name = .ok (SignedToken.mint secret claims) := by
  obtain ⟨before, after, sends, readable, first⟩ := carries
  have blankless := SignedToken.mint_unspaced secret claims
  have unquoted : ∀ c ∈ (SignedToken.mint secret claims).toList, (c == '\x22') = false := by
    intro c member
    rw [beq_eq_false_iff_ne]
    exact (SignedToken.mint_unquoted secret claims c member).2
  have pair : cookiePair? (name ++ "=" ++ SignedToken.mint secret claims).toList =
      some (name, SignedToken.mint secret claims) := by
    have parts : (name ++ "=" ++ SignedToken.mint secret claims).toList =
        name.toList ++ '=' :: (SignedToken.mint secret claims).toList := by simp
    rw [parts, cookiePair?_eq legal, Text.stripEnd_of_kept blankless, Text.strip_of_kept blankless,
      Text.strip_of_kept unquoted, String.ofList_toList]
  have legible : ∀ cookie ∈ before ++ (name ++ "=" ++ SignedToken.mint secret claims) :: after, Readable cookie := by
    intro cookie member
    rcases List.mem_append.mp member with earlier | member
    · exact readable cookie (List.mem_append_left _ earlier)
    · rcases List.mem_cons.mp member with rfl | later
      · have joint : Readable "=" := by simp [Readable]
        have token := SignedToken.readable_mint secret claims
        exact (readable_append _ _).mpr ⟨(readable_append _ _).mpr ⟨legal.readable, joint⟩, token⟩
      · exact readable cookie (List.mem_append_right _ later)
  obtain ⟨rest, cookies⟩ := sends.cookies legible
  -- The cookies before it have other names or are none at all, so the look-up gets to it.
  have absent : ((before.map String.toList).filterMap cookiePair?).lookup name = none := by
    rw [List.lookup_eq_none_iff]
    intro found member
    obtain ⟨piece, among, read⟩ := List.mem_filterMap.mp member
    obtain ⟨cookie, earlier, rfl⟩ := List.mem_map.mp among
    rw [bne_iff_ne]
    rintro rfl
    exact first cookie earlier found.2 read
  have found : (PresentedToken.cookies headers).lookup name = some (SignedToken.mint secret claims) := by
    rw [cookies, List.map_append, List.map_cons, List.filterMap_append, List.filterMap_cons, pair, List.append_assoc,
      List.lookup_append, absent]
    simp
  rw [ofRequest, bearer_missing sends.bare, cookie, found]
  simp only [SignedToken.isEmpty_mint]
  rfl

theorem ofRequest_unreadable (bare : headers.first? "authorization" = none)
    (field : headers.all "cookie" = [cookieField sent]) (unreadable : ∃ cookie ∈ sent, ¬Readable cookie) (name : String) :
    ofRequest headers name = .error .missing := by
  have dropped : readable? (cookieField sent) = none := by
    apply readable?_eq_none
    intro readable
    obtain ⟨cookie, member, illegible⟩ := unreadable
    exact illegible ((readable_cookies sent).mp readable cookie member)
  have empty : PresentedToken.cookies headers = [] := by
    simp only [PresentedToken.cookies, field, List.flatMap_cons, List.flatMap_nil, dropped]
    rfl
  rw [ofRequest, bearer_missing bare, cookie, empty]
  rfl

end PresentedToken

end LoginGateway
