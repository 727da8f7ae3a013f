import LoginGateway.Proofs.Http.Fields
import LoginGateway.Token.Presented
import Mathlib.Data.List.Forall2

namespace LoginGateway.PresentedToken

open Http

inductive Piece where
  | cookie (front name value : String) (quoted : Bool) (back : String)
  | other (text : String)

namespace Piece

def written (value : String) (quoted : Bool) : String := if quoted then "\x22" ++ value ++ "\x22" else value

def text : Piece → String
  | .cookie front name value quoted back => front ++ (name ++ "=" ++ written value quoted) ++ back
  | .other text => text

def pair? : Piece → Option (String × String)
  | .cookie _ name value _ _ => some (name, value)
  | .other _ => none

/-- The piece is its own, all of it can be read, and of a cookie it can be told where name and value begin and end. -/
inductive Legal : Piece → Prop
  | cookie {front name value back : String} (quoted : Bool)
      (readable : ∀ part ∈ [front, name, value, back], Readable part)
      (around : ∀ c ∈ front.toList ++ back.toList, Text.isBlank c = true)
      (nameWhole : ∀ c ∈ name.toList, c ≠ '=' ∧ c ≠ ';') (nameBare : Text.Bare Text.isBlank name.toList)
      (valueWhole : ∀ c ∈ value.toList, c ≠ ';') (valueBare : Text.Bare Text.isBlank value.toList)
      (unquoted : Text.Bare (· == '\x22') value.toList) : Legal (.cookie front name value quoted back)
  | other {text : String} (readable : Readable text) (whole : ∀ c ∈ text.toList, c ≠ '=' ∧ c ≠ ';') :
      Legal (.other text)

end Piece

/-- A Cookie field: pieces with semicolons between them, or octets that cannot be read. -/
inductive CookieField where
  | joined (pieces : List Piece)
  | unreadable (octets : Octets)

namespace CookieField

def octets : CookieField → Octets
  | .joined pieces => Text.encode (";".intercalate (pieces.map Piece.text))
  | .unreadable octets => octets

def pairs : CookieField → List (String × String)
  | .joined pieces => pieces.filterMap Piece.pair?
  | .unreadable _ => []

def Legal : CookieField → Prop
  | .joined pieces => ∀ piece ∈ pieces, piece.Legal
  | .unreadable octets => readable? octets = none

end CookieField

namespace Piece

theorem readable_written {value : String} (readable : Readable value) (quoted : Bool) :
    Readable (written value quoted) := by
  have quote : Readable "\x22" := by simp [Readable]
  unfold written
  split
  · exact (readable_append _ _).mpr ⟨(readable_append _ _).mpr ⟨quote, readable⟩, quote⟩
  · exact readable

theorem Legal.readable {piece : Piece} (legal : piece.Legal) : Readable piece.text := by
  cases legal with
  | cookie quoted readable _ _ _ _ _ _ =>
    simp only [List.forall_mem_cons] at readable
    obtain ⟨front, name, value, back, -⟩ := readable
    have equals : Readable "=" := by simp [Readable]
    simp only [text, readable_append]
    exact ⟨⟨front, ⟨name, equals⟩, readable_written value quoted⟩, back⟩
  | other readable _ => exact readable

theorem Legal.single {piece : Piece} (legal : piece.Legal) : ';' ∉ piece.text.toList := by
  cases legal with
  | @cookie front name value back quoted _ around nameWhole _ valueWhole _ _ =>
    have blankless : ∀ {c : Char}, c ∈ front.toList ++ back.toList → c ≠ ';' := by
      rintro c member rfl
      exact absurd (around _ member) (by decide)
    intro member
    simp only [text, written, String.toList_append, List.mem_append] at member
    rcases member with (member | (member | member) | member) | member
    · exact blankless (List.mem_append_left _ member) rfl
    · exact (nameWhole _ member).2 rfl
    · exact absurd member (by simp)
    · split at member
      · simp only [String.toList_append, List.mem_append] at member
        rcases member with (member | member) | member
        · exact absurd member (by simp)
        · exact valueWhole _ member rfl
        · exact absurd member (by simp)
      · exact valueWhole _ member rfl
    · exact blankless (List.mem_append_right _ member) rfl
  | other _ whole => exact fun member => (whole _ member).2 rfl

theorem strip_written {value : String} (bare : Text.Bare Text.isBlank value.toList)
    (unquoted : Text.Bare (· == '\x22') value.toList) (quoted : Bool) :
    Text.Bare Text.isBlank (written value quoted).toList ∧
      Text.strip (· == '\x22') (written value quoted).toList = value.toList := by
  unfold written
  split
  · have parts : ("\x22" ++ value ++ "\x22").toList = ['\x22'] ++ value.toList ++ ['\x22'] := by simp
    rw [parts]
    constructor
    · have blank : Text.isBlank '\x22' = false := by decide
      exact ⟨by simp [blank], by rw [List.getLast?_concat]; simp [blank]⟩
    · rw [Text.strip_append (by simp) (by simp), Text.strip_of_bare unquoted]
  · exact ⟨bare, Text.strip_of_bare unquoted⟩

theorem Legal.read {piece : Piece} (legal : piece.Legal) : cookiePair? piece.text.toList = piece.pair? := by
  cases legal with
  | @cookie front name value back quoted _ around nameWhole nameBare _ valueBare unquoted =>
    obtain ⟨writtenBare, stripped⟩ := strip_written valueBare unquoted quoted
    have equals : Text.isBlank '=' = false := by decide
    have core : (name ++ "=" ++ written value quoted).toList = name.toList ++ '=' :: (written value quoted).toList := by
      simp
    have bare : Text.Bare Text.isBlank (name.toList ++ '=' :: (written value quoted).toList) := by
      refine ⟨?_, ?_⟩
      · cases first : name.toList with
        | nil => simp [equals]
        | cons c rest => simpa [first] using nameBare.1
      · cases last : (written value quoted).toList using List.reverseRecOn with
        | nil => simp [equals]
        | append_singleton rest c => simpa [last, List.getLast?_append, List.getLast?_cons] using writtenBare.2
    have parts : Text.cut (· == '=') (name.toList ++ '=' :: (written value quoted).toList) =
        (name.toList, some (written value quoted).toList) :=
      Text.cut_append (fun c member => beq_eq_false_iff_ne.mpr (nameWhole c member).1) (beq_self_eq_true '=')
    rw [cookiePair?, text, String.toList_append, String.toList_append,
      Text.strip_append (fun c member => around c (List.mem_append_left _ member))
        (fun c member => around c (List.mem_append_right _ member)), core, Text.strip_of_bare bare, parts]
    simp only [Text.strip_of_bare writtenBare, stripped, String.ofList_toList, pair?]
  | @other text _ whole =>
    have unequal : ∀ c ∈ Text.strip Text.isBlank text.toList, (c == '=') = false := by
      intro c member
      obtain ⟨front, back, parts, -, -⟩ := Text.exists_strip Text.isBlank text.toList
      have among : c ∈ text.toList := by
        rw [parts]
        exact List.mem_append_left _ (List.mem_append_right _ member)
      exact beq_eq_false_iff_ne.mpr (whole c among).1
    rw [cookiePair?, Piece.text, Text.cut_whole unequal]
    rfl

end Piece

theorem CookieField.Legal.read {field : CookieField} (legal : field.Legal) :
    (match readable? field.octets with
      | none => []
      | some text => (Text.split (· == ';') text.toList).filterMap cookiePair?) = field.pairs := by
  cases field with
  | unreadable octets =>
    have unreadable : readable? octets = none := legal
    simp only [CookieField.octets, unreadable, CookieField.pairs]
  | joined pieces =>
    have legal : ∀ piece ∈ pieces, piece.Legal := legal
    have readable : Readable (";".intercalate (pieces.map Piece.text)) := by
      rw [readable_intercalate (by simp [Readable])]
      intro text member
      obtain ⟨piece, among, rfl⟩ := List.mem_map.mp member
      exact (legal piece among).readable
    have read : readable? (Text.encode (";".intercalate (pieces.map Piece.text))) = _ := readable.read
    simp only [CookieField.octets, read, CookieField.pairs]
    cases pieces with
    | nil => rfl
    | cons first others =>
      have whole : (";".intercalate ((first :: others).map Piece.text)).toList =
          [';'].intercalate (((first :: others).map Piece.text).map String.toList) := by
        rw [String.toList_intercalate]
        rfl
      have single : ∀ piece ∈ ((first :: others).map Piece.text).map String.toList, ';' ∉ piece := by
        intro text member
        obtain ⟨_, written, rfl⟩ := List.mem_map.mp member
        obtain ⟨piece, among, rfl⟩ := List.mem_map.mp written
        exact (legal piece among).single
      rw [whole, Text.split_intercalate (by simp) single, List.map_map, List.filterMap_map]
      exact List.filterMap_congr fun piece member => (legal piece member).read

theorem cookies_written {headers : Headers} {fields : List CookieField} (legal : ∀ field ∈ fields, field.Legal)
    (sent : headers.all "cookie" = fields.map CookieField.octets) :
    cookies headers = fields.flatMap CookieField.pairs := by
  rw [cookies, sent, List.flatMap_map]
  exact List.flatMap_congr fun field member => (legal field member).read

def SameLetter (c letter : Char) : Prop := c = letter ∨ c = letter.toUpper

def IsBearer (scheme : String) : Prop := List.Forall₂ SameLetter scheme.toList ['b', 'e', 'a', 'r', 'e', 'r']

theorem toLower_eq_iff {letter : Char} (among : letter ∈ ['b', 'e', 'a', 'r']) (c : Char) :
    c.toLower = letter ↔ SameLetter c letter := by
  have each : ∀ octet : UInt8, octet < 0x80 → ['b', 'e', 'a', 'r'].all (fun letter =>
      (Char.ofUInt8 octet).toLower = letter ↔ Char.ofUInt8 octet = letter ∨ Char.ofUInt8 octet = letter.toUpper) =
        true := forall_octet (by decide)
  have letters : ['b', 'e', 'a', 'r'].all (fun letter => letter.val < 0x80 ∧ letter.toUpper.val < 0x80) = true := by
    decide
  by_cases ascii : c.val < 0x80
  · obtain ⟨octet, small, rfl⟩ := Text.eq_ofUInt8 ascii
    rw [SameLetter]
    exact of_decide_eq_true (List.all_eq_true.mp (each octet small) letter among)
  · have unlike : ∀ d : Char, d.val < 0x80 → c ≠ d := fun d plain same => ascii (same ▸ plain)
    have kept : c.toLower = c := by
      have beyond := Text.toNat_beyond ascii
      unfold Char.toLower
      rw [dif_neg]
      rintro ⟨-, most⟩
      rw [UInt32.le_iff_toNat_le] at most
      change c.toNat ≤ 90 at most
      omega
    obtain ⟨plain, upper⟩ := of_decide_eq_true (List.all_eq_true.mp letters letter among)
    rw [kept]
    exact iff_of_false (unlike _ plain) (not_or.mpr ⟨unlike _ plain, unlike _ upper⟩)

theorem map_toLower_eq_iff {letters : List Char} (among : letters ⊆ ['b', 'e', 'a', 'r']) (chars : List Char) :
    chars.map Char.toLower = letters ↔ List.Forall₂ SameLetter chars letters := by
  induction chars generalizing letters with
  | nil => cases letters <;> simp
  | cons c chars ih =>
    cases letters with
    | nil => simp
    | cons letter letters =>
      obtain ⟨first, others⟩ := List.cons_subset.mp among
      rw [List.map_cons, List.cons.injEq, List.forall₂_cons, toLower_eq_iff first, ih others]

theorem lowerAscii_eq_bearer_iff {scheme : String} : Text.lowerAscii scheme = "bearer" ↔ IsBearer scheme := by
  rw [← String.toList_inj, Text.lowerAscii, String.toList_map]
  exact map_toLower_eq_iff (by decide) _

/-- A scheme for tokens, one space, and a token with blanks around it, all of it readable. -/
def HoldsBearer (value : Octets) (token : String) : Prop :=
  ∃ scheme front back, Readable (scheme ++ " " ++ (front ++ token ++ back)) ∧
    value = Text.encode (scheme ++ " " ++ (front ++ token ++ back)) ∧ IsBearer scheme ∧
    (∀ c ∈ front.toList ++ back.toList, Text.isBlank c = true) ∧ token ≠ "" ∧ Text.Bare Text.isBlank token.toList

theorem IsBearer.unspaced {scheme : String} (bearer : IsBearer scheme) : ' ' ∉ scheme.toList := by
  intro member
  have lowered := congrArg String.toList (lowerAscii_eq_bearer_iff.mpr bearer)
  rw [Text.lowerAscii, String.toList_map] at lowered
  have among : (' ').toLower ∈ "bearer".toList := by
    rw [← lowered]
    exact List.mem_map_of_mem member
  exact absurd among (by simp)

theorem trim_append {front back : String} (around : ∀ c ∈ front.toList ++ back.toList, Text.isBlank c = true)
    (text : String) : Text.trim (front ++ text ++ back) = Text.trim text := by
  rw [Text.trim, String.toList_append, String.toList_append,
    Text.strip_append (fun c member => around c (List.mem_append_left _ member))
      (fun c member => around c (List.mem_append_right _ member)), Text.trim]

theorem ofBearer_eq_ok_iff {text token : String} :
    ofBearer text = .ok token ↔
      ∃ scheme front back, text = scheme ++ " " ++ (front ++ token ++ back) ∧ IsBearer scheme ∧
        (∀ c ∈ front.toList ++ back.toList, Text.isBlank c = true) ∧ token ≠ "" ∧
          Text.Bare Text.isBlank token.toList := by
  constructor
  · intro accepted
    by_cases spaced : ' ' ∈ text.toList
    · obtain ⟨scheme, rest, parts, unspaced⟩ := List.eq_append_cons_of_mem spaced
      rw [ofBearer, parts, Text.cut_append (Text.beq_of_not_mem unspaced) (beq_self_eq_true ' ')] at accepted
      simp only at accepted
      split at accepted
      · cases accepted
      · rename_i named
        split at accepted
        · cases accepted
        · rename_i full
          obtain ⟨front, back, whole, before, after⟩ := Text.exists_strip Text.isBlank rest
          have token := Except.ok.inj accepted
          rw [Text.trim, String.toList_ofList] at token
          subst token
          refine ⟨String.ofList scheme, String.ofList front, String.ofList back, ?_,
            lowerAscii_eq_bearer_iff.mp (not_not.mp named), ?_, ?_, ?_⟩
          · rw [← String.toList_inj, parts]
            nth_rewrite 1 [whole]
            simp
          · simpa [or_imp, forall_and] using ⟨before, after⟩
          · intro blank
            exact full (String.isEmpty_iff.mpr (by rw [Text.trim, String.toList_ofList, blank]))
          · rw [String.toList_ofList]
            exact Text.bare_strip _ _
    · rw [ofBearer, Text.cut_whole (Text.beq_of_not_mem spaced)] at accepted
      cases accepted
  · rintro ⟨scheme, front, back, rfl, bearer, around, nonempty, bare⟩
    have parts : (scheme ++ " " ++ (front ++ token ++ back)).toList =
        scheme.toList ++ ' ' :: (front ++ token ++ back).toList := by simp
    rw [ofBearer, parts, Text.cut_append (Text.beq_of_not_mem bearer.unspaced) (beq_self_eq_true ' ')]
    have trimmed : Text.trim token = token := by
      rw [Text.trim, Text.strip_of_bare bare, String.ofList_toList]
    simp only [String.ofList_toList, lowerAscii_eq_bearer_iff.mpr bearer, trim_append around, trimmed]
    simp [nonempty]

theorem bearer_eq_ok_iff {headers : Headers} {token : String} : bearer headers = .ok token ↔
    ∃ value, headers.first? "authorization" = some value ∧ HoldsBearer value token := by
  unfold bearer
  cases headers.first? "authorization" with
  | none => simp
  | some value =>
    simp only [Option.some.injEq, exists_eq_left', HoldsBearer]
    cases read : readable? value with
    | none =>
      refine iff_of_false nofun ?_
      rintro ⟨_, _, _, readable, rfl, -⟩
      rw [readable.read] at read
      cases read
    | some text =>
      obtain ⟨readable, rfl⟩ := readable?_eq_some_iff.mp read
      simp only [ofBearer_eq_ok_iff]
      constructor
      · rintro ⟨scheme, front, back, rfl, form⟩
        exact ⟨scheme, front, back, readable, rfl, form⟩
      · rintro ⟨scheme, front, back, -, same, form⟩
        exact ⟨scheme, front, back, Text.encode_injective same, form⟩

theorem ofBearer_ne_missing (text : String) : ofBearer text ≠ .error .missing := by
  unfold ofBearer
  split
  · simp
  · split
    · simp
    · dsimp only
      split <;> simp

theorem bearer_eq_missing_iff {headers : Headers} :
    bearer headers = .error .missing ↔ headers.first? "authorization" = none := by
  unfold bearer
  cases headers.first? "authorization" with
  | none => simp
  | some value =>
    dsimp only
    cases readable? value with
    | none => simp
    | some text => simpa using ofBearer_ne_missing text

theorem cookie_none {headers : Headers} {name : String} (none : ∀ pair ∈ cookies headers, pair.1 ≠ name) :
    cookie headers name = .error .missing := by
  have absent : (cookies headers).lookup name = .none := by
    rw [List.lookup_eq_none_iff]
    exact fun pair member => bne_iff_ne.mpr (none pair member).symm
  rw [cookie, absent]

theorem cookie_first {headers : Headers} {name value : String} {before after : List (String × String)}
    (pairs : cookies headers = before ++ (name, value) :: after) (first : ∀ pair ∈ before, pair.1 ≠ name) :
    cookie headers name = if value = "" then .error .empty else .ok value := by
  have found : (cookies headers).lookup name = some value :=
    List.lookup_eq_some_iff.mpr ⟨before, after, pairs, fun pair member => bne_iff_ne.mpr (first pair member).symm⟩
  simp only [cookie, found, String.isEmpty_iff]

/-- Cookies are found as they were written, the first of a name counting even if it is empty. A header's token is what
follows the scheme, and is taken before any cookie's; without either, it is the header's failure that is told, if there
is a header. -/
theorem ofRequest_written (headers : Headers) (name : String) :
    (∀ fields : List CookieField, (∀ field ∈ fields, field.Legal) →
      headers.all "cookie" = fields.map CookieField.octets →
        ((∀ pair ∈ fields.flatMap CookieField.pairs, pair.1 ≠ name) → cookie headers name = .error .missing) ∧
        ∀ before value after, fields.flatMap CookieField.pairs = before ++ (name, value) :: after →
          (∀ pair ∈ before, pair.1 ≠ name) →
            cookie headers name = if value = "" then .error .empty else .ok value) ∧
    (∀ token, bearer headers = .ok token ↔
      ∃ value, headers.first? "authorization" = some value ∧ HoldsBearer value token) ∧
    (∀ token, bearer headers = .ok token → ofRequest headers name = .ok token) ∧
    (∀ headerError token, bearer headers = .error headerError → cookie headers name = .ok token →
      ofRequest headers name = .ok token) ∧
    ∀ headerError cookieError, bearer headers = .error headerError → cookie headers name = .error cookieError →
      ofRequest headers name =
        .error (if headers.first? "authorization" = none then cookieError else headerError) := by
  refine ⟨fun fields legal sent => ?_, fun token => bearer_eq_ok_iff, fun token accepted => ?_, ?_, ?_⟩
  · rw [← cookies_written legal sent]
    exact ⟨cookie_none, fun before value after => cookie_first⟩
  · rw [ofRequest, accepted]
  · intro headerError token refused found
    rw [ofRequest, refused, found]
    rfl
  · intro headerError cookieError refused failed
    have present : headers.first? "authorization" = none ↔ headerError = .missing := by
      rw [← bearer_eq_missing_iff, refused, Except.error.injEq]
    rw [ofRequest, refused, failed]
    simp only [Except.mapError, present]

def mixedFields : List CookieField :=
  [.unreadable [0xE9], .joined [.other "dark", .cookie " " "token" "a=b" true "\t", .cookie "" "token" "" false ""]]

def mixedHeaders : Headers := mixedFields.map fun field => ("cookie", field.octets)

theorem mixedFields_legal : ∀ field ∈ mixedFields, field.Legal := by
  have space : Text.isBlank ' ' = true := by decide
  have tab : Text.isBlank '\t' = true := by decide
  have bare : Text.Bare Text.isBlank "token".toList := ⟨by simp; decide, by simp; decide⟩
  simp only [mixedFields, List.forall_mem_cons]
  refine ⟨show readable? [0xE9] = none by decide, ?_, nofun⟩
  change ∀ piece ∈ _, Piece.Legal piece
  simp only [List.forall_mem_cons]
  refine ⟨.other (by simp [Readable]) (by simp), ?_, ?_, nofun⟩
  · exact .cookie true (by simp [Readable]) (by simp [space, tab]) (by simp) bare (by simp)
      ⟨by simp; decide, by simp; decide⟩ ⟨by simp, by simp⟩
  · exact .cookie false (by simp [Readable]) (by simp) (by simp) bare (by simp) ⟨by simp, by simp⟩ ⟨by simp, by simp⟩

theorem ofRequest_written_mixed :
    cookie mixedHeaders "token" = .ok "a=b" ∧ cookie mixedHeaders "dark" = .error .missing ∧
      ofRequest [("cookie", Text.encode "token=a"), ("authorization", Text.encode "BEARER  t ")] "token" = .ok "t" ∧
      ofRequest [("cookie", Text.encode "token=a"), ("authorization", Text.encode "Bearer")] "token" = .ok "a" ∧
      ofRequest [("cookie", Text.encode "token="), ("authorization", Text.encode "Bearer")] "token" =
        .error .invalidFormat := by
  have holds : HoldsBearer (Text.encode "BEARER  t ") "t" := by
    have space : Text.isBlank ' ' = true := by decide
    exact ⟨"BEARER", " ", " ", by simp [Readable], rfl, by simp [IsBearer, SameLetter], by simp [space], by simp,
      by simp; decide, by simp; decide⟩
  obtain ⟨cookies, -⟩ := ofRequest_written mixedHeaders "token"
  obtain ⟨none, -⟩ := ofRequest_written mixedHeaders "dark"
  obtain ⟨-, accepts, first, -⟩ :=
    ofRequest_written [("cookie", Text.encode "token=a"), ("authorization", Text.encode "BEARER  t ")] "token"
  obtain ⟨-, -, -, second, -⟩ :=
    ofRequest_written [("cookie", Text.encode "token=a"), ("authorization", Text.encode "Bearer")] "token"
  obtain ⟨-, -, -, -, fails⟩ :=
    ofRequest_written [("cookie", Text.encode "token="), ("authorization", Text.encode "Bearer")] "token"
  refine ⟨?_, ?_, first _ ((accepts "t").mpr ⟨_, rfl, holds⟩), second .invalidFormat _ ?_ ?_,
    fails .invalidFormat .empty ?_ ?_⟩
  · exact (cookies _ mixedFields_legal rfl).2 [] "a=b" [("token", "")] rfl (by simp)
  · exact (none _ mixedFields_legal rfl).1 (by decide)
  all_goals rfl

end LoginGateway.PresentedToken
