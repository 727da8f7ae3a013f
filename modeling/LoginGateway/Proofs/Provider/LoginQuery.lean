import LoginGateway.Proofs.Provider.AuthorizationUrl
import LoginGateway.Proofs.Text.Words
import LoginGateway.Provider.Scopes

namespace LoginGateway

namespace Scopes

open Text

def Entry (scope : String) : Prop := scope ≠ "" ∧ ∀ c ∈ scope.toList, isBlank c = false

theorem Entry.forClient {client : String} (entry : Entry client) : Entry (audience ++ client) := by
  have unspaced : ∀ c ∈ audience.toList, isBlank c = false := by simp [Scopes.audience, isBlank]
  refine ⟨by simp [Scopes.audience], fun c member => ?_⟩
  rw [String.toList_append, List.mem_append] at member
  rcases member with member | member
  · exact unspaced c member
  · exact entry.2 c member

theorem forLogin_entries (extra clients : String) (offlineAsScope : Bool) :
    ∀ scope ∈ forLogin extra clients offlineAsScope, Entry scope := by
  have fixed : ∀ scope ∈ offlineAccess :: base, Entry scope := by
    simp [Entry, offlineAccess, base, isBlank]
  have words : ∀ text : String, ∀ word ∈ words text, Entry word :=
    fun text => (worded_iff.mpr rfl : Worded text.toList (Text.words text)).word_of_mem
  intro scope member
  simp only [forLogin, List.mem_append, List.mem_map] at member
  rcases member with ((member | member) | ⟨client, member, rfl⟩) | member
  · exact fixed scope (List.mem_cons_of_mem _ member)
  · exact words extra scope member
  · exact (words clients client member).forClient
  · split at member
    · exact fixed scope (List.mem_singleton.mp member ▸ List.mem_cons_self)
    · cases member

theorem split_forLogin (extra clients : String) (offlineAsScope : Bool) :
    (split (· == ' ') (" ".intercalate (forLogin extra clients offlineAsScope)).toList).map String.ofList =
      forLogin extra clients offlineAsScope := by
  have joined : (" ".intercalate (forLogin extra clients offlineAsScope)).toList =
      [' '].intercalate ((forLogin extra clients offlineAsScope).map String.toList) := by
    rw [String.toList_intercalate]
    rfl
  have some : (forLogin extra clients offlineAsScope).map String.toList ≠ [] := by simp [forLogin, base]
  have single : ∀ piece ∈ (forLogin extra clients offlineAsScope).map String.toList, ' ' ∉ piece := by
    intro piece member space
    obtain ⟨scope, sent, rfl⟩ := List.mem_map.mp member
    have unspaced := (forLogin_entries extra clients offlineAsScope scope sent).2 ' ' space
    exact absurd unspaced (by decide)
  rw [joined, split_intercalate some single, List.map_map]
  exact List.map_id'' (fun scope => String.ofList_toList) _

end Scopes

namespace ProviderClient

/-- The text of a URL before its first question mark, and the text after it if there is one. -/
def CutAtQuery (url path : String) (query : Option String) : Prop :=
  '?' ∉ path.toList ∧ url = path ++ ((query.map ("?" ++ ·)).getD "")

theorem CutAtQuery.cut_eq {url path : String} {query : Option String} (cut : CutAtQuery url path query) :
    Text.cut (· == '?') url.toList = (path.toList, query.map String.toList) := by
  obtain ⟨first, rfl⟩ := cut
  cases query with
  | none =>
    rw [Option.map_none, Option.getD_none, String.append_empty, Text.cut_whole (Text.beq_of_not_mem first),
      Option.map_none]
  | some query =>
    have parts : (path ++ ((some query).map ("?" ++ ·)).getD "").toList = path.toList ++ '?' :: query.toList := by simp
    rw [parts, Text.cut_append (Text.beq_of_not_mem first) (beq_self_eq_true '?'), Option.map_some]

theorem CutAtQuery.unique {url path path' : String} {query query' : Option String} (cut : CutAtQuery url path query)
    (cut' : CutAtQuery url path' query') : path = path' ∧ query = query' := by
  have same := cut.cut_eq.symm.trans cut'.cut_eq
  obtain ⟨paths, queries⟩ := Prod.mk.inj same
  exact ⟨String.toList_inj.mp paths, Option.map_injective (fun _ _ => String.toList_inj.mp) queries⟩

theorem exists_cutAtQuery (url : String) : ∃ path own, CutAtQuery url path own := by
  by_cases asked : '?' ∈ url.toList
  · obtain ⟨path, own, parts, first⟩ := List.eq_append_cons_of_mem asked
    refine ⟨String.ofList path, some (String.ofList own), by simpa using first, ?_⟩
    apply String.toList_inj.mp
    simp [parts]
  · exact ⟨url, none, asked, by simp⟩

theorem CutAtQuery.append {url path : String} {own : Option String} (cut : CutAtQuery url path own) (query : String) :
    CutAtQuery (url ++ (if url.toList.contains '?' then "&" else "?") ++ query) path
      (some ((own.map (· ++ "&")).getD "" ++ query)) := by
  obtain ⟨first, rfl⟩ := cut
  refine ⟨first, ?_⟩
  cases own with
  | none =>
    have plain : '?' ∉ (path ++ "").toList := by simpa using first
    simp [String.append_assoc, first]
  | some own => simp [String.append_assoc]

theorem decode_after (own : Option String) (query : String) :
    Form.decode (Text.encode ((own.map (· ++ "&")).getD "" ++ query)) =
      Form.decode (Text.encode (own.getD "")) ++ Form.decode (Text.encode query) := by
  cases own with
  | none =>
    have none : Form.decode (Text.encode "") = [] := by decide
    simp [none]
  | some own =>
    have octets : Text.encode (own ++ "&" ++ query) = Text.encode own ++ 0x26 :: Text.encode query := by
      rw [Text.encode_append, Text.encode_append, List.append_assoc]
      rfl
    simp only [Option.map_some, Option.getD_some, octets, Form.decode_append]

/-- Before its first question mark the URL of a login is that of the endpoint. The query is read as the endpoint's own
parameters and then those of the login, with the texts that were given. Of the scopes of a login, the text in the query
splits at its spaces into those of every login, the words of the extra ones, one for each client, and last the one for
a refresh token if that is asked for by a scope; so no scope is empty and none has a blank in it. -/
theorem login_url_decodes {client : ProviderClient} (unfragmented : '#' ∉ client.authorizationEndpoint.toList)
    (state : String) (scopes : List String) (offline : Bool) :
    '#' ∉ (client.authorizationUrl state scopes offline).toList ∧
    ∃ path own query scope, CutAtQuery client.authorizationEndpoint path own ∧
      CutAtQuery (client.authorizationUrl state scopes offline) path (some query) ∧
      Form.decode (Text.encode query) =
        Form.decode (Text.encode (own.getD "")) ++ (if offline then [("access_type", "offline")] else []) ++
          [("client_id", client.clientId), ("redirect_uri", client.redirectUri), ("response_type", "code"),
            ("scope", scope), ("state", state)] ∧
      scope = " ".intercalate scopes ∧
      ∀ extra clients offlineAsScope, scopes = Scopes.forLogin extra clients offlineAsScope →
        ∃ extras others entries, Text.Worded extra.toList extras ∧ Text.Worded clients.toList others ∧
          entries = ["openid", "profile", "email"] ++ extras ++ others.map ("audience:server:client_id:" ++ ·) ++
            (if offlineAsScope then ["offline_access"] else []) ∧
          (Text.split (· == ' ') scope.toList).map String.ofList = entries ∧
          ∀ entry ∈ entries, entry ≠ "" ∧ ∀ c ∈ entry.toList, Text.isBlank c = false := by
  obtain ⟨path, own, cut⟩ := exists_cutAtQuery client.authorizationEndpoint
  have located := cut.append (Form.urlQuery (client.loginParams state scopes offline))
  rw [← authorizationUrl_eq] at located
  have read := decode_after own (Form.urlQuery (client.loginParams state scopes offline))
  rw [Form.decode_urlQuery, loginParams, ← List.append_assoc] at read
  refine ⟨unfragmented_authorizationUrl unfragmented state scopes offline, path, own, _, _, cut, located, read, rfl, ?_⟩
  rintro extra clients offlineAsScope rfl
  exact ⟨_, _, _, Text.worded_iff.mpr rfl, Text.worded_iff.mpr rfl, rfl, Scopes.split_forLogin ..,
    Scopes.forLogin_entries extra clients offlineAsScope⟩

def markedClient : ProviderClient where
  authorizationEndpoint := "https://idp.example/auth?tenant=a%20b"
  tokenEndpoint := "https://idp.example/token"
  clientId := "gate&way=+%#"
  clientSecret := "s3cret"
  redirectUri := "http://é/callback"

theorem login_url_decodes_marked :
    '#' ∉ markedClient.authorizationEndpoint.toList ∧
    ∃ query, CutAtQuery (markedClient.authorizationUrl "a?b" (Scopes.forLogin "groups\t x" "kubectl" true) true)
        "https://idp.example/auth" (some query) ∧
      Form.decode (Text.encode query) =
        [("tenant", "a b"), ("access_type", "offline"), ("client_id", "gate&way=+%#"),
          ("redirect_uri", "http://é/callback"), ("response_type", "code"),
          ("scope", "openid profile email groups x audience:server:client_id:kubectl offline_access"),
          ("state", "a?b")] := by
  have unfragmented : '#' ∉ markedClient.authorizationEndpoint.toList := by simp [markedClient]
  have own : CutAtQuery markedClient.authorizationEndpoint "https://idp.example/auth" (some "tenant=a%20b") :=
    ⟨by simp, rfl⟩
  have tenant : Form.decode (Text.encode "tenant=a%20b") = [("tenant", "a b")] := by decide +kernel
  obtain ⟨-, path, found, query, scope, cut, located, read, rfl, -⟩ :=
    login_url_decodes unfragmented "a?b" (Scopes.forLogin "groups\t x" "kubectl" true) true
  obtain ⟨rfl, rfl⟩ := cut.unique own
  refine ⟨unfragmented, query, located, read.trans ?_⟩
  rw [Option.getD_some, tenant]
  rfl

end ProviderClient

end LoginGateway
