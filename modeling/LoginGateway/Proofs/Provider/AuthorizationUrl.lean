import LoginGateway.Http.Incoming
import LoginGateway.Proofs.Encoding.Percent
import LoginGateway.Proofs.Http.Fields
import LoginGateway.Provider.Client

namespace LoginGateway

open Http

namespace Http.Target

theorem ofText_query (text : String) :
    (ofText text).query = (Text.cut (· == '?') (text.toList.takeWhile (· != '#'))).2.map String.ofList := rfl

theorem params_append {url query : String} (unfragmented : '#' ∉ url.toList) (unfragmented' : '#' ∉ query.toList) :
    (ofText (url ++ (if url.toList.contains '?' then "&" else "?") ++ query)).params =
      (ofText url).params ++ Form.decode (Text.encode query) := by
  by_cases asked : '?' ∈ url.toList
  · obtain ⟨path, own, parts, first⟩ := List.eq_append_cons_of_mem asked
    have joined : (url ++ "&" ++ query).toList = path ++ '?' :: (own ++ '&' :: query.toList) := by
      simp [parts]
    have whole : '#' ∉ (url ++ "&" ++ query).toList := by simp [unfragmented, unfragmented']
    have octets : Text.encode (String.ofList (own ++ '&' :: query.toList)) =
        Text.encode (String.ofList own) ++ 0x26 :: Text.encode query := by
      rw [Text.encode_ofList, List.flatMap_append, List.flatMap_cons, ← Text.encode_ofList, Text.encode_eq query]
      rfl
    rw [if_pos (by simpa using asked), params, params, ofText_query, ofText_query, Text.takeWhile_of_not_mem whole,
      Text.takeWhile_of_not_mem unfragmented, joined, parts,
      Text.cut_append (Text.beq_of_not_mem first) (beq_self_eq_true '?'),
      Text.cut_append (Text.beq_of_not_mem first) (beq_self_eq_true '?')]
    simp only [Option.map_some, Option.getD_some]
    rw [octets, Form.decode_append]
  · have joined : (url ++ "?" ++ query).toList = url.toList ++ '?' :: query.toList := by simp
    have whole : '#' ∉ (url ++ "?" ++ query).toList := by simp [unfragmented, unfragmented']
    have none : Form.decode (Text.encode "") = [] := by decide
    rw [if_neg (by simpa using asked), params, params, ofText_query, ofText_query, Text.takeWhile_of_not_mem whole,
      Text.takeWhile_of_not_mem unfragmented, joined,
      Text.cut_append (Text.beq_of_not_mem asked) (beq_self_eq_true '?'), Text.cut_whole (Text.beq_of_not_mem asked)]
    simp only [Option.map_some, Option.getD_some, Option.map_none, Option.getD_none]
    rw [none, String.ofList_toList, List.nil_append]

end Http.Target

namespace ProviderClient

def loginParams (client : ProviderClient) (state : String) (scopes : List String) (offline : Bool) : Params :=
  (if offline then [("access_type", "offline")] else []) ++
    [("client_id", client.clientId), ("redirect_uri", client.redirectUri), ("response_type", "code"),
      ("scope", " ".intercalate scopes), ("state", state)]

theorem authorizationUrl_eq (client : ProviderClient) (state : String) (scopes : List String) (offline : Bool) :
    client.authorizationUrl state scopes offline =
      client.authorizationEndpoint ++ (if client.authorizationEndpoint.toList.contains '?' then "&" else "?") ++
        Form.urlQuery (client.loginParams state scopes offline) := by
  have written : ∀ name value, name.toList.all Percent.isUnreserved = true →
      Form.urlPair (name, value) = name ++ "=" ++ Percent.encode Percent.isUnreserved value := by
    intro name value kept
    rw [Form.urlPair, Percent.encode_kept kept]
  have offlineText : Percent.encode Percent.isUnreserved "offline" = "offline" := Percent.encode_kept (by decide)
  have codeText : Percent.encode Percent.isUnreserved "code" = "code" := Percent.encode_kept (by decide)
  have query : Form.urlQuery (client.loginParams state scopes offline) =
      (if offline then "access_type=offline&" else "")
        ++ "client_id=" ++ Percent.encode Percent.isUnreserved client.clientId
        ++ "&redirect_uri=" ++ Percent.encode Percent.isUnreserved client.redirectUri
        ++ "&response_type=code&scope=" ++ Percent.encode Percent.isUnreserved (" ".intercalate scopes)
        ++ "&state=" ++ Percent.encode Percent.isUnreserved state := by
    apply String.toList_inj.mp
    cases offline <;>
      simp (disch := decide) [Form.urlQuery, loginParams, written, offlineText, codeText, String.intercalate_cons_cons]
  rw [authorizationUrl, query]
  simp only [String.append_assoc]

theorem unfragmented_urlQuery (pairs : List (String × String)) : '#' ∉ (Form.urlQuery pairs).toList := by
  intro member
  rcases Form.mem_urlQuery member with kept | escape | equals | joins
  · exact absurd kept (by decide)
  · exact absurd escape (by decide)
  · exact absurd equals (by decide)
  · exact absurd joins (by decide)

theorem unfragmented_authorizationUrl {client : ProviderClient}
    (unfragmented : '#' ∉ client.authorizationEndpoint.toList) (state : String) (scopes : List String) (offline : Bool) :
    '#' ∉ (client.authorizationUrl state scopes offline).toList := by
  have joint : '#' ∉ (if client.authorizationEndpoint.toList.contains '?' then "&" else "?").toList := by
    split <;> decide
  rw [authorizationUrl_eq, String.toList_append, String.toList_append, List.mem_append, List.mem_append, not_or, not_or]
  exact ⟨⟨unfragmented, joint⟩, unfragmented_urlQuery _⟩

theorem params_authorizationUrl {client : ProviderClient} (unfragmented : '#' ∉ client.authorizationEndpoint.toList)
    (state : String) (scopes : List String) (offline : Bool) :
    (Target.ofText (client.authorizationUrl state scopes offline)).params =
      (Target.ofText client.authorizationEndpoint).params ++ client.loginParams state scopes offline := by
  rw [authorizationUrl_eq, Target.params_append unfragmented (unfragmented_urlQuery _), Form.decode_urlQuery]

theorem isValue_authorizationUrl {client : ProviderClient}
    (legal : isValue (Text.encode client.authorizationEndpoint) = true) (state : String) (scopes : List String)
    (offline : Bool) : isValue (Text.encode (client.authorizationUrl state scopes offline)) = true := by
  have joint : isValue (Text.encode (if client.authorizationEndpoint.toList.contains '?' then "&" else "?")) = true := by
    split <;> decide
  have query : isValue (Text.encode (Form.urlQuery (client.loginParams state scopes offline))) = true := by
    have each : ∀ octet : UInt8, octet < 0x80 → Percent.isUnreserved (Char.ofUInt8 octet) = true →
        0x20 ≤ (Char.ofUInt8 octet).toNat ∧ (Char.ofUInt8 octet).toNat ≠ 0x7F := forall_octet (by decide)
    rw [isValue_encode_iff]
    intro c member
    rcases Form.mem_urlQuery member with kept | rfl | rfl | rfl
    · obtain ⟨octet, small, rfl⟩ := Text.eq_ofUInt8 (Percent.isUnreserved_ascii kept)
      exact .inl (each octet small kept)
    all_goals decide
  rw [authorizationUrl_eq, Text.encode_append, Text.encode_append, isValue_append, isValue_append, legal, joint, query]
  rfl

end ProviderClient

end LoginGateway
