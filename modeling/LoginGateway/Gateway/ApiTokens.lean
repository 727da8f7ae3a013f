import LoginGateway.Gateway.Authorize
import LoginGateway.Gateway.Login

namespace LoginGateway.Gateway

open Http

variable {σ : Type} [TokenStore σ]

def creationWarning : String :=
  "Please make sure to store this API token securely, you won't be able to see it again after you leave this page."

def requestedName (query : Params) (form : Option Params) : String :=
  ((form.bind (·.get? "name")).or (query.get? "name")).getD ""

def missingName (deed : String) : Reply :=
  .badRequest ("name parameter missing. Please specify the name of the API token you wish to " ++ deed)

def listTokens (store : σ) : Reply :=
  .json 200 [("tokens", Json.list ((TokenStore.nameList store).map Json.quote))]

def created (name token : String) : Reply :=
  .json 200 [("api_token", Json.quote token), ("token_name", Json.quote name),
    ("warning", Json.quote creationWarning)]

def grantToken (settings : Settings) (moment : Moment) (name : String) (identity : Identity) (store : σ)
    (wire : Wire) : Served σ :=
  match (TokenStore.generate store (settings.signer moment) .api identity.user identity.email).1 with
  | .error error =>
    ⟨some (.serverError ("Error generating API token: " ++ error.message (settings.wording .apiToken))), store, wire,
      none⟩
  | .ok token =>
    match register store name token identity.user with
    | (.error error, store) =>
      ⟨some (.serverError ("Error storing new API token: " ++ error.message (settings.wording .apiToken))), store, wire,
        some token⟩
    | (.ok (), store) => ⟨some (created name token), store, wire, some token⟩

def createToken (settings : Settings) (moment : Moment) (headers : Headers) (requested : String) (store : σ)
    (wire : Wire) : Served σ :=
  let name := Text.trim requested
  if name.isEmpty then ⟨some (missingName "create"), store, wire, none⟩
  else if TokenStore.containsName store name then
    ⟨some (.badRequest ("API token " ++ name ++ " already exists")), store, wire, none⟩
  else match authorize settings moment.now headers store wire with
    | (.error .crash, store, wire) => ⟨none, store, wire, none⟩
    | (.error (.error denial), store, wire) => ⟨some (denial.reply settings.wording), store, wire, none⟩
    | (.ok identity, store, wire) => grantToken settings moment name identity store wire

def deleteToken (settings : Settings) (name : String) (store : σ) : Reply × σ :=
  if (Text.trim name).isEmpty then (missingName "delete", store)
  else match TokenStore.deleteToken store name with
    | (.error error, store) =>
      (.serverError ("Error deleting API token: " ++ error.message (settings.wording .apiToken)), store)
    | (.ok (), store) =>
      (.text 200 ("API token " ++ name ++ " successfully deleted (if it existed)"), store)

end LoginGateway.Gateway
