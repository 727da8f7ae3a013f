import LoginGateway.Text.Blank

namespace LoginGateway.Scopes

def offlineAccess : String := "offline_access"

def base : List String := ["openid", "profile", "email"]

def audience : String := "audience:server:client_id:"

def forLogin (extra clients : String) (offlineAsScope : Bool) : List String :=
  base ++ Text.words extra ++ (Text.words clients).map (audience ++ ·)
    ++ if offlineAsScope then [offlineAccess] else []

end LoginGateway.Scopes
