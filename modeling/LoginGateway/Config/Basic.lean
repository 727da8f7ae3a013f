import LoginGateway.Backend.ClusterSecret
import LoginGateway.Gateway.Basic

namespace LoginGateway

inductive StoreKind where
  | memory
  | file
  | kubernetes
  deriving DecidableEq, Repr

structure ServerConfig where
  listen : String := "http://127.0.0.1:5555"
  tlsCert : Option String := none
  tlsKey : Option String := none
  deriving DecidableEq, Repr

structure OidcConfig where
  issuerUrl : String := "http://127.0.0.1:5556/dex"
  clientId : String := "auth-gateway"
  clientSecret : String := ""
  redirectUri : String := "http://127.0.0.1:5555/callback"
  discoveryRetrySeconds : Nat := 5
  requestTimeoutSeconds : Nat := 30
  insecureSkipVerify : Bool := false
  debug : Bool := false
  deriving DecidableEq, Repr

structure StoreConfig where
  backend : StoreKind := .memory
  path : String := "authgate-tokens.json"
  secretNamespace : String := "default"
  secretName : String := ClusterSecret.defaultName
  deriving DecidableEq, Repr

structure SessionConfig where
  tokenCookie : String := Gateway.defaultTokenCookie
  sessionCookie : String := Gateway.defaultSessionCookie
  invalidateOnRefreshFailure : Bool := false
  deriving DecidableEq, Repr

structure Config where
  server : ServerConfig := {}
  oidc : OidcConfig := {}
  store : StoreConfig := {}
  session : SessionConfig := {}
  hmacSecret : Option String := none
  deriving DecidableEq, Repr

inductive ConfigError where
  | unreadableFile (path : String)
  | unparsableFile (path : String)
  | debugFlag (value : String)
  | storeKind (name : String)
  | redirectUri (text : String)
  | issuerUrl (text : String)
  | emptyClientId
  | listenAddress (text : String)
  | listenScheme (scheme : String)
  | unresolvedListen (text : String)
  | noListenAddress (text : String)
  | incompleteTls
  deriving DecidableEq, Repr

def ConfigError.message : ConfigError → String
  | .unreadableFile path => "Failed to read config file " ++ path
  | .unparsableFile path => "Failed to parse config file " ++ path
  | .debugFlag value => "AUTH_SERVER_DEBUG must be true or false, got '" ++ value ++ "'"
  | .storeKind name => "unknown store backend '" ++ name ++ "' (expected memory, file or kubernetes)"
  | .redirectUri text => "Invalid redirect URI '" ++ text ++ "'"
  | .issuerUrl text => "Invalid issuer URL '" ++ text ++ "'"
  | .emptyClientId => "OAuth client ID must not be empty"
  | .listenAddress text => "Invalid listen address '" ++ text ++ "'"
  | .listenScheme scheme => "Listen address must be http or https, got '" ++ scheme ++ "'"
  | .unresolvedListen text => "Failed to resolve listen address '" ++ text ++ "'"
  | .noListenAddress text => "Listen address '" ++ text ++ "' resolved to nothing"
  | .incompleteTls => "Listening on https requires both a TLS certificate and key"

end LoginGateway
