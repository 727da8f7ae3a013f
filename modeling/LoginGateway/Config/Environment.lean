import LoginGateway.Config.Basic
import LoginGateway.Text.Blank

namespace LoginGateway

abbrev Environment := String → Option String

namespace Config

def nonempty (environment : Environment) (name : String) : Option String :=
  (environment name).filter fun value => !value.isEmpty

def debugOf (standard : Bool) : Option String → Except ConfigError Bool
  | none => .ok standard
  | some "true" => .ok true
  | some "false" => .ok false
  | some value => .error (.debugFlag value)

def storeKindOf (standard : StoreKind) : Option String → Except ConfigError StoreKind
  | none => .ok standard
  | some value => match Text.lowerAscii value with
    | "memory" => .ok .memory
    | "file" => .ok .file
    | "kubernetes" | "kube" => .ok .kubernetes
    | name => .error (.storeKind name)

def withEnvironment (config : Config) (environment : Environment) : Except ConfigError Config := do
  let debug ← debugOf config.oidc.debug (environment "AUTH_SERVER_DEBUG")
  let backend ← storeKindOf config.store.backend (environment "AUTHGATE_STORE_BACKEND")
  return { config with
    server := {
      listen := (environment "AUTH_SERVER_LISTEN_AT").getD config.server.listen
      tlsCert := (nonempty environment "AUTH_SERVER_TLS_CERT").or config.server.tlsCert
      tlsKey := (nonempty environment "AUTH_SERVER_TLS_KEY").or config.server.tlsKey }
    oidc := { config.oidc with
      clientId := (environment "OAUTH2_CLIENT_ID").getD config.oidc.clientId
      clientSecret := (environment "OAUTH2_CLIENT_SECRET").getD config.oidc.clientSecret
      redirectUri := (environment "AUTH_SERVER_CALLBACK_URL").getD config.oidc.redirectUri
      issuerUrl := (environment "OPENID_CONNECT_ISSUER_URL").getD config.oidc.issuerUrl
      debug := debug }
    store := {
      backend := backend
      path := (environment "AUTHGATE_STORE_PATH").getD config.store.path
      secretNamespace := (environment "AUTHGATE_SECRET_NAMESPACE").getD config.store.secretNamespace
      secretName := (environment "AUTHGATE_SECRET_NAME").getD config.store.secretName }
    hmacSecret := (nonempty environment "AUTHGATE_HMAC_SECRET").or config.hmacSecret }

end Config

end LoginGateway
