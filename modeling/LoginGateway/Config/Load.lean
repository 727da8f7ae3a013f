import LoginGateway.Config.Environment
import LoginGateway.Config.File
import LoginGateway.Url.Parse

namespace LoginGateway

inductive Address where
  | version4 (address : Nat)
  | version6 (pieces : List Nat)
  deriving DecidableEq, Repr

def Address.text : Address → String
  | .version4 address => Url.version4Text address
  | .version6 pieces => "[" ++ Url.version6Text pieces ++ "]"

/-- The addresses of a name, in the order in which they are found; none if the name cannot be looked up. -/
abbrev Resolver := (name : String) → Option (List Address)

def Url.Host.addresses? (resolve : Resolver) : Url.Host → Option (List Address)
  | .name text => resolve text
  | .version4 address => some [.version4 address]
  | .version6 pieces => some [.version6 pieces]

structure ListenAddress where
  address : Address
  port : Nat
  tls : Bool
  deriving DecidableEq, Repr

namespace ListenAddress

def text (listen : ListenAddress) : String := listen.address.text ++ ":" ++ toString listen.port

def ofUrl (resolve : Resolver) (url : String) : Except ConfigError ListenAddress :=
  match Url.parse? url with
  | none => .error (.listenAddress url)
  | some parsed =>
    if parsed.scheme ≠ "http" ∧ parsed.scheme ≠ "https" then .error (.listenScheme parsed.scheme)
    else match parsed.host.bind (Url.Host.addresses? resolve), parsed.effectivePort with
      | some (address :: _), some port => .ok ⟨address, port, parsed.scheme == "https"⟩
      | some [], some _ => .error (.noListenAddress url)
      | _, _ => .error (.unresolvedListen url)

end ListenAddress

namespace Config

def fileVariable : String := "AUTHGATE_CONFIG"

def listenAddress (config : Config) (resolve : Resolver) : Except ConfigError ListenAddress :=
  ListenAddress.ofUrl resolve config.server.listen

def validate (config : Config) (resolve : Resolver) : Except ConfigError Unit := do
  if (Url.parse? config.oidc.redirectUri).isNone then .error (.redirectUri config.oidc.redirectUri)
  else if (Url.parse? config.oidc.issuerUrl).isNone then .error (.issuerUrl config.oidc.issuerUrl)
  else if config.oidc.clientId.isEmpty then .error .emptyClientId
  else
    let listen ← config.listenAddress resolve
    if listen.tls ∧ (config.server.tlsCert.isNone ∨ config.server.tlsKey.isNone) then .error .incompleteTls
    else .ok ()

/-- The configuration in an environment; `read` is the data of the file at a path. -/
def load (environment : Environment) (read : String → Option Octets) (resolve : Resolver) :
    Except ConfigError Config := do
  let base ← match environment fileVariable with
    | some path => ofFile path (read path)
    | none => .ok {}
  let config ← base.withEnvironment environment
  config.validate resolve
  return config

end Config

end LoginGateway
