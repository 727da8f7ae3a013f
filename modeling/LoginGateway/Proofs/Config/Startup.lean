import LoginGateway.Config.Load
import LoginGateway.Proofs.Results
import Mathlib.Control.Monad.Basic

namespace LoginGateway

theorem ListenAddress.of_ofUrl_ok {resolve : Resolver} {text : String} {listen : ListenAddress}
    (read : ofUrl resolve text = .ok listen) :
    ∃ url, Url.parse? text = some url ∧ (url.scheme = "http" ∨ url.scheme = "https") ∧
      (listen.tls = true ↔ url.scheme = "https") := by
  unfold ofUrl at read
  split at read
  · cases read
  · rename_i url found
    refine ⟨url, found, ?_⟩
    split at read
    · cases read
    · rename_i web
      rw [not_and_or, not_not, not_not] at web
      refine ⟨web, ?_⟩
      split at read
      · cases read
        exact beq_iff_eq
      · cases read
      · cases read

example : ListenAddress.ofUrl (fun name => if name = "localhost" then some [.version4 0x7F000001] else none)
    "http://localhost:5555" = .ok ⟨.version4 0x7F000001, 5555, false⟩ := by decide +kernel

namespace Config

variable {resolve : Resolver}

def Secure (config : Config) : Prop := ∃ url, Url.parse? config.server.listen = some url ∧ url.scheme = "https"

/-- All that the gateway asks of a configuration before it starts. -/
structure Startable (resolve : Resolver) (config : Config) : Prop where
  redirectUri : ∃ url, Url.parse? config.oidc.redirectUri = some url
  issuerUrl : ∃ url, Url.parse? config.oidc.issuerUrl = some url
  clientId : config.oidc.clientId ≠ ""
  listen : ∃ url listen, Url.parse? config.server.listen = some url ∧ (url.scheme = "http" ∨ url.scheme = "https") ∧
    config.listenAddress resolve = .ok listen
  tls : config.Secure → ∃ cert key, config.server.tlsCert = some cert ∧ config.server.tlsKey = some key

theorem secure_iff {config : Config} {listen : ListenAddress} (resolved : config.listenAddress resolve = .ok listen) :
    config.Secure ↔ listen.tls = true := by
  obtain ⟨url, found, -, secure⟩ := ListenAddress.of_ofUrl_ok resolved
  rw [secure]
  constructor
  · rintro ⟨url', found', scheme⟩
    obtain rfl := Option.some.inj (found.symm.trans found')
    exact scheme
  · exact fun scheme => ⟨url, found, scheme⟩

theorem Startable.of_validate {config : Config} (valid : config.validate resolve = .ok ()) :
    config.Startable resolve := by
  unfold validate at valid
  split at valid
  · cases valid
  rename_i redirectUri
  split at valid
  · cases valid
  rename_i issuerUrl
  split at valid
  · cases valid
  rename_i clientId
  obtain ⟨listen, resolved, valid⟩ := of_bind_ok valid
  obtain ⟨url, found, web, -⟩ := ListenAddress.of_ofUrl_ok resolved
  split at valid
  · cases valid
  rename_i complete
  rw [Option.isNone_iff_eq_none, ← ne_eq, Option.ne_none_iff_exists'] at redirectUri issuerUrl
  refine ⟨redirectUri, issuerUrl, by simpa using clientId, ⟨url, listen, found, web, resolved⟩, fun secure => ?_⟩
  rw [not_and] at complete
  obtain ⟨cert, key⟩ := not_or.mp (complete ((secure_iff resolved).mp secure))
  rw [Option.isNone_iff_eq_none, ← ne_eq, Option.ne_none_iff_exists'] at cert key
  obtain ⟨⟨cert, hasCert⟩, key, hasKey⟩ := And.intro cert key
  exact ⟨cert, key, hasCert, hasKey⟩

theorem Startable.validate {config : Config} (startable : config.Startable resolve) :
    config.validate resolve = .ok () := by
  obtain ⟨⟨redirect, redirectUri⟩, ⟨issuer, issuerUrl⟩, clientId, ⟨url, listen, -, -, resolved⟩, tls⟩ := startable
  have complete : ¬(listen.tls = true ∧
      (config.server.tlsCert.isNone = true ∨ config.server.tlsKey.isNone = true)) := by
    rintro ⟨secure, missing⟩
    obtain ⟨cert, key, hasCert, hasKey⟩ := tls ((secure_iff resolved).mpr secure)
    rw [hasCert, hasKey] at missing
    rcases missing with missing | missing <;> cases missing
  have named : config.oidc.clientId.isEmpty = false := by simpa using clientId
  unfold Config.validate
  rw [redirectUri, issuerUrl, named, resolved, ok_bind, if_neg complete]
  rfl

/-- The settings that those of the environment are laid over: those of the file that it names, or else the standard
ones. -/
inductive Base (environment : Environment) (read : String → Option Octets) : Config → Prop where
  | standard (unnamed : environment fileVariable = none) : Base environment read {}
  | file {path : String} {config : Config} (named : environment fileVariable = some path)
      (found : ofFile path (read path) = .ok config) : Base environment read config

theorem overlay_ok_iff {base config : Config} {environment : Environment} :
    (do
      let config ← base.withEnvironment environment
      config.validate resolve
      return config) = .ok config ↔ base.withEnvironment environment = .ok config ∧ config.Startable resolve := by
  constructor
  · intro done
    obtain ⟨overridden, overriding, done⟩ := of_bind_ok done
    obtain ⟨_, valid, done⟩ := of_bind_ok done
    cases done
    exact ⟨overriding, .of_validate valid⟩
  · rintro ⟨overriding, startable⟩
    rw [overriding, ok_bind, startable.validate]
    rfl

theorem load_ok_iff {environment : Environment} {read : String → Option Octets} {config : Config} :
    load environment read resolve = .ok config ↔
      ∃ base, Base environment read base ∧ base.withEnvironment environment = .ok config ∧
        config.Startable resolve := by
  unfold load
  constructor
  · intro loaded
    split at loaded
    · rename_i path named
      obtain ⟨base, found, loaded⟩ := of_bind_ok loaded
      exact ⟨base, .file named found, overlay_ok_iff.mp loaded⟩
    · rename_i unnamed
      exact ⟨_, .standard unnamed, overlay_ok_iff.mp loaded⟩
  · rintro ⟨base, origin, loaded⟩
    rw [← overlay_ok_iff] at loaded
    cases origin with
    | standard unnamed =>
      rw [unnamed]
      exact loaded
    | file named found =>
      rw [named]
      simp only [found, ok_bind]
      exact loaded

/-- The setting is empty where the file gives it, and no variable stands in for it. -/
def Blank (environment : Environment) (name : String) (given : Option String) : Prop :=
  given = some "" ∧ (environment name = none ∨ environment name = some "")

theorem nonempty_or_eq_empty_iff {environment : Environment} {name : String} {given : Option String} :
    (nonempty environment name).or given = some "" ↔ Blank environment name given := by
  unfold nonempty Blank
  cases environment name with
  | none => simp
  | some value =>
    by_cases empty : value = ""
    · simp [empty]
    · simp [Option.filter, empty]

theorem of_withEnvironment {base config : Config} {environment : Environment}
    (done : base.withEnvironment environment = .ok config) :
    config.hmacSecret = (nonempty environment "AUTHGATE_HMAC_SECRET").or base.hmacSecret ∧
      config.server.tlsCert = (nonempty environment "AUTH_SERVER_TLS_CERT").or base.server.tlsCert ∧
      config.server.tlsKey = (nonempty environment "AUTH_SERVER_TLS_KEY").or base.server.tlsKey := by
  obtain ⟨debug, -, done⟩ := of_bind_ok done
  obtain ⟨backend, -, done⟩ := of_bind_ok done
  cases done
  exact ⟨rfl, rfl, rfl⟩

/-- The gateway can start, and what it signs with and what it looks for on disk is there. -/
structure Complete (resolve : Resolver) (config : Config) : Prop extends Startable resolve config where
  secret : config.hmacSecret = none ∨ ∃ secret, config.hmacSecret = some secret ∧ secret ≠ ""
  files : config.Secure → ∃ cert key, config.server.tlsCert = some cert ∧ cert ≠ "" ∧
    config.server.tlsKey = some key ∧ key ≠ ""

theorem Startable.complete_iff {config : Config} (startable : config.Startable resolve) :
    config.Complete resolve ↔ config.hmacSecret ≠ some "" ∧
      (config.Secure → config.server.tlsCert ≠ some "" ∧ config.server.tlsKey ≠ some "") := by
  constructor
  · rintro ⟨-, secret, files⟩
    constructor
    · rcases secret with absent | ⟨secret, present, there⟩
      · simp [absent]
      · simpa [present] using there
    · intro secure
      obtain ⟨cert, key, hasCert, certThere, hasKey, keyThere⟩ := files secure
      rw [hasCert, hasKey]
      exact ⟨by simpa using certThere, by simpa using keyThere⟩
  · rintro ⟨secret, files⟩
    refine ⟨startable, ?_, fun secure => ?_⟩
    · cases present : config.hmacSecret with
      | none => exact .inl rfl
      | some text => exact .inr ⟨text, rfl, fun empty => secret (by rw [present, empty])⟩
    · obtain ⟨cert, key, hasCert, hasKey⟩ := startable.tls secure
      obtain ⟨certThere, keyThere⟩ := files secure
      exact ⟨cert, key, hasCert, fun empty => certThere (by rw [hasCert, empty]), hasKey,
        fun empty => keyThere (by rw [hasKey, empty])⟩

/-- A gateway can start with every configuration that loads, whatever names resolve to. The configuration is complete
just if no empty secret comes from the file and, with TLS, no empty path either. -/
theorem loaded_startable {environment : Environment} {read : String → Option Octets} {config : Config}
    (loaded : load environment read resolve = .ok config) :
    config.Startable resolve ∧ ∃ base, Base environment read base ∧
      (config.Complete resolve ↔
        ¬Blank environment "AUTHGATE_HMAC_SECRET" base.hmacSecret ∧
        (config.Secure → ¬Blank environment "AUTH_SERVER_TLS_CERT" base.server.tlsCert ∧
          ¬Blank environment "AUTH_SERVER_TLS_KEY" base.server.tlsKey)) := by
  obtain ⟨base, origin, done, startable⟩ := load_ok_iff.mp loaded
  obtain ⟨secret, cert, key⟩ := of_withEnvironment done
  refine ⟨startable, base, origin, ?_⟩
  rw [startable.complete_iff, secret, cert, key]
  simp only [ne_eq, nonempty_or_eq_empty_iff]

def bareFile : String :=
  "hmac_secret = \"\"\n[server]\nlisten = \"https://127.0.0.1:8443\"\ntls_cert = \"\"\ntls_key = \"\"\n"

def noNames : Resolver := fun _ => none

def loadBare (given : List (String × String)) : Except ConfigError Config :=
  load (fun name => if name = fileVariable then some "gateway.toml" else given.lookup name)
    (fun _ => some (Text.encode bareFile)) noNames

theorem loaded_startable_overridden :
    ∃ config, loadBare [("AUTHGATE_HMAC_SECRET", "secret"), ("AUTH_SERVER_TLS_CERT", "tls.crt"),
      ("AUTH_SERVER_TLS_KEY", "tls.key")] = .ok config ∧ config.Startable noNames ∧ config.Complete noNames := by
  have listening : (loadBare [("AUTHGATE_HMAC_SECRET", "secret"), ("AUTH_SERVER_TLS_CERT", "tls.crt"),
      ("AUTH_SERVER_TLS_KEY", "tls.key")]).map (·.server.listen) = .ok "https://127.0.0.1:8443" := by decide +kernel
  obtain ⟨config, loaded, -⟩ := of_map_ok listening
  obtain ⟨startable, base, -, complete⟩ := loaded_startable loaded
  refine ⟨config, loaded, startable, complete.mpr ⟨?_, fun _ => ⟨?_, ?_⟩⟩⟩ <;>
    exact fun blank => absurd blank.2 (by decide)

/-- Without variables the empty texts are the settings, and the gateway is to listen with TLS. -/
theorem load_keeps_empty_texts :
    ∃ config, loadBare [] = .ok config ∧ config.Secure ∧ config.hmacSecret = some "" ∧
      config.server.tlsCert = some "" ∧ config.server.tlsKey = some "" := by
  have settings : (loadBare []).map (fun config => (config.hmacSecret, config.server)) =
      .ok (some "", ⟨"https://127.0.0.1:8443", some "", some ""⟩) := by decide +kernel
  obtain ⟨config, loaded, found⟩ := of_map_ok settings
  obtain ⟨secret, server⟩ := Prod.mk.inj found
  have scheme : (Url.parse? "https://127.0.0.1:8443").map (·.scheme) = some "https" := by decide +kernel
  obtain ⟨url, parsed, secure⟩ := Option.map_eq_some_iff.mp scheme
  refine ⟨config, loaded, ⟨url, ?_, secure⟩, secret, ?_, ?_⟩ <;> rw [server]
  exact parsed

end Config

end LoginGateway
