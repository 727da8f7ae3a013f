import LoginGateway.Config.Environment
import LoginGateway.Proofs.Results
import Mathlib.Data.List.Nodup

namespace LoginGateway

inductive Setting where
  | clientId
  | clientSecret
  | redirectUri
  | issuerUrl
  | debug
  | listen
  | tlsCert
  | tlsKey
  | storeKind
  | storePath
  | secretNamespace
  | secretName
  | hmacSecret
  deriving DecidableEq

namespace Setting

def name : Setting → String
  | clientId => "OAUTH2_CLIENT_ID"
  | clientSecret => "OAUTH2_CLIENT_SECRET"
  | redirectUri => "AUTH_SERVER_CALLBACK_URL"
  | issuerUrl => "OPENID_CONNECT_ISSUER_URL"
  | debug => "AUTH_SERVER_DEBUG"
  | listen => "AUTH_SERVER_LISTEN_AT"
  | tlsCert => "AUTH_SERVER_TLS_CERT"
  | tlsKey => "AUTH_SERVER_TLS_KEY"
  | storeKind => "AUTHGATE_STORE_BACKEND"
  | storePath => "AUTHGATE_STORE_PATH"
  | secretNamespace => "AUTHGATE_SECRET_NAMESPACE"
  | secretName => "AUTHGATE_SECRET_NAME"
  | hmacSecret => "AUTHGATE_HMAC_SECRET"

def all : List Setting :=
  [clientId, clientSecret, redirectUri, issuerUrl, debug, listen, tlsCert, tlsKey, storeKind, storePath,
   secretNamespace, secretName, hmacSecret]

theorem mem_all (setting : Setting) : setting ∈ all := by cases setting <;> decide

theorem name_injective {setting other : Setting} (same : setting.name = other.name) : setting = other := by
  have distinct : (all.map name).Nodup := by decide
  exact List.inj_on_of_nodup_map distinct (mem_all setting) (mem_all other) same

abbrev Value : Setting → Type
  | debug => Bool
  | storeKind => StoreKind
  | tlsCert | tlsKey | hmacSecret => Option String
  | _ => String

def read : (setting : Setting) → Config → setting.Value
  | clientId, config => config.oidc.clientId
  | clientSecret, config => config.oidc.clientSecret
  | redirectUri, config => config.oidc.redirectUri
  | issuerUrl, config => config.oidc.issuerUrl
  | debug, config => config.oidc.debug
  | listen, config => config.server.listen
  | tlsCert, config => config.server.tlsCert
  | tlsKey, config => config.server.tlsKey
  | storeKind, config => config.store.backend
  | storePath, config => config.store.path
  | secretNamespace, config => config.store.secretNamespace
  | secretName, config => config.store.secretName
  | hmacSecret, config => config.hmacSecret

def storeKinds : List (String × StoreKind) :=
  [("memory", .memory), ("file", .file), ("kubernetes", .kubernetes), ("kube", .kubernetes)]

def parse : (setting : Setting) → String → Except ConfigError (Option setting.Value)
  | debug, text =>
    if text = "true" then .ok (some true) else if text = "false" then .ok (some false) else .error (.debugFlag text)
  | storeKind, text => match storeKinds.lookup (Text.lowerAscii text) with
    | some kind => .ok (some kind)
    | none => .error (.storeKind (Text.lowerAscii text))
  | tlsCert, text | tlsKey, text | hmacSecret, text => .ok (if text.isEmpty then none else some (some text))
  | clientId, text | clientSecret, text | redirectUri, text | issuerUrl, text | listen, text | storePath, text
  | secretNamespace, text | secretName, text => .ok (some text)

def ofVariable {α : Type} (parse : String → Except ConfigError (Option α)) :
    Option String → Except ConfigError (Option α)
  | some text => parse text
  | none => .ok none

def given (setting : Setting) (environment : Environment) : Except ConfigError (Option setting.Value) :=
  ofVariable setting.parse (environment setting.name)

theorem ofVariable_whole (told : Option String) : ofVariable (fun text => .ok (some text)) told = .ok told := by
  cases told <;> rfl

theorem ofVariable_nonempty (told : Option String) :
    ofVariable (fun text => .ok (if text.isEmpty then none else some (some text))) told =
      .ok ((told.filter fun text => !text.isEmpty).map some) := by
  cases told with
  | none => rfl
  | some text => cases empty : text.isEmpty <;> simp [ofVariable, Option.filter, empty]

theorem lookup_storeKinds_eq_none_iff {name : String} :
    storeKinds.lookup name = none ↔ name ∉ ["memory", "file", "kubernetes", "kube"] := by
  simp [storeKinds, List.lookup_eq_none_iff]

end Setting

namespace Config

def rest (config : Config) : Nat × Nat × Bool × SessionConfig :=
  (config.oidc.discoveryRetrySeconds, config.oidc.requestTimeoutSeconds, config.oidc.insecureSkipVerify, config.session)

def assemble (values : (setting : Setting) → setting.Value) (rest : Nat × Nat × Bool × SessionConfig) : Config where
  server := ⟨values .listen, values .tlsCert, values .tlsKey⟩
  oidc := ⟨values .issuerUrl, values .clientId, values .clientSecret, values .redirectUri, rest.1, rest.2.1, rest.2.2.1,
    values .debug⟩
  store := ⟨values .storeKind, values .storePath, values .secretNamespace, values .secretName⟩
  session := rest.2.2.2
  hmacSecret := values .hmacSecret

theorem assemble_read (config : Config) : assemble (fun setting => setting.read config) config.rest = config := rfl

theorem ext_read {config other : Config} (settings : ∀ setting : Setting, setting.read config = setting.read other)
    (rest : config.rest = other.rest) : config = other := by
  rw [← config.assemble_read, ← other.assemble_read, rest, funext settings]

/-- Every setting is what its variable gives it, and what it was before where the variable gives it nothing. -/
structure Overridden (config : Config) (environment : Environment) (result : Config) : Prop where
  settings : ∀ setting : Setting, ∃ given, setting.given environment = .ok given ∧
    setting.read result = given.getD (setting.read config)
  rest : result.rest = config.rest

variable {config result : Config} {environment : Environment}

theorem Overridden.unique {other : Config} (overridden : config.Overridden environment result)
    (overridden' : config.Overridden environment other) : result = other := by
  refine ext_read (fun setting => ?_) (overridden.rest.trans overridden'.rest.symm)
  obtain ⟨given, told, read⟩ := overridden.settings setting
  obtain ⟨given', told', read'⟩ := overridden'.settings setting
  cases told.symm.trans told'
  exact read.trans read'.symm

theorem getD_map_some {α : Type} {told standard : Option α} : (told.map some).getD standard = told.or standard := by
  cases told <;> rfl

theorem debugOf_eq (standard : Bool) (told : Option String) :
    debugOf standard told = (Setting.ofVariable Setting.debug.parse told).map fun given => given.getD standard := by
  cases told with
  | none => rfl
  | some text =>
    by_cases yes : text = "true"
    · rw [yes]
      rfl
    · by_cases no : text = "false"
      · rw [no]
        rfl
      · simp only [Setting.ofVariable, Setting.parse, debugOf, if_neg yes, if_neg no]
        rfl

theorem storeKindOf_eq (standard : StoreKind) (told : Option String) :
    storeKindOf standard told =
      (Setting.ofVariable Setting.storeKind.parse told).map fun given => given.getD standard := by
  cases told with
  | none => rfl
  | some text =>
    simp only [Setting.ofVariable, Setting.parse, storeKindOf]
    generalize Text.lowerAscii text = name
    split
    · rfl
    · rfl
    · rfl
    · rfl
    · rename_i memory file kubernetes kube
      have unknown : Setting.storeKinds.lookup name = none :=
        Setting.lookup_storeKinds_eq_none_iff.mpr (by simpa using ⟨memory, file, kubernetes, kube⟩)
      rw [unknown]
      rfl

theorem withEnvironment_cases (config : Config) (environment : Environment) :
    (∃ result, config.withEnvironment environment = .ok result ∧ config.Overridden environment result) ∨
    ∃ error, config.withEnvironment environment = .error error ∧
      (Setting.debug.given environment = .error error ∨ Setting.storeKind.given environment = .error error) := by
  unfold withEnvironment
  rw [debugOf_eq, storeKindOf_eq]
  cases flag : Setting.ofVariable Setting.debug.parse (environment "AUTH_SERVER_DEBUG") with
  | error error => exact .inr ⟨error, rfl, .inl flag⟩
  | ok debug =>
    cases kind : Setting.ofVariable Setting.storeKind.parse (environment "AUTHGATE_STORE_BACKEND") with
    | error error => exact .inr ⟨error, rfl, .inr kind⟩
    | ok backend =>
      refine .inl ⟨_, rfl, fun setting => ?_, rfl⟩
      cases setting with
      | debug => exact ⟨debug, flag, rfl⟩
      | storeKind => exact ⟨backend, kind, rfl⟩
      | tlsCert | tlsKey | hmacSecret => exact ⟨_, Setting.ofVariable_nonempty _, getD_map_some.symm⟩
      | clientId | clientSecret | redirectUri | issuerUrl | listen | storePath | secretNamespace | secretName =>
        exact ⟨_, Setting.ofVariable_whole _, rfl⟩

theorem withEnvironment_ok_iff :
    config.withEnvironment environment = .ok result ↔ config.Overridden environment result := by
  rcases withEnvironment_cases config environment with ⟨result', done, overridden⟩ | ⟨error, failed, illegal⟩
  · rw [done, Except.ok.injEq]
    constructor
    · rintro rfl
      exact overridden
    · exact overridden.unique
  · rw [failed]
    constructor
    · nofun
    · intro overridden
      obtain ⟨_, flag, -⟩ := overridden.settings .debug
      obtain ⟨_, kind, -⟩ := overridden.settings .storeKind
      rcases illegal with illegal | illegal
      · cases flag.symm.trans illegal
      · cases kind.symm.trans illegal

theorem withEnvironment_error_iff : (∃ error, config.withEnvironment environment = .error error) ↔
    (∃ error, Setting.debug.given environment = .error error) ∨
    ∃ error, Setting.storeKind.given environment = .error error := by
  rcases withEnvironment_cases config environment with ⟨result, done, overridden⟩ | ⟨error, failed, illegal⟩
  · obtain ⟨_, flag, -⟩ := overridden.settings .debug
    obtain ⟨_, kind, -⟩ := overridden.settings .storeKind
    simp [done, flag, kind]
  · have fails : ∃ error, config.withEnvironment environment = .error error := ⟨error, failed⟩
    simp only [fails, true_iff]
    exact illegal.imp (⟨error, ·⟩) (⟨error, ·⟩)

theorem Overridden.applies (overridden : config.Overridden environment result) (other : Config) :
    ∃ result', other.withEnvironment environment = .ok result' ∧ other.Overridden environment result' := by
  rcases withEnvironment_cases other environment with done | ⟨error, failed, -⟩
  · exact done
  · have illegal := withEnvironment_error_iff.mp ⟨error, failed⟩
    obtain ⟨_, failed'⟩ : ∃ error, config.withEnvironment environment = .error error :=
      withEnvironment_error_iff.mpr illegal
    cases failed'.symm.trans (withEnvironment_ok_iff.mpr overridden)

end Config

namespace Setting

theorem given_debug_error_iff {environment : Environment} : (∃ error, debug.given environment = .error error) ↔
    ∃ text, environment "AUTH_SERVER_DEBUG" = some text ∧ text ≠ "true" ∧ text ≠ "false" := by
  unfold given name
  cases environment "AUTH_SERVER_DEBUG" with
  | none => simp [ofVariable]
  | some text =>
    simp only [ofVariable, parse, Option.some.injEq, exists_eq_left']
    split
    · simp [*]
    · split <;> simp [*]

theorem given_storeKind_error_iff {environment : Environment} :
    (∃ error, storeKind.given environment = .error error) ↔
      ∃ text, environment "AUTHGATE_STORE_BACKEND" = some text ∧
        Text.lowerAscii text ∉ ["memory", "file", "kubernetes", "kube"] := by
  unfold given name
  cases environment "AUTHGATE_STORE_BACKEND" with
  | none => simp [ofVariable]
  | some text =>
    simp only [ofVariable, parse, Option.some.injEq, exists_eq_left', ← lookup_storeKinds_eq_none_iff]
    split <;> simp [*]

end Setting

namespace Environment

/-- The variables that count as set: for some of them an empty text is as good as none. -/
def effective (environment : Environment) : Environment := fun name =>
  if name ∈ ["AUTH_SERVER_TLS_CERT", "AUTH_SERVER_TLS_KEY", "AUTHGATE_HMAC_SECRET"] then
    (environment name).filter fun text => !text.isEmpty
  else environment name

def merge (later earlier : Environment) : Environment := fun name => (later.effective name).or (earlier.effective name)

end Environment

namespace Setting

theorem given_effective (setting : Setting) (environment : Environment) :
    setting.given environment.effective = setting.given environment := by
  cases setting with
  | tlsCert | tlsKey | hmacSecret =>
    refine (ofVariable_nonempty _).trans (Eq.trans ?_ (ofVariable_nonempty _).symm)
    simp [Environment.effective, name, Option.filter_filter]
  | clientId | clientSecret | redirectUri | issuerUrl | debug | listen | storeKind | storePath | secretNamespace
  | secretName => rfl

theorem gives_of_effective {setting : Setting} {environment : Environment} {text : String}
    {given : Option setting.Value} (told : environment.effective setting.name = some text)
    (legal : setting.parse text = .ok given) : ∃ value, given = some value := by
  cases setting with
  | debug =>
    simp only [parse] at legal
    split at legal
    · cases legal
      exact ⟨true, rfl⟩
    · split at legal
      · cases legal
        exact ⟨false, rfl⟩
      · cases legal
  | storeKind =>
    simp only [parse] at legal
    split at legal
    · rename_i kind _
      cases legal
      exact ⟨kind, rfl⟩
    · cases legal
  | tlsCert | tlsKey | hmacSecret =>
    obtain ⟨-, there⟩ := Option.filter_eq_some_iff.mp told
    rw [Bool.not_eq_true'] at there
    simp only [parse, there] at legal
    cases legal
    exact ⟨_, rfl⟩
  | clientId | clientSecret | redirectUri | issuerUrl | listen | storePath | secretNamespace | secretName =>
    cases legal
    exact ⟨text, rfl⟩

theorem given_merge {setting : Setting} {later earlier : Environment} {given given' : Option setting.Value}
    (told : setting.given earlier = .ok given) (told' : setting.given later = .ok given') :
    setting.given (later.merge earlier) = .ok (given'.or given) := by
  rw [← given_effective] at told told'
  simp only [Setting.given, Environment.merge] at told told' ⊢
  cases counts : later.effective setting.name with
  | none =>
    rw [counts] at told'
    cases told'
    exact told
  | some text =>
    rw [counts] at told'
    obtain ⟨value, rfl⟩ := gives_of_effective counts told'
    exact told'

end Setting

namespace Config

variable {config first second result : Config} {earlier later environment : Environment}

theorem Overridden.merge (overridden : config.Overridden earlier first) (overridden' : first.Overridden later second) :
    config.Overridden (later.merge earlier) second where
  settings setting := by
    obtain ⟨given, told, read⟩ := overridden.settings setting
    obtain ⟨given', told', read'⟩ := overridden'.settings setting
    refine ⟨given'.or given, Setting.given_merge told told', ?_⟩
    rw [read', read]
    cases given' <;> rfl
  rest := overridden'.rest.trans overridden.rest

theorem Overridden.again (overridden : config.Overridden environment result) :
    result.Overridden environment result where
  settings setting := by
    obtain ⟨given, told, read⟩ := overridden.settings setting
    refine ⟨given, told, ?_⟩
    rw [read]
    cases given <;> rfl
  rest := rfl

theorem Overridden.unset (overridden : config.Overridden environment result) {setting : Setting}
    (unset : environment.effective setting.name = none) : setting.read result = setting.read config := by
  obtain ⟨given, told, read⟩ := overridden.settings setting
  rw [← Setting.given_effective, Setting.given, unset] at told
  cases told
  exact read

theorem Overridden.apart {other : Environment} {result' : Config} (overridden : config.Overridden environment result)
    (overridden' : config.Overridden other result') {setting another : Setting} (different : another ≠ setting)
    (same : ∀ name, name ≠ setting.name → environment name = other name) :
    another.read result = another.read result' := by
  obtain ⟨given, told, read⟩ := overridden.settings another
  obtain ⟨given', told', read'⟩ := overridden'.settings another
  have named : another.name ≠ setting.name := mt Setting.name_injective different
  rw [Setting.given, same another.name named] at told
  cases told.symm.trans told'
  exact read.trans read'.symm

/-- One environment after another overrides as the two merged do, whenever each of them can be applied, and the same
environment twice does no more than once. Each setting is as its variable says: a setting whose variable does not count
as set stays, and a variable that is changed changes no other setting and nothing else. The overrides fail just if the
debug flag is neither true nor false or there is no store of the name that is given, in letters of either case. -/
theorem overrides_compose (config : Config) :
    (∀ earlier later : Environment, (∃ first, config.withEnvironment earlier = .ok first) →
      (∃ second, config.withEnvironment later = .ok second) →
        ∃ first result, config.withEnvironment earlier = .ok first ∧ first.withEnvironment later = .ok result ∧
          config.withEnvironment (later.merge earlier) = .ok result) ∧
    (∀ environment result, config.withEnvironment environment = .ok result →
      result.withEnvironment environment = .ok result) ∧
    (∀ environment result,
      config.withEnvironment environment = .ok result ↔ config.Overridden environment result) ∧
    (∀ (environment : Environment) result (setting : Setting), config.withEnvironment environment = .ok result →
      environment.effective setting.name = none → setting.read result = setting.read config) ∧
    (∀ (environment other : Environment) result result' (setting : Setting),
      (∀ name, name ≠ setting.name → environment name = other name) →
      config.withEnvironment environment = .ok result → config.withEnvironment other = .ok result' →
        (∀ another : Setting, another ≠ setting → another.read result = another.read result') ∧
        result.rest = result'.rest) ∧
    ∀ environment, (∃ error, config.withEnvironment environment = .error error) ↔
      (∃ text, environment "AUTH_SERVER_DEBUG" = some text ∧ text ≠ "true" ∧ text ≠ "false") ∨
      ∃ text, environment "AUTHGATE_STORE_BACKEND" = some text ∧
        Text.lowerAscii text ∉ ["memory", "file", "kubernetes", "kube"] := by
  refine ⟨?_, ?_, ?_, ?_, ?_, ?_⟩
  · rintro earlier later ⟨first, done⟩ ⟨second, done'⟩
    have overridden := withEnvironment_ok_iff.mp done
    obtain ⟨result, done', overridden'⟩ := (withEnvironment_ok_iff.mp done').applies first
    exact ⟨first, result, done, done', withEnvironment_ok_iff.mpr (overridden.merge overridden')⟩
  · intro environment result done
    exact withEnvironment_ok_iff.mpr (withEnvironment_ok_iff.mp done).again
  · exact fun environment result => withEnvironment_ok_iff
  · intro environment result setting done unset
    exact (withEnvironment_ok_iff.mp done).unset unset
  · intro environment other result result' setting same done done'
    have overridden := withEnvironment_ok_iff.mp done
    have overridden' := withEnvironment_ok_iff.mp done'
    exact ⟨fun another different => overridden.apart overridden' different same,
      overridden.rest.trans overridden'.rest.symm⟩
  · intro environment
    rw [withEnvironment_error_iff, Setting.given_debug_error_iff, Setting.given_storeKind_error_iff]

theorem overrides_compose_empty :
    let earlier : Environment := fun name => [("OAUTH2_CLIENT_ID", "gateway"), ("AUTH_SERVER_TLS_CERT", "tls.crt"),
      ("AUTH_SERVER_DEBUG", "true"), ("AUTHGATE_STORE_BACKEND", "File")].lookup name
    let later : Environment := fun name => [("OAUTH2_CLIENT_ID", ""), ("AUTH_SERVER_TLS_CERT", ""),
      ("AUTHGATE_STORE_BACKEND", "KUBE")].lookup name
    let server : ServerConfig := { tlsCert := some "tls.crt" }
    let once : Config := { server, oidc := { clientId := "gateway", debug := true }, store := { backend := .file } }
    let twice : Config := { server, oidc := { clientId := "", debug := true }, store := { backend := .kubernetes } }
    withEnvironment {} earlier = .ok once ∧ once.withEnvironment later = .ok twice ∧
      withEnvironment {} (later.merge earlier) = .ok twice ∧ once.withEnvironment earlier = .ok once ∧
      later.effective "AUTH_SERVER_TLS_CERT" = none ∧ Setting.tlsCert.read twice = Setting.tlsCert.read once := by
  intro earlier later server once twice
  have done : withEnvironment {} earlier = .ok once := by decide +kernel
  have legal : withEnvironment {} later =
      .ok { oidc := { clientId := "" }, store := { backend := .kubernetes } } := by decide +kernel
  have done' : once.withEnvironment later = .ok twice := by decide +kernel
  have unset : later.effective "AUTH_SERVER_TLS_CERT" = none := by decide +kernel
  obtain ⟨composes, repeats, -⟩ := overrides_compose {}
  obtain ⟨-, -, -, stays, -⟩ := overrides_compose once
  obtain ⟨first, result, applied, applied', merged⟩ := composes earlier later ⟨once, done⟩ ⟨_, legal⟩
  cases done.symm.trans applied
  cases done'.symm.trans applied'
  exact ⟨done, done', merged, repeats earlier once done, unset, stays later twice .tlsCert done' unset⟩

end Config

end LoginGateway
