import Xnestjs.Program.GetMongodbConfig

/-!
# The documented MongoDB settings

Each documented setting is asked for by its own option or, when that is not given, by its own
variable. `getMongodbConfig` has one line for each of them, and all lines but three read the
option that they assign. The three others, and the settings whose options they read or
overwrite, are the five settings of which it takes an accident of the input to be resolved as
documented.
-/

set_option autoImplicit false

namespace Xnestjs.Analysis

open Xnestjs.Model Xnestjs.Program.GetMongodbConfig

/-- The documented variables and the options they stand for, without `URL`, `USERNAME` and
`PASSWORD`. SOURCE: README.md:67-106 -/
def documentedMongodbSettings : List (Setting MongodbSetting) :=
  [⟨.authSource, .text, "AUTH_SOURCE"⟩,
    ⟨.database, .text, "DATABASE"⟩,
    ⟨.replicaSet, .text, "REPLICA_SET"⟩,
    ⟨.tls, .boolean, "TLS"⟩,
    ⟨.tlsCertificateKeyFile, .text, "TLS_CERT_FILE"⟩,
    ⟨.tlsCertificateKeyFilePassword, .text, "TLS_CERT_FILE_PASS"⟩,
    ⟨.tlsCAFile, .text, "TLS_CA_FILE"⟩,
    ⟨.tlsCRLFile, .text, "TLS_CRL_FILE"⟩,
    ⟨.tlsAllowInvalidCertificates, .boolean, "TLS_ALLOW_INVALID_CERTIFICATES"⟩,
    ⟨.tlsAllowInvalidHostnames, .boolean, "TLS_ALLOW_INVALID_HOSTNAMES"⟩,
    ⟨.tlsInsecure, .boolean, "TLS_INSECURE"⟩,
    ⟨.timeoutMS, .int, "TIMEOUT"⟩,
    ⟨.connectTimeoutMS, .int, "CONNECT_TIMEOUT"⟩,
    ⟨.socketTimeoutMS, .int, "SOCKET_TIMEOUT"⟩,
    ⟨.srvMaxHosts, .int, "SRV_MAX_HOSTS"⟩,
    ⟨.maxPoolSize, .int, "MAX_POOL_SIZE"⟩,
    ⟨.minPoolSize, .int, "MIN_POOL_SIZE"⟩,
    ⟨.maxConnecting, .int, "MAX_CONNECTING"⟩,
    ⟨.maxIdleTimeMS, .int, "MAX_IDLE_TIME"⟩,
    ⟨.waitQueueTimeoutMS, .int, "MAX_WAIT_QUEUE_TIMEOUT"⟩,
    ⟨.maxStalenessSeconds, .int, "MAX_STALENESS_SECONDS"⟩,
    ⟨.localThresholdMS, .int, "LOCAL_THRESHOLD"⟩,
    ⟨.serverSelectionTimeoutMS, .int, "SERVER_SELECTION_TIMEOUT"⟩,
    ⟨.minHeartbeatFrequencyMS, .int, "HEARTBEAT_FREQUENCY"⟩,
    ⟨.appName, .text, "APP_NAME"⟩,
    ⟨.retryReads, .boolean, "RETRY_READS"⟩,
    ⟨.retryWrites, .boolean, "RETRY_WRITES"⟩,
    ⟨.directConnection, .boolean, "DIRECT_CONNECTION"⟩,
    ⟨.loadBalanced, .boolean, "LOAD_BALANCED"⟩,
    ⟨.noDelay, .boolean, "NO_DELAY"⟩,
    ⟨.monitorCommands, .boolean, "MONITOR_COMMANDS"⟩,
    ⟨.proxyHost, .text, "PROXY_HOST"⟩,
    ⟨.proxyPort, .int, "PROXY_PORT"⟩,
    ⟨.proxyUsername, .text, "PROXY_USERNAME"⟩,
    ⟨.proxyPassword, .text, "PROXY_PASSWORD"⟩]

/-- The settings touched by the lines that read another option than the one they assign. -/
def crossedSettings : List MongodbSetting :=
  [.maxPoolSize, .minPoolSize, .tlsAllowInvalidCertificates, .tlsAllowInvalidHostnames,
    .proxyUsername]

/-- INTERNAL: every other documented setting is assigned by one line, its own.
SOURCE: get-mongodb-config.ts:16-80 -/
theorem documented_line (s : Setting MongodbSetting) (hs : s ∈ documentedMongodbSettings)
    (hc : s.field ∉ crossedSettings) :
    settingLines.filter (fun l => l.target = s.field) =
      [⟨s.field, s.field, s.type, s.name⟩] := by
  revert s
  decide

section

variable (h : VarHelpers) (env : Env) (pre : String)

/-- What the crossing lines ask of the input for a setting to come out as documented:

* `maxPoolSize` is read from `minPoolSize`, so the two options must be the same over
  `MAX_POOL_SIZE`;
* `minPoolSize` is then read from `maxPoolSize`: without the option, `MAX_POOL_SIZE` takes
  the place of `MIN_POOL_SIZE`;
* `tlsAllowInvalidCertificates` is overwritten with what is asked for
  `tlsAllowInvalidHostnames`, and that field with nothing;
* `proxyUsername` is read from `proxyHost` as the lines before have resolved it. -/
def CrossingHarmless (o : MongodbSetting → Value) : MongodbSetting → Prop
  | .maxPoolSize =>
    let fallback := h.toInt (env.get (pre ++ "MAX_POOL_SIZE"))
    (o .minPoolSize).coalesce fallback = (o .maxPoolSize).coalesce fallback
  | .minPoolSize => (o .minPoolSize).nullish = true →
    (h.toInt (env.get (pre ++ "MAX_POOL_SIZE"))).nullish = true ∨
    h.toInt (env.get (pre ++ "MAX_POOL_SIZE")) = h.toInt (env.get (pre ++ "MIN_POOL_SIZE"))
  | .tlsAllowInvalidCertificates =>
    (o .tlsAllowInvalidHostnames).coalesce
        (h.toBoolean (env.get (pre ++ "TLS_ALLOW_INVALID_HOSTNAMES"))) =
      (o .tlsAllowInvalidCertificates).coalesce
        (h.toBoolean (env.get (pre ++ "TLS_ALLOW_INVALID_CERTIFICATES")))
  | .tlsAllowInvalidHostnames => (o .tlsAllowInvalidHostnames).nullish = true →
    o .tlsAllowInvalidHostnames = h.toBoolean (env.get (pre ++ "TLS_ALLOW_INVALID_HOSTNAMES"))
  | .proxyUsername =>
    let fallback := env.get (pre ++ "PROXY_USERNAME")
    ((o .proxyHost).coalesce (env.get (pre ++ "PROXY_HOST"))).coalesce fallback =
      (o .proxyUsername).coalesce fallback
  | _ => True

/-! ## The crossed lines -/

/-- INTERNAL: the option `minPoolSize` goes to `maxPoolSize`.
SOURCE: get-mongodb-config.ts:38-39 -/
theorem resolved_maxPoolSize (o : MongodbConnectionOptions) :
    (getMongodbConfig h env o pre).settings .maxPoolSize =
      (o.settings .minPoolSize).coalesce (h.toInt (env.get (pre ++ "MAX_POOL_SIZE"))) := by
  rw [getMongodbConfig_settings]
  have hsource : runEnvLines h env pre (settingLines.take 14) o.settings .minPoolSize =
      o.settings .minPoolSize := runEnvLines_untouched h env pre (by decide) o.settings
  have hline := runEnvLines_settled h env pre settingLines 14 rfl (by decide)
    o.settings
  exact hline.trans (congrArg (Value.coalesce · _) hsource)

/-- INTERNAL: and from there to `minPoolSize`. SOURCE: get-mongodb-config.ts:40-41 -/
theorem resolved_minPoolSize (o : MongodbConnectionOptions) :
    (getMongodbConfig h env o pre).settings .minPoolSize =
      ((o.settings .minPoolSize).coalesce (h.toInt (env.get (pre ++ "MAX_POOL_SIZE")))).coalesce
        (h.toInt (env.get (pre ++ "MIN_POOL_SIZE"))) := by
  rw [getMongodbConfig_settings]
  have hsource : runEnvLines h env pre (settingLines.take 14) o.settings .minPoolSize =
      o.settings .minPoolSize := runEnvLines_untouched h env pre (by decide) o.settings
  have hmax := runEnvLines_settled h env pre (settingLines.take 15) 14 rfl (by decide)
    o.settings
  have hline := runEnvLines_settled h env pre settingLines 15 rfl (by decide)
    o.settings
  exact hline.trans (congrArg (Value.coalesce · _)
    (hmax.trans (congrArg (Value.coalesce · _) hsource)))

/-- INTERNAL: `tlsAllowInvalidCertificates` is assigned twice, the second time from
`tlsAllowInvalidHostnames`. SOURCE: get-mongodb-config.ts:24-29 -/
theorem resolved_tlsAllowInvalidCertificates (o : MongodbConnectionOptions) :
    (getMongodbConfig h env o pre).settings .tlsAllowInvalidCertificates =
      (o.settings .tlsAllowInvalidHostnames).coalesce
        (h.toBoolean (env.get (pre ++ "TLS_ALLOW_INVALID_HOSTNAMES"))) := by
  rw [getMongodbConfig_settings]
  have hsource : runEnvLines h env pre (settingLines.take 8) o.settings
      .tlsAllowInvalidHostnames = o.settings .tlsAllowInvalidHostnames :=
    runEnvLines_untouched h env pre (by decide) o.settings
  have hline := runEnvLines_settled h env pre settingLines 8 rfl (by decide)
    o.settings
  exact hline.trans (congrArg (Value.coalesce · _) hsource)

/-- INTERNAL: no line assigns `tlsAllowInvalidHostnames`.
SOURCE: get-mongodb-config.ts:27-29 -/
theorem resolved_tlsAllowInvalidHostnames (o : MongodbConnectionOptions) :
    (getMongodbConfig h env o pre).settings .tlsAllowInvalidHostnames =
      o.settings .tlsAllowInvalidHostnames := by
  rw [getMongodbConfig_settings]
  exact runEnvLines_untouched h env pre (by decide) o.settings

/-- INTERNAL: the resolved `proxyHost` goes to `proxyUsername`.
SOURCE: get-mongodb-config.ts:76-78 -/
theorem resolved_proxyUsername (o : MongodbConnectionOptions) :
    (getMongodbConfig h env o pre).settings .proxyUsername =
      ((o.settings .proxyHost).coalesce (env.get (pre ++ "PROXY_HOST"))).coalesce
        (env.get (pre ++ "PROXY_USERNAME")) := by
  rw [getMongodbConfig_settings]
  have hhost := runEnvLines_own h env pre (settingLines.take 33)
    ⟨.proxyHost, .text, "PROXY_HOST"⟩ (by decide) o.settings
  have hline := runEnvLines_settled h env pre settingLines 33 rfl (by decide)
    o.settings
  exact hline.trans (congrArg (Value.coalesce · _) hhost)

/-! ## Which settings come out as documented -/

/-- INTERNAL: **one setting** comes out as documented exactly when the crossing lines are
harmless for it. SOURCE: get-mongodb-config.ts:6-82 -/
theorem resolved_as_asked_iff (o : MongodbConnectionOptions) {s : Setting MongodbSetting}
    (hs : s ∈ documentedMongodbSettings) :
    (getMongodbConfig h env o pre).settings s.field = s.asked h env pre o.settings ↔
      CrossingHarmless h env pre o.settings s.field := by
  by_cases hc : s.field ∈ crossedSettings
  · have hcases : s = ⟨.maxPoolSize, .int, "MAX_POOL_SIZE"⟩ ∨
        s = ⟨.minPoolSize, .int, "MIN_POOL_SIZE"⟩ ∨
        s = ⟨.tlsAllowInvalidCertificates, .boolean, "TLS_ALLOW_INVALID_CERTIFICATES"⟩ ∨
        s = ⟨.tlsAllowInvalidHostnames, .boolean, "TLS_ALLOW_INVALID_HOSTNAMES"⟩ ∨
        s = ⟨.proxyUsername, .text, "PROXY_USERNAME"⟩ := by
      revert s
      decide
    rcases hcases with rfl | rfl | rfl | rfl | rfl
    · rw [resolved_maxPoolSize]
      exact Iff.rfl
    · rw [resolved_minPoolSize, Value.coalesce_assoc]
      exact Value.coalesce_shadowed_iff _ _ _
    · rw [resolved_tlsAllowInvalidCertificates]
      exact Iff.rfl
    · rw [resolved_tlsAllowInvalidHostnames]
      exact Value.eq_coalesce_iff _ _
    · rw [resolved_proxyUsername]
      exact Iff.rfl
  · have hown : (getMongodbConfig h env o pre).settings s.field =
        s.asked h env pre o.settings := by
      rw [getMongodbConfig_settings]
      exact runEnvLines_own h env pre settingLines s (documented_line s hs hc) o.settings
    have hharmless : CrossingHarmless h env pre o.settings s.field := by
      unfold CrossingHarmless
      split <;> simp_all [crossedSettings]
    exact ⟨fun _ => hharmless, fun _ => hown⟩

/-- **The documented settings** come out as asked, all of them, exactly when the crossing
lines are harmless for each. Between inputs of this kind with one prefix, a resolved setting
depends on nothing but its own option and its own variable.
SOURCE: get-mongodb-config.ts:6-82, README.md:67-106 -/
theorem documented_settings_iff (o : MongodbConnectionOptions) :
    ((∀ s ∈ documentedMongodbSettings,
      (getMongodbConfig h env o pre).settings s.field = s.asked h env pre o.settings) ↔
      ∀ f, CrossingHarmless h env pre o.settings f) ∧
    ∀ (env' : Env) (o' : MongodbConnectionOptions),
      (∀ f, CrossingHarmless h env pre o.settings f) →
      (∀ f, CrossingHarmless h env' pre o'.settings f) →
      ∀ s ∈ documentedMongodbSettings, o.settings s.field = o'.settings s.field →
        env (pre ++ s.name) = env' (pre ++ s.name) →
        (getMongodbConfig h env o pre).settings s.field =
          (getMongodbConfig h env' o' pre).settings s.field := by
  have hall : ∀ f : MongodbSetting, ∃ s ∈ documentedMongodbSettings, s.field = f := by
    intro f
    cases f <;> decide
  refine ⟨⟨?_, ?_⟩, ?_⟩
  · intro hasked f
    obtain ⟨s, hs, rfl⟩ := hall f
    exact (resolved_as_asked_iff h env pre o hs).mp (hasked s hs)
  · intro hharmless s hs
    exact (resolved_as_asked_iff h env pre o hs).mpr (hharmless s.field)
  · intro env' o' hharmless hharmless' s hs hoption hvariable
    calc (getMongodbConfig h env o pre).settings s.field
        = s.asked h env pre o.settings :=
          (resolved_as_asked_iff h env pre o hs).mpr (hharmless s.field)
      _ = s.asked h env' pre o'.settings := Setting.asked_congr h hoption hvariable
      _ = (getMongodbConfig h env' o' pre).settings s.field :=
          ((resolved_as_asked_iff h env' pre o' hs).mpr (hharmless' s.field)).symm

end

/-- With `minPoolSize` 5 as the only option and an empty environment, `maxPoolSize` comes
out as 5 and not as absent. -/
theorem minPoolSize_taken_for_maxPoolSize :
    ¬ ∀ (h : VarHelpers) (env : Env) (pre : String) (o : MongodbConnectionOptions),
      ∀ s ∈ documentedMongodbSettings,
        (getMongodbConfig h env o pre).settings s.field = s.asked h env pre o.settings := by
  intro hasked
  have hmax := hasked ⟨id, id, rfl, rfl⟩ (fun _ => none) "MONGODB_"
    ⟨.undefined, none, fun f => if f = .minPoolSize then .num 5 else .undefined⟩
    ⟨.maxPoolSize, .int, "MAX_POOL_SIZE"⟩ (by decide)
  rw [resolved_maxPoolSize] at hmax
  exact absurd hmax (by decide)

end Xnestjs.Analysis
