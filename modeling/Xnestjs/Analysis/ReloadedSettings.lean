import Xnestjs.Analysis.MongodbSettings
import Xnestjs.Analysis.RedisSettings
import Xnestjs.Model.Defaults
import Xnestjs.Program.GetElasticsearchConfig
import Xnestjs.Program.GetRabbitmqConfig
import Xnestjs.Program.GetStorageConfig
import Xnestjs.Program.RedisessCoreModule

/-!
# Resolved configurations, resolved again

The loaders are exported, and the modules call them on whatever they are given, so that a
configuration which a loader has resolved may go through it a second time. It should come out as
it went in. It does with six of the loaders, whose every setting is filled in from itself. In
the MongoDB loader the sizes of the pool go round through each other, and a `minPoolSize` from
the environment turns up as `maxPoolSize` the second time.
-/

set_option autoImplicit false

namespace Xnestjs.Analysis

open Xnestjs.Model

/-! ## Redis -/

section

open Xnestjs.Program.GetRedisConfig

variable (h : RedisVarHelpers) (env : Env) (pre : String)

/-- `toIntDef(env[pre + name], d)` as a default. -/
def intDefault (k : RedisSetting) (name : String) (d : ℚ) : Defaults RedisSetting :=
  .single k (h.toIntDef (env.get (pre ++ name)) (.num d))

/-- The defaults of the common settings, without `maxRetriesPerRequest`.
SOURCE: get-redis-config.ts:28-49 -/
def commonDefaults : Defaults RedisSetting :=
  (intDefault h env pre .db "DB" 0).orElse
    (envDefaults h.toVarHelpers env pre (linesBeforeReconnect ++ linesAfterReconnect))

/-- SOURCE: get-redis-config.ts:55-56 -/
def lazyDefault : Defaults RedisSetting :=
  .single .lazyConnect (h.toBoolean ((env.get (pre ++ "LAZY_CONNECT")).coalesce (.str "false")))

/-- SOURCE: get-redis-config.ts:50-54 -/
def filledRetries (v : Value) : Value :=
  if v = .null then .null else v.coalesce (h.toInt (env.get (pre ++ "MAX_RETRIES_PER_REQUEST")))

/-- Defaults, and what becomes of `maxRetriesPerRequest`, which has none among them. -/
def fillRedis (d : Defaults RedisSetting) (o : RedisSetting → Value) : RedisSetting → Value :=
  Function.update (d.fill o) .maxRetriesPerRequest
    (filledRetries h env pre (o .maxRetriesPerRequest))

/-- INTERNAL: the number of retries is filled in once. SOURCE: get-redis-config.ts:50-54 -/
theorem filledRetries_idem (v : Value) :
    filledRetries h env pre (filledRetries h env pre v) = filledRetries h env pre v := by
  unfold filledRetries
  by_cases hv : v = .null
  · simp [hv]
  · rw [if_neg hv]
    split_ifs with hnull
    · exact hnull.symm
    · exact Value.coalesce_idem _ _

/-- INTERNAL: so are the settings of Redis. -/
theorem fillRedis_idem (d : Defaults RedisSetting) (o : RedisSetting → Value) :
    fillRedis h env pre d (fillRedis h env pre d o) = fillRedis h env pre d o := by
  funext k
  by_cases hk : k = .maxRetriesPerRequest
  · subst hk
    simp only [fillRedis, Function.update_self, filledRetries_idem]
  · have hkept : d.fill (fillRedis h env pre d o) k = d.fill (d.fill o) k := by
      unfold fillRedis Defaults.fill
      simp only [Function.update_of_ne hk]
    rw [fillRedis, Function.update_of_ne hk, hkept, Defaults.fill_idem, fillRedis,
      Function.update_of_ne hk]

/-- INTERNAL: the common assignments fill in defaults. SOURCE: get-redis-config.ts:28-54 -/
theorem assignCommon_fills (o : RedisOptions) :
    (assignCommon h env pre o).settings =
      fillRedis h env pre (commonDefaults h env pre) o.settings := by
  have hown : ∀ l ∈ linesBeforeReconnect ++ linesAfterReconnect, l.source = l.target := by
    decide
  have hfill : runEnvLines h.toVarHelpers env pre (linesBeforeReconnect ++ linesAfterReconnect)
      (assignIntDef h env pre .db "DB" 0 o.settings) =
      (commonDefaults h env pre).fill o.settings := by
    rw [commonDefaults, ← Defaults.fill_fill, fill_envDefaults _ _ _ hown, intDefault,
      Defaults.fill_single]
    rfl
  have hretries : (commonDefaults h env pre).fill o.settings .maxRetriesPerRequest =
      o.settings .maxRetriesPerRequest := Defaults.fill_of_none rfl _
  rw [assignCommon_settings, hfill, assignMaxRetries, hretries]
  rfl

/-- INTERNAL: the common part, assigned again. SOURCE: get-redis-config.ts:28-54 -/
theorem assignCommon_idem (o : RedisOptions) :
    assignCommon h env pre (assignCommon h env pre o) = assignCommon h env pre o := by
  have hsettings : (assignCommon h env pre (assignCommon h env pre o)).settings =
      (assignCommon h env pre o).settings := by
    rw [assignCommon_fills, assignCommon_fills, fillRedis_idem]
  have hsplit : assignCommon h env pre (assignCommon h env pre o) =
      { assignCommon h env pre o with
        settings := (assignCommon h env pre (assignCommon h env pre o)).settings } := rfl
  rw [hsplit, hsettings]

/-- The defaults of a standalone configuration, without `maxRetriesPerRequest`. -/
def standaloneDefaults : Defaults RedisSetting :=
  ((intDefault h env pre .port "PORT" 6379).orElse (commonDefaults h env pre)).orElse
    (lazyDefault h env pre)

/-- INTERNAL: two rounds of defaults are one with both, the first ones first. -/
theorem fillRedis_fill {d : Defaults RedisSetting} (hd : d .maxRetriesPerRequest = none)
    (e : Defaults RedisSetting) (o : RedisSetting → Value) :
    fillRedis h env pre e (d.fill o) = fillRedis h env pre (d.orElse e) o := by
  unfold fillRedis
  rw [Defaults.fill_fill, Defaults.fill_of_none hd]

/-- INTERNAL: `lazyConnect` comes last, from the options of the caller.
SOURCE: get-redis-config.ts:55-56 -/
theorem assignLazyConnect_fillRedis {d : Defaults RedisSetting} (hd : d .lazyConnect = none)
    (o : RedisSetting → Value) :
    assignLazyConnect h env pre (o .lazyConnect) (fillRedis h env pre d o) =
      fillRedis h env pre (d.orElse (lazyDefault h env pre)) o := by
  have hkept : d.fill o .lazyConnect = o .lazyConnect := Defaults.fill_of_none hd o
  unfold assignLazyConnect fillRedis lazyDefault
  rw [← Defaults.fill_fill, Defaults.fill_single, hkept]
  exact Function.update_comm (by decide) _ _ _

/-- INTERNAL: the cluster branch. SOURCE: get-redis-config.ts:19-22, 28-57 -/
theorem getRedisConfig_of_nodes {o : RedisConnectionOptions} {l : List ClusterNode}
    (hnodes : o.nodes = some l) :
    getRedisConfig h env (some o) pre =
      { o with
        redisOptions := some (assignCommon h env pre (o.redisOptions.getD .empty))
        settings := (lazyDefault h env pre).fill o.settings } := by
  unfold getRedisConfig
  simp only [Option.getD_some, isClusterOptions, hnodes, Option.isSome_some, if_true,
    lazyDefault, Defaults.fill_single]
  rfl

/-- INTERNAL: the other branch. SOURCE: get-redis-config.ts:23-57 -/
theorem getRedisConfig_of_no_nodes {o : RedisConnectionOptions} (hnodes : o.nodes = none) :
    getRedisConfig h env (some o) pre =
      { o with
        host := some (o.host.getD ((env (pre ++ "HOST")).getD "localhost"))
        settings := fillRedis h env pre (standaloneDefaults h env pre) o.settings
        reconnectOnError :=
          some (o.reconnectOnError.getD (reconnectFromEnv h env pre)) } := by
  have hport : assignIntDef h env pre .port "PORT" 6379 o.settings =
      (intDefault h env pre .port "PORT" 6379).fill o.settings :=
    (Defaults.fill_single _ _ _).symm
  have hsettings : assignLazyConnect h env pre (o.settings .lazyConnect)
      (assignCommon h env pre ⟨some (o.host.getD ((env (pre ++ "HOST")).getD "localhost")),
        assignIntDef h env pre .port "PORT" 6379 o.settings, o.reconnectOnError⟩).settings =
      fillRedis h env pre (standaloneDefaults h env pre) o.settings := by
    rw [assignCommon_fills, hport, fillRedis_fill h env pre rfl]
    exact assignLazyConnect_fillRedis h env pre rfl o.settings
  rw [← hsettings]
  unfold getRedisConfig
  simp only [Option.getD_some, isClusterOptions, hnodes, Option.isSome_none, Bool.false_eq_true,
    if_false]
  rfl

/-- INTERNAL: **Redis**. SOURCE: get-redis-config.ts:11-58 -/
theorem redis_reloaded (options : Option RedisConnectionOptions) :
    getRedisConfig h env (some (getRedisConfig h env options pre)) pre =
      getRedisConfig h env options pre := by
  have hgiven : getRedisConfig h env options pre =
      getRedisConfig h env (some (options.getD .empty)) pre := rfl
  rw [hgiven]
  generalize options.getD .empty = o
  cases hnodes : o.nodes with
  | some l =>
    rw [getRedisConfig_of_nodes h env pre hnodes]
    refine (getRedisConfig_of_nodes h env pre (l := l) ?_).trans ?_
    · exact hnodes
    · simp only [Option.getD_some, assignCommon_idem, Defaults.fill_idem]
  | none =>
    rw [getRedisConfig_of_no_nodes h env pre hnodes]
    refine (getRedisConfig_of_no_nodes h env pre ?_).trans ?_
    · exact hnodes
    · simp only [Option.getD_some, fillRedis_idem]

end

/-! ## Kafka -/

section

open Xnestjs.Program.GetKafkaConfig

variable (h : VarHelpers) (env : Env) (pre : String)

/-- INTERNAL: a group that is built when there is none. -/
theorem buildIfNullish_idem {T : Type} (c : Bool) (t : T) (g : SettingGroup T) :
    let build := fun g : SettingGroup T => if g.nullish ∧ c then SettingGroup.built t else g
    build (build g) = build g := by
  intro build
  by_cases hbuild : g.nullish ∧ c
  · have hbuilt : build g = .built t := if_pos hbuild
    rw [hbuilt]
    have hgiven : ¬ ((SettingGroup.built t).nullish ∧ c) := fun hnull =>
      Bool.false_ne_true hnull.1
    exact if_neg hgiven
  · have hkept : build g = g := if_neg hbuild
    rw [hkept, hkept]

/-- INTERNAL: `ssl` is built once. SOURCE: get-kafka-config.ts:16-31 -/
theorem assignSsl_idem (ssl : SettingGroup SslOptions) :
    assignSsl h env pre (assignSsl h env pre ssl) = assignSsl h env pre ssl :=
  buildIfNullish_idem _ _ ssl

/-- INTERNAL: so is `retry`. SOURCE: get-kafka-config.ts:67-74 -/
theorem assignRetry_idem (retry : SettingGroup RetryOptions) :
    assignRetry h env pre (assignRetry h env pre retry) = assignRetry h env pre retry :=
  buildIfNullish_idem _ _ retry

/-- INTERNAL: the credentials are built, or what is given stays.
SOURCE: get-kafka-config.ts:32-53 -/
theorem assignSasl_built_or_given (given : SettingGroup SaslOptions) :
    (∃ sasl, assignSasl env pre given = .built sasl) ∨ assignSasl env pre given = given := by
  unfold assignSasl
  split
  · exact Or.inr rfl
  · split_ifs
    · exact Or.inl ⟨_, rfl⟩
    · exact Or.inl ⟨_, rfl⟩
    · exact Or.inr rfl
    · exact Or.inr rfl

/-- INTERNAL: credentials that have been built are kept. SOURCE: get-kafka-config.ts:32-53 -/
theorem assignSasl_of_built (sasl : SaslOptions) :
    assignSasl env pre (.built sasl) = .built sasl := by
  unfold assignSasl
  split
  · rfl
  · simp [SettingGroup.nullish]

/-- INTERNAL: so that they are built once. SOURCE: get-kafka-config.ts:32-53 -/
theorem assignSasl_idem (given : SettingGroup SaslOptions) :
    assignSasl env pre (assignSasl env pre given) = assignSasl env pre given := by
  rcases assignSasl_built_or_given env pre given with ⟨sasl, hbuilt⟩ | hkept
  · rw [hbuilt, assignSasl_of_built]
  · rw [hkept, hkept]

/-- INTERNAL: the single settings, and `lazyConnect` after them.
SOURCE: get-kafka-config.ts:54-66, 79-81 -/
theorem kafkaSettings_idem (o : KafkaSetting → Value) :
    let assigned := assignLazyConnect h env pre (runEnvLines h env pre settingLines o)
    assignLazyConnect h env pre (runEnvLines h env pre settingLines assigned) = assigned := by
  have hown : ∀ l ∈ settingLines, l.source = l.target := by decide
  let d : Defaults KafkaSetting :=
    (envDefaults h env pre settingLines).orElse (.single .lazyConnect
      (h.toBoolean ((env.get (pre ++ "LAZY_CONNECT")).coalesce (.str "false"))))
  have hfill : ∀ o, assignLazyConnect h env pre (runEnvLines h env pre settingLines o) =
      d.fill o := by
    intro o
    rw [← Defaults.fill_fill, fill_envDefaults _ _ _ hown, Defaults.fill_single]
    rfl
  intro assigned
  show assignLazyConnect h env pre (runEnvLines h env pre settingLines assigned) = assigned
  rw [hfill, show assigned = d.fill o from hfill o, Defaults.fill_idem]

/-- INTERNAL: **Kafka**. SOURCE: get-kafka-config.ts:7-83 -/
theorem kafka_reloaded (o : KafkaConnectionOptions) :
    getKafkaConfig h env (getKafkaConfig h env o pre) pre = getKafkaConfig h env o pre := by
  have hconsumer : assignConsumer env pre (assignConsumer env pre o.consumer) =
      assignConsumer env pre o.consumer := by
    simp only [assignConsumer, Option.getD_some, Value.coalesce_idem]
  have hbrokers : assignBrokers env pre (assignBrokers env pre o.brokers) =
      assignBrokers env pre o.brokers := rfl
  unfold getKafkaConfig
  simp only [hbrokers, assignSsl_idem, assignSasl_idem, assignRetry_idem, hconsumer,
    kafkaSettings_idem]

end

/-! ## Elasticsearch -/

section

open Xnestjs.Program.GetElasticsearchConfig
open Xnestjs.Program.GetKafkaConfig (SettingGroup SettingGroup.nullish)

variable (h : VarHelpers) (env : Env) (pre : String)

/-- INTERNAL: the nodes are filled in once. SOURCE: get-elasticsearch-config.ts:12-23 -/
theorem assignNodes_idem (o : ElasticsearchConnectionOptions) :
    assignNodes env pre (assignNodes env pre o) = assignNodes env pre o := by
  by_cases hnode : (o.node.orElse (env.get (pre ++ "NODE"))).truthy = true
  · have hassigned : assignNodes env pre o =
        { o with node := o.node.orElse (env.get (pre ++ "NODE")) } := by
      simp [assignNodes, hnode]
    rw [hassigned]
    simp [assignNodes, Value.orElse_idem, hnode]
  · by_cases hnodes : (o.nodes.orElse (env.get (pre ++ "NODES"))).truthy = true
    · have hassigned : assignNodes env pre o =
          { o with
            node := o.node.orElse (env.get (pre ++ "NODE"))
            nodes := o.nodes.orElse (env.get (pre ++ "NODES")) } := by
        simp [assignNodes, hnode, hnodes]
      rw [hassigned]
      simp [assignNodes, Value.orElse_idem, hnode, hnodes]
    · have hassigned : assignNodes env pre o =
          { o with
            node := .str "http://localhost:9200"
            nodes := o.nodes.orElse (env.get (pre ++ "NODES")) } := by
        simp [assignNodes, hnode, hnodes]
      have hdefault : (Value.str "http://localhost:9200").truthy = true := by decide
      rw [hassigned]
      simp [assignNodes, Value.orElse_of_truthy _ hdefault, hdefault]

/-- INTERNAL: so is `tls`. SOURCE: get-elasticsearch-config.ts:30-45 -/
theorem assignTls_idem (o : ElasticsearchConnectionOptions) :
    assignTls h env pre (assignTls h env pre o) = assignTls h env pre o := by
  by_cases hbuild : o.tls.nullish ∧ (h.toBoolean (env.get (pre ++ "TLS"))).truthy
  · have hbuilt : assignTls h env pre o = { o with tls := .built _ } := if_pos hbuild
    rw [hbuilt]
    simp [assignTls, SettingGroup.nullish]
  · have hkept : assignTls h env pre o = o := if_neg hbuild
    rw [hkept, hkept]

/-- INTERNAL: credentials that are given are kept. SOURCE: get-elasticsearch-config.ts:47-69 -/
theorem assignAuth_of_truthy {o : ElasticsearchConnectionOptions}
    (hgiven : truthyGroup o.auth = true) : assignAuth env pre o = o := if_pos hgiven

/-- INTERNAL: credentials are built, or the options stay.
SOURCE: get-elasticsearch-config.ts:47-69 -/
theorem assignAuth_idem (o : ElasticsearchConnectionOptions) :
    assignAuth env pre (assignAuth env pre o) = assignAuth env pre o := by
  have hbuilt_or_kept : truthyGroup (assignAuth env pre o).auth = true ∨
      assignAuth env pre o = o := by
    simp only [assignAuth, assignApiKey]
    split_ifs <;> simp [truthyGroup]
  rcases hbuilt_or_kept with hbuilt | hkept
  · exact assignAuth_of_truthy env pre hbuilt
  · rw [hkept, hkept]

/-- INTERNAL: **Elasticsearch**. SOURCE: get-elasticsearch-config.ts:6-78 -/
theorem elasticsearch_reloaded (o : ElasticsearchConnectionOptions) :
    getElasticsearchConfig h env (getElasticsearchConfig h env o pre) pre =
      getElasticsearchConfig h env o pre := by
  have hown : ∀ l ∈ settingLines, l.source = l.target := by decide
  generalize hconfig : getElasticsearchConfig h env o pre = config
  rw [getElasticsearchConfig_parts] at hconfig
  have hnodes := assignNodes_congr env pre
    (show config.node = (assignNodes env pre o).node from hconfig ▸ rfl)
    (show config.nodes = (assignNodes env pre o).nodes from hconfig ▸ rfl)
  have htls := assignTls_congr h env pre
    (show config.tls = (assignTls h env pre o).tls from hconfig ▸ rfl)
  have hauth := assignAuth_congr env pre
    (show config.auth = (assignAuth env pre o).auth from hconfig ▸ rfl)
  have hsettings : config.settings = runEnvLines h env pre settingLines o.settings :=
    hconfig ▸ rfl
  rw [getElasticsearchConfig_parts, hnodes.1, hnodes.2, htls, hauth, hsettings,
    assignNodes_idem, assignTls_idem, assignAuth_idem, runEnvLines_idem h env pre hown]
  exact hconfig

end

/-! ## RabbitMQ -/

section

open Xnestjs.Program.GetRabbitmqConfig

/-- INTERNAL: **RabbitMQ**, the result as an options object. The nullish settings it has lost
are undefined the second time. SOURCE: get-rabbitmq-config.ts:6-36 -/
theorem rabbitmq_reloaded (h : VarHelpers) (env : Env) (pre : String) (init : RabbitmqInit) :
    getRabbitmqConfig h env (.options (getRabbitmqConfig h env init pre)) pre =
      getRabbitmqConfig h env init pre := by
  have hown : ∀ l ∈ settingLines, l.source = l.target := by decide
  funext f
  unfold getRabbitmqConfig
  simp only [← fill_envDefaults h env pre hown]
  cases hd : envDefaults h env pre settingLines f with
  | none => simp only [initialOptions, Defaults.fill_of_none hd, Value.omitNullish_idem]
  | some w =>
    simp only [initialOptions, Defaults.fill_of_some hd, Value.omitNullish_coalesce_idem]

end

/-! ## The session manager of redisess -/

section

open Xnestjs.Program.RedisessCoreModule

variable (h : VarHelpers) (env : Env) (pre : String)

/-- INTERNAL: **redisess**. SOURCE: get-redisess-config.ts:6-17 -/
theorem redisess_reloaded (o : RedisessSessionOptions) :
    getRedisessConfig h env (getRedisessConfig h env o pre) pre =
      getRedisessConfig h env o pre := by
  have hown : ∀ l ∈ settingLines, l.source = l.target := by decide
  let d : Defaults RedisessSetting :=
    (envDefaults h env pre settingLines).orElse (.single .wipeInterval
      ((h.toInt (env.get (pre ++ "WIPE_INTERVAL"))).coalesce (.num 5000)))
  have hfill : ∀ o : RedisessSessionOptions,
      getRedisessConfig h env o pre = { o with settings := d.fill o.settings } := by
    intro o
    unfold getRedisessConfig assignWipeInterval
    rw [← Defaults.fill_fill, fill_envDefaults h env pre hown, Defaults.fill_single,
      Value.coalesce_assoc]
  rw [hfill, hfill, Defaults.fill_idem]

end

/-! ## Storage -/

section

open Xnestjs.Program.GetStorageConfig

variable (h : VarHelpers) (env : Env) (pre : String)

/-- INTERNAL: **storage**, when the function accepts the options.
SOURCE: get-storage-config.ts:6-36 -/
theorem storage_reloaded (o config : StorageOptions)
    (hconfig : getStorageConfig h env o pre = .ok config) :
    getStorageConfig h env config pre = .ok config := by
  have hown : ∀ l ∈ settingLines, l.source = l.target := by decide
  have hs3 : ∀ s3, assignS3 h env pre (some (assignS3 h env pre s3)) = assignS3 h env pre s3 :=
    fun s3 => runEnvLines_idem h env pre hown _
  unfold getStorageConfig at hconfig
  split at hconfig
  · cases hconfig
  · split_ifs at hconfig with hempty hprovider
    obtain rfl := Except.ok.inj hconfig
    subst hprovider
    simp [getStorageConfig, assignProvider, hs3]

end

/-! ## All of them -/

section

open Xnestjs.Program

/-- **Resolved again**, a configuration stays as it is: the loaders of Redis, Kafka,
Elasticsearch, RabbitMQ, the session manager and the storage, with any options and any
environment.
SOURCE: get-redis-config.ts:11-58, get-kafka-config.ts:7-83, get-elasticsearch-config.ts:6-78,
get-rabbitmq-config.ts:6-36, get-redisess-config.ts:6-17, get-storage-config.ts:6-36 -/
theorem reloaded_settings (h : GetRedisConfig.RedisVarHelpers) (env : Env) (pre : String) :
    (∀ options, GetRedisConfig.getRedisConfig h env
        (some (GetRedisConfig.getRedisConfig h env options pre)) pre =
      GetRedisConfig.getRedisConfig h env options pre) ∧
    (∀ options, GetKafkaConfig.getKafkaConfig h.toVarHelpers env
        (GetKafkaConfig.getKafkaConfig h.toVarHelpers env options pre) pre =
      GetKafkaConfig.getKafkaConfig h.toVarHelpers env options pre) ∧
    (∀ options, GetElasticsearchConfig.getElasticsearchConfig h.toVarHelpers env
        (GetElasticsearchConfig.getElasticsearchConfig h.toVarHelpers env options pre) pre =
      GetElasticsearchConfig.getElasticsearchConfig h.toVarHelpers env options pre) ∧
    (∀ init, GetRabbitmqConfig.getRabbitmqConfig h.toVarHelpers env
        (.options (GetRabbitmqConfig.getRabbitmqConfig h.toVarHelpers env init pre)) pre =
      GetRabbitmqConfig.getRabbitmqConfig h.toVarHelpers env init pre) ∧
    (∀ options, RedisessCoreModule.getRedisessConfig h.toVarHelpers env
        (RedisessCoreModule.getRedisessConfig h.toVarHelpers env options pre) pre =
      RedisessCoreModule.getRedisessConfig h.toVarHelpers env options pre) ∧
    (∀ options config,
      GetStorageConfig.getStorageConfig h.toVarHelpers env options pre = .ok config →
      GetStorageConfig.getStorageConfig h.toVarHelpers env config pre = .ok config) :=
  ⟨redis_reloaded h env pre, kafka_reloaded h.toVarHelpers env pre,
    elasticsearch_reloaded h.toVarHelpers env pre, rabbitmq_reloaded h.toVarHelpers env pre,
    redisess_reloaded h.toVarHelpers env pre, storage_reloaded h.toVarHelpers env pre⟩

/-- A provider that comes from its variable and is given the second time. -/
theorem s3_from_variable_reloaded :
    let h : GetRedisConfig.RedisVarHelpers :=
      { toInt := id, toBoolean := id, toInt_undefined := rfl, toBoolean_undefined := rfl,
        toIntDef := Value.coalesce, toIntDef_undefined := fun _ => rfl }
    let env : Env := fun x => if x = "STORAGE_PROVIDER" then some "s3" else none
    ∃ config, GetStorageConfig.getStorageConfig h.toVarHelpers env ⟨none, none⟩ = .ok config ∧
      GetStorageConfig.getStorageConfig h.toVarHelpers env config = .ok config := by
  intro h env
  obtain ⟨-, -, -, -, -, hstorage⟩ := reloaded_settings h env "STORAGE_"
  exact ⟨_, rfl, hstorage ⟨none, none⟩ _ rfl⟩

end

/-! ## MongoDB -/

section

open Xnestjs.Program.GetMongodbConfig

variable (h : VarHelpers) (env : Env) (pre : String)

/-- INTERNAL: the credentials of MongoDB are filled in once. SOURCE: get-mongodb-config.ts:50-54 -/
theorem authFromEnv_idem (auth : Option MongodbAuth) :
    authFromEnv env pre (authFromEnv env pre auth) = authFromEnv env pre auth := by
  have hfilled : ∀ a : MongodbAuth,
      authFromEnv env pre (some ⟨a.username.coalesce (env.get (pre ++ "USERNAME")),
        a.password.coalesce (env.get (pre ++ "PASSWORD"))⟩) =
      some ⟨a.username.coalesce (env.get (pre ++ "USERNAME")),
        a.password.coalesce (env.get (pre ++ "PASSWORD"))⟩ := by
    intro a
    unfold authFromEnv
    simp only [Option.getD_some, Value.coalesce_idem, ite_self]
  rcases auth with _ | a
  · exact hfilled ⟨.undefined, .undefined⟩
  · by_cases hown : a.username.truthy = true
    · have hkept : authFromEnv env pre (some a) = some a := if_pos hown
      rw [hkept, hkept]
    · have hset : authFromEnv env pre (some a) = some _ := if_neg hown
      rw [hset]
      exact hfilled a

/-- INTERNAL: a setting with a line of its own is filled in from itself.
SOURCE: get-mongodb-config.ts:14-80 -/
theorem resolved_uncrossed {s : Setting MongodbSetting} (hs : s ∈ documentedMongodbSettings)
    (hc : s.field ∉ crossedSettings) (o : MongodbConnectionOptions) :
    (getMongodbConfig h env o pre).settings s.field =
      (o.settings s.field).coalesce (h.convert s.type (env.get (pre ++ s.name))) := by
  rw [getMongodbConfig_settings]
  exact runEnvLines_own h env pre settingLines s (documented_line s hs hc) o.settings

/-- INTERNAL: **a setting, resolved again**, is the same, `maxPoolSize` apart.
SOURCE: get-mongodb-config.ts:6-82 -/
theorem mongodb_setting_reloaded (o : MongodbConnectionOptions) {f : MongodbSetting}
    (hf : f ≠ .maxPoolSize) :
    (getMongodbConfig h env (getMongodbConfig h env o pre) pre).settings f =
      (getMongodbConfig h env o pre).settings f := by
  by_cases hc : f ∈ crossedSettings
  · have hcases : f = .maxPoolSize ∨ f = .minPoolSize ∨ f = .tlsAllowInvalidCertificates ∨
        f = .tlsAllowInvalidHostnames ∨ f = .proxyUsername := by
      revert hc
      cases f <;> decide
    rcases hcases with rfl | rfl | rfl | rfl | rfl
    · exact absurd rfl hf
    · rw [resolved_minPoolSize, resolved_minPoolSize, Value.coalesce_coalesce_idem]
    · rw [resolved_tlsAllowInvalidCertificates, resolved_tlsAllowInvalidHostnames,
        resolved_tlsAllowInvalidCertificates]
    · rw [resolved_tlsAllowInvalidHostnames, resolved_tlsAllowInvalidHostnames]
    · have hhost : (getMongodbConfig h env o pre).settings .proxyHost =
          (o.settings .proxyHost).coalesce (env.get (pre ++ "PROXY_HOST")) :=
        resolved_uncrossed h env pre (s := ⟨.proxyHost, .text, "PROXY_HOST"⟩) (by decide)
          (by decide) o
      rw [resolved_proxyUsername, resolved_proxyUsername, hhost, Value.coalesce_idem]
  · have hdocumented : ∀ f : MongodbSetting, ∃ s ∈ documentedMongodbSettings, s.field = f := by
      intro f
      cases f <;> decide
    obtain ⟨s, hs, rfl⟩ := hdocumented f
    rw [resolved_uncrossed h env pre hs hc, resolved_uncrossed h env pre hs hc,
      Value.coalesce_idem]

/-- INTERNAL: `maxPoolSize` is what came out for `minPoolSize`.
SOURCE: get-mongodb-config.ts:38-41 -/
theorem mongodb_maxPoolSize_reloaded_iff (o : MongodbConnectionOptions) :
    (getMongodbConfig h env (getMongodbConfig h env o pre) pre).settings .maxPoolSize =
      (getMongodbConfig h env o pre).settings .maxPoolSize ↔
    ((o.settings .minPoolSize).nullish = true →
      (h.toInt (env.get (pre ++ "MAX_POOL_SIZE"))).nullish = true →
      (h.toInt (env.get (pre ++ "MIN_POOL_SIZE"))).nullish = true) := by
  rw [resolved_maxPoolSize, resolved_minPoolSize, resolved_maxPoolSize]
  exact Value.coalesce_round_iff _ _ _

/-- **A MongoDB configuration resolved again** stays as it is unless `MIN_POOL_SIZE` alone sets the
size of the pool: `MAX_POOL_SIZE` and the option `minPoolSize` are not given. Then
`maxPoolSize` becomes what `minPoolSize` is. SOURCE: get-mongodb-config.ts:6-82 -/
theorem mongodb_reloaded_iff (o : MongodbConnectionOptions) :
    getMongodbConfig h env (getMongodbConfig h env o pre) pre = getMongodbConfig h env o pre ↔
      ((o.settings .minPoolSize).nullish = true →
        (h.toInt (env.get (pre ++ "MAX_POOL_SIZE"))).nullish = true →
        (h.toInt (env.get (pre ++ "MIN_POOL_SIZE"))).nullish = true) := by
  rw [← mongodb_maxPoolSize_reloaded_iff]
  constructor
  · intro hsame
    rw [hsame]
  · intro hmax
    have hsettings : (getMongodbConfig h env (getMongodbConfig h env o pre) pre).settings =
        (getMongodbConfig h env o pre).settings := by
      funext f
      by_cases hf : f = .maxPoolSize
      · rw [hf, hmax]
      · exact mongodb_setting_reloaded h env pre o hf
    have hauth := authFromEnv_idem env pre o.auth
    have hurl := Value.orElse_idem o.url
      ((env.get (pre ++ "URL")).coalesce (.str "mongodb://localhost:27017"))
    have hparts : ∀ o o' : MongodbConnectionOptions,
        o.url = o'.url → o.auth = o'.auth → o.settings = o'.settings → o = o' := by
      rintro ⟨⟩ ⟨⟩ rfl rfl rfl
      rfl
    exact hparts _ _ hurl hauth hsettings

end

end Xnestjs.Analysis
