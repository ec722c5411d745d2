import Xnestjs.Model.EnvReads
import Xnestjs.Program.GetElasticsearchConfig
import Xnestjs.Program.GetMongodbConfig
import Xnestjs.Program.GetRabbitmqConfig
import Xnestjs.Program.GetRedisConfig
import Xnestjs.Program.GetStorageConfig
import Xnestjs.Program.RedisessCoreModule

/-!
# Modules that share one environment

An application registers several of the modules, some of them more than once, and all of them read
`process.env`. A loader reads the variables of its own list under its own prefix and nothing else,
so that modules whose prefixes are apart are configured independently.
-/

set_option autoImplicit false

namespace Xnestjs.Analysis

open Xnestjs.Model

/-! ## The variables of each loader -/

section

variable {env env' : Env} {pre : String}

section

open Xnestjs.Program.GetRedisConfig

/-- The variable `NODES` is not among them: it is looked at only when there are nodes already.
SOURCE: get-redis-config.ts:11-58 -/
def redisVariables : List String :=
  ["HOST", "PORT", "DB", "USERNAME", "PASSWORD", "AUTO_RESUBSCRIBE", "RECONNECT_ON_ERROR",
    "CONNECT_TIMEOUT", "SOCKET_TIMEOUT", "KEEP_ALIVE", "NO_DELAY", "CONNECTION_NAME",
    "MAX_RETRIES_PER_REQUEST", "LAZY_CONNECT"]

variable (h : RedisVarHelpers) (hsame : SameVariables redisVariables pre env env')

include hsame

/-- INTERNAL: the common settings depend on their own variables.
SOURCE: get-redis-config.ts:28-54 -/
theorem assignCommon_own (o : RedisOptions) :
    assignCommon h env pre o = assignCommon h env' pre o := by
  have hbefore := hsame.runEnvLines_eq h.toVarHelpers linesBeforeReconnect (by decide)
  have hafter := hsame.runEnvLines_eq h.toVarHelpers linesAfterReconnect (by decide)
  have hdb := hsame.get (n := "DB") (by decide)
  have hretries : assignMaxRetries h env pre = assignMaxRetries h env' pre := by
    unfold assignMaxRetries
    rw [hsame.get (n := "MAX_RETRIES_PER_REQUEST") (by decide)]
  have hreconnect : reconnectFromEnv h env pre = reconnectFromEnv h env' pre := by
    unfold reconnectFromEnv
    rw [hsame.get (n := "RECONNECT_ON_ERROR") (by decide)]
  simp only [assignCommon, assignIntDef, hbefore, hafter, hdb, hretries, hreconnect]

/-- INTERNAL: so does the whole configuration of Redis. SOURCE: get-redis-config.ts:11-58 -/
theorem getRedisConfig_own (options : Option RedisConnectionOptions) :
    getRedisConfig h env options pre = getRedisConfig h env' options pre := by
  have hhost := hsame "HOST" (by decide)
  have hport := hsame.get (n := "PORT") (by decide)
  have hlazy := hsame.get (n := "LAZY_CONNECT") (by decide)
  have hcommon := assignCommon_own h hsame
  by_cases hcluster : isClusterOptions (options.getD .empty) = true
  · obtain ⟨l, hnodes⟩ := Option.isSome_iff_exists.mp hcluster
    simp only [getRedisConfig, hcluster, if_true, hnodes, Option.getD_some, assignLazyConnect,
      hlazy, hcommon]
  · rw [Bool.not_eq_true] at hcluster
    simp only [getRedisConfig, hcluster, Bool.false_eq_true, if_false, assignLazyConnect,
      assignIntDef, hhost, hport, hlazy, hcommon]

end

section

open Xnestjs.Program.GetKafkaConfig

/-- SOURCE: get-kafka-config.ts:7-83 -/
def kafkaVariables : List String :=
  ["BROKERS", "SSL", "SSL_CA_CERT", "SSL_CERT_FILE", "SSL_KEY_FILE", "SSL_KEY_PASSPHRASE",
    "SSL_REJECT_UNAUTHORIZED", "SASL", "SASL_USERNAME", "SASL_PASSWORD", "AWS_AUTH_IDENTITY",
    "AWS_ACCESS_KEY_ID", "AWS_SECRET_ACCESS_KEY", "AWS_SESSION_TOKEN", "CLIENT_ID",
    "CONNECT_TIMEOUT", "AUTH_TIMEOUT", "REAUTH_THRESHOLD", "REQUEST_TIMEOUT",
    "ENFORCE_REQUEST_TIMEOUT", "RETRIES", "RETRY_MAX_TIME", "RETRY_INITIAL_TIME",
    "CONSUMER_GROUP_ID", "LAZY_CONNECT"]

variable (h : VarHelpers) (hsame : SameVariables kafkaVariables pre env env')

include hsame

/-- INTERNAL: the configuration of Kafka depends on its own variables.
SOURCE: get-kafka-config.ts:7-83 -/
theorem getKafkaConfig_own (o : KafkaConnectionOptions) :
    getKafkaConfig h env o pre = getKafkaConfig h env' o pre := by
  have hlines := hsame.runEnvLines_eq h settingLines (by decide)
  have hbrokers := hsame "BROKERS" (by decide)
  have hssl : assignSsl h env pre o.ssl = assignSsl h env' pre o.ssl := by
    simp only [assignSsl, orEmpty, hsame "SSL_CA_CERT" (by decide),
      hsame.get (n := "SSL") (by decide), hsame.get (n := "SSL_CERT_FILE") (by decide),
      hsame.get (n := "SSL_KEY_FILE") (by decide),
      hsame.get (n := "SSL_KEY_PASSPHRASE") (by decide),
      hsame.get (n := "SSL_REJECT_UNAUTHORIZED") (by decide)]
  have hsasl : assignSasl env pre o.sasl = assignSasl env' pre o.sasl := by
    simp only [assignSasl, orEmpty, hsame "SASL" (by decide), hsame "SASL_USERNAME" (by decide),
      hsame "SASL_PASSWORD" (by decide), hsame "AWS_AUTH_IDENTITY" (by decide),
      hsame "AWS_ACCESS_KEY_ID" (by decide), hsame "AWS_SECRET_ACCESS_KEY" (by decide),
      hsame.get (n := "AWS_SESSION_TOKEN") (by decide)]
  have hretry : assignRetry h env pre o.retry = assignRetry h env' pre o.retry := by
    simp only [assignRetry, hsame.get (n := "RETRIES") (by decide),
      hsame.get (n := "RETRY_MAX_TIME") (by decide),
      hsame.get (n := "RETRY_INITIAL_TIME") (by decide)]
  have hgroup := hsame.get (n := "CONSUMER_GROUP_ID") (by decide)
  have hlazy := hsame.get (n := "LAZY_CONNECT") (by decide)
  simp only [getKafkaConfig, assignBrokers, hbrokers, hssl, hsasl, hlines, hretry,
    assignConsumer, hgroup, assignLazyConnect, hlazy]

end

section

open Xnestjs.Program.GetKafkaConfig (orEmpty)
open Xnestjs.Program.GetElasticsearchConfig

/-- SOURCE: get-elasticsearch-config.ts:6-78 -/
def elasticsearchVariables : List String :=
  ["NODE", "NODES", "MAX_RETRIES", "REQUEST_TIMEOUT", "PING_TIMEOUT", "TLS", "TLS_CA_CERT",
    "TLS_CERT_FILE", "TLS_KEY_FILE", "TLS_KEY_PASSPHRASE", "TLS_REJECT_UNAUTHORIZED", "NAME",
    "AUTH_USERNAME", "AUTH_PASSWORD", "AUTH_BEARER", "AUTH_API_KEY", "API_KEY_ID", "API_KEY",
    "CA_FINGERPRINT", "MAX_RESPONSE_SIZE", "MAX_COMPRESSED_RESPONSE_SIZE"]

variable (h : VarHelpers) (hsame : SameVariables elasticsearchVariables pre env env')

include hsame

/-- INTERNAL: the credentials of Elasticsearch depend on their own variables.
SOURCE: get-elasticsearch-config.ts:47-69 -/
theorem assignAuth_own (o : ElasticsearchConnectionOptions) :
    assignAuth env pre o = assignAuth env' pre o := by
  have husername := hsame.get (n := "AUTH_USERNAME") (by decide)
  have hpassword := hsame "AUTH_PASSWORD" (by decide)
  have hbearer := hsame.get (n := "AUTH_BEARER") (by decide)
  have happlied := hsame.get (n := "AUTH_API_KEY") (by decide)
  have hid := hsame.get (n := "API_KEY_ID") (by decide)
  have hkey := hsame.get (n := "API_KEY") (by decide)
  simp only [assignAuth, assignApiKey, orEmpty, husername, hpassword, hbearer, happlied, hid,
    hkey]

/-- INTERNAL: so does its whole configuration. SOURCE: get-elasticsearch-config.ts:6-78 -/
theorem getElasticsearchConfig_own (o : ElasticsearchConnectionOptions) :
    getElasticsearchConfig h env o pre = getElasticsearchConfig h env' o pre := by
  have hlines := hsame.runEnvLines_eq h settingLines (by decide)
  have hnodes : ∀ o, assignNodes env pre o = assignNodes env' pre o := by
    intro o
    simp only [assignNodes, hsame.get (n := "NODE") (by decide),
      hsame.get (n := "NODES") (by decide)]
  have htls : ∀ o, assignTls h env pre o = assignTls h env' pre o := by
    intro o
    simp only [assignTls, orEmpty, hsame "TLS_CA_CERT" (by decide),
      hsame.get (n := "TLS") (by decide), hsame.get (n := "TLS_CERT_FILE") (by decide),
      hsame.get (n := "TLS_KEY_FILE") (by decide),
      hsame.get (n := "TLS_KEY_PASSPHRASE") (by decide),
      hsame.get (n := "TLS_REJECT_UNAUTHORIZED") (by decide)]
  have hauth := assignAuth_own hsame
  simp only [getElasticsearchConfig, hnodes, hlines, htls, hauth]

end

section

open Xnestjs.Program.GetRabbitmqConfig

/-- SOURCE: get-rabbitmq-config.ts:6-36 -/
def rabbitmqVariables : List String := "HOSTS" :: settingLines.map EnvLine.name

/-- INTERNAL: the configuration of RabbitMQ depends on its own variables.
SOURCE: get-rabbitmq-config.ts:6-36 -/
theorem getRabbitmqConfig_own (h : VarHelpers)
    (hsame : SameVariables rabbitmqVariables pre env env') (init : RabbitmqInit) :
    getRabbitmqConfig h env init pre = getRabbitmqConfig h env' init pre := by
  have hlines := hsame.runEnvLines_eq h settingLines (List.subset_cons_self _ _)
  have hinit : initialOptions env pre init = initialOptions env' pre init := by
    cases init <;> simp only [initialOptions, hsame.get (n := "HOSTS") List.mem_cons_self]
  simp only [getRabbitmqConfig, hinit, hlines]

end

section

open Xnestjs.Program.GetMongodbConfig

/-- SOURCE: get-mongodb-config.ts:6-82 -/
def mongodbVariables : List String :=
  "URL" :: "USERNAME" :: "PASSWORD" :: settingLines.map EnvLine.name

/-- INTERNAL: that of MongoDB depends on its own. SOURCE: get-mongodb-config.ts:6-82 -/
theorem getMongodbConfig_own (h : VarHelpers)
    (hsame : SameVariables mongodbVariables pre env env') (o : MongodbConnectionOptions) :
    getMongodbConfig h env o pre = getMongodbConfig h env' o pre := by
  have hbefore := hsame.runEnvLines_eq h linesBeforeAuth (by decide)
  have hafter := hsame.runEnvLines_eq h linesAfterAuth (by decide)
  have hurl := hsame.get (n := "URL") (by decide)
  have husername := hsame.get (n := "USERNAME") (by decide)
  have hpassword := hsame.get (n := "PASSWORD") (by decide)
  simp only [getMongodbConfig, authFromEnv, hbefore, hafter, hurl, husername, hpassword]

end

section

open Xnestjs.Program.RedisessCoreModule

/-- SOURCE: get-redisess-config.ts:6-17 -/
def redisessVariables : List String := ["NAMESPACE", "TTL", "WIPE_INTERVAL"]

/-- INTERNAL: that of the session manager depends on its own. SOURCE: get-redisess-config.ts:6-17 -/
theorem getRedisessConfig_own (h : VarHelpers)
    (hsame : SameVariables redisessVariables pre env env') (o : RedisessSessionOptions) :
    getRedisessConfig h env o pre = getRedisessConfig h env' o pre := by
  have hlines := hsame.runEnvLines_eq h settingLines (by decide)
  have hwipe := hsame.get (n := "WIPE_INTERVAL") (by decide)
  simp only [getRedisessConfig, assignWipeInterval, hlines, hwipe]

end

section

open Xnestjs.Program.GetStorageConfig

/-- SOURCE: get-storage-config.ts:6-36 -/
def storageVariables : List String := "PROVIDER" :: settingLines.map EnvLine.name

/-- INTERNAL: that of the storage depends on its own. SOURCE: get-storage-config.ts:6-36 -/
theorem getStorageConfig_own (h : VarHelpers)
    (hsame : SameVariables storageVariables pre env env') (o : StorageOptions) :
    getStorageConfig h env o pre = getStorageConfig h env' o pre := by
  have hlines := hsame.runEnvLines_eq h settingLines (List.subset_cons_self _ _)
  have hprovider : assignProvider env pre o.provider = assignProvider env' pre o.provider := by
    simp only [assignProvider, hsame "PROVIDER" List.mem_cons_self]
  simp only [getStorageConfig, assignS3, hlines, hprovider]

end

end

/-! ## Registrations of any of the modules -/

section

open Xnestjs.Program

/-- The modules with a loader. -/
inductive LoaderKind where
  | redis
  | kafka
  | elasticsearch
  | rabbitmq
  | mongodb
  | redisess
  | storage
  deriving DecidableEq, Repr

namespace LoaderKind

/-- What is given to the loader. -/
def Options : LoaderKind → Type
  | redis => Option GetRedisConfig.RedisConnectionOptions
  | kafka => GetKafkaConfig.KafkaConnectionOptions
  | elasticsearch => GetElasticsearchConfig.ElasticsearchConnectionOptions
  | rabbitmq => GetRabbitmqConfig.RabbitmqInit
  | mongodb => GetMongodbConfig.MongodbConnectionOptions
  | redisess => RedisessCoreModule.RedisessSessionOptions
  | storage => GetStorageConfig.StorageOptions

/-- What it returns. -/
def Config : LoaderKind → Type
  | redis => GetRedisConfig.RedisConnectionOptions
  | kafka => GetKafkaConfig.KafkaConnectionOptions
  | elasticsearch => GetElasticsearchConfig.ElasticsearchConnectionOptions
  | rabbitmq => GetRabbitmqConfig.RabbitmqSetting → Value
  | mongodb => GetMongodbConfig.MongodbConnectionOptions
  | redisess => RedisessCoreModule.RedisessSessionOptions
  | storage => Except String GetStorageConfig.StorageOptions

def load (h : GetRedisConfig.RedisVarHelpers) (env : Env) (pre : String) :
    (k : LoaderKind) → k.Options → k.Config
  | redis, o => GetRedisConfig.getRedisConfig h env o pre
  | kafka, o => GetKafkaConfig.getKafkaConfig h.toVarHelpers env o pre
  | elasticsearch, o => GetElasticsearchConfig.getElasticsearchConfig h.toVarHelpers env o pre
  | rabbitmq, o => GetRabbitmqConfig.getRabbitmqConfig h.toVarHelpers env o pre
  | mongodb, o => GetMongodbConfig.getMongodbConfig h.toVarHelpers env o pre
  | redisess, o => RedisessCoreModule.getRedisessConfig h.toVarHelpers env o pre
  | storage, o => GetStorageConfig.getStorageConfig h.toVarHelpers env o pre

def variableNames : LoaderKind → List String
  | redis => redisVariables
  | kafka => kafkaVariables
  | elasticsearch => elasticsearchVariables
  | rabbitmq => rabbitmqVariables
  | mongodb => mongodbVariables
  | redisess => redisessVariables
  | storage => storageVariables

/-- The prefix when none is given. -/
def defaultPrefix : LoaderKind → String
  | redis => "REDIS_"
  | kafka => "KAFKA_"
  | elasticsearch => "ELASTIC_"
  | rabbitmq => "RMQ_"
  | mongodb => "MONGODB_"
  | redisess => "SESSION_"
  | storage => "STORAGE_"

end LoaderKind

/-- A module as an application registers it. -/
structure LoaderCall where
  kind : LoaderKind
  options : kind.Options
  pre : String

def LoaderCall.load (h : GetRedisConfig.RedisVarHelpers) (env : Env) (c : LoaderCall) :
    c.kind.Config :=
  c.kind.load h env c.pre c.options

/-- INTERNAL: **own variables**, in every loader. -/
theorem LoaderCall.load_own (h : GetRedisConfig.RedisVarHelpers) {env env' : Env}
    (c : LoaderCall) (hsame : SameVariables c.kind.variableNames c.pre env env') :
    c.load h env = c.load h env' := by
  obtain ⟨kind, options, pre⟩ := c
  cases kind with
  | redis => exact getRedisConfig_own h hsame options
  | kafka => exact getKafkaConfig_own h.toVarHelpers hsame options
  | elasticsearch => exact getElasticsearchConfig_own h.toVarHelpers hsame options
  | rabbitmq => exact getRabbitmqConfig_own h.toVarHelpers hsame options
  | mongodb => exact getMongodbConfig_own h.toVarHelpers hsame options
  | redisess => exact getRedisessConfig_own h.toVarHelpers hsame options
  | storage => exact getStorageConfig_own h.toVarHelpers hsame options

/-- **Independent modules.** Each registered module depends on its own variables only, and where
the prefixes of the modules are pairwise apart, as the default ones are, a change of one variable
changes what one of the modules is given, at most.
SOURCE: get-redis-config.ts:11-58, get-kafka-config.ts:7-83, get-elasticsearch-config.ts:6-78,
get-rabbitmq-config.ts:6-36, get-mongodb-config.ts:6-82, get-redisess-config.ts:6-17,
get-storage-config.ts:6-36 -/
theorem modules_configured_independently (h : GetRedisConfig.RedisVarHelpers) :
    (∀ (c : LoaderCall) (env env' : Env),
      (∀ n ∈ c.kind.variableNames, env (c.pre ++ n) = env' (c.pre ++ n)) →
      c.load h env = c.load h env') ∧
    (∀ (k k' : LoaderKind), k ≠ k' → Apart k.defaultPrefix k'.defaultPrefix) ∧
    ∀ (app : List LoaderCall), app.Pairwise (fun c c' => Apart c.pre c'.pre) →
      ∀ (env env' : Env) (x : String), (∀ y, y ≠ x → env y = env' y) →
        app.Pairwise fun c c' =>
          c.load h env = c.load h env' ∨ c'.load h env = c'.load h env' := by
  refine ⟨fun c env env' hsame => c.load_own h hsame, ?_, ?_⟩
  · intro k k' hne
    cases k <;> cases k' <;> first | exact absurd rfl hne | decide
  · intro app hapart env env' x hother
    refine hapart.imp fun {c c'} hcc' => ?_
    rcases hcc'.sameVariables hother with hsame | hsame
    · exact Or.inl (c.load_own h (hsame _))
    · exact Or.inr (c'.load_own h (hsame _))

/-- Two Redis modules under prefixes of their own, and a host for one of them. -/
theorem cache_host_left_to_cache :
    let h : GetRedisConfig.RedisVarHelpers :=
      { toInt := id, toBoolean := id, toInt_undefined := rfl, toBoolean_undefined := rfl,
        toIntDef := Value.coalesce, toIntDef_undefined := fun _ => rfl }
    let env : Env := fun _ => none
    let env' : Env := fun x => if x = "CACHE_HOST" then some "cache" else none
    let app : List LoaderCall := [⟨.redis, none, "CACHE_"⟩, ⟨.redis, none, "QUEUE_"⟩]
    LoaderCall.load h env ⟨.redis, none, "QUEUE_"⟩ =
        LoaderCall.load h env' ⟨.redis, none, "QUEUE_"⟩ ∧
      app.Pairwise fun c c' =>
        c.load h env = c.load h env' ∨ c'.load h env = c'.load h env' := by
  intro h env env' app
  obtain ⟨hown, -, hone⟩ := modules_configured_independently h
  refine ⟨hown ⟨.redis, none, "QUEUE_"⟩ env env' (by decide), hone app (by decide) env env'
    "CACHE_HOST" fun y hy => ?_⟩
  exact (if_neg hy).symm

end

end Xnestjs.Analysis
