import Xnestjs.Model.Assignments
import Mathlib.Logic.Function.Basic

/-!
# `getRedisConfig`

The function copies the options of the caller, decides between a cluster and a standalone
configuration, and assigns the common settings where the shape keeps them: in the nested
`redisOptions` of a cluster, on the options themselves otherwise. Options that are neither read
nor written here or by `_createClient` are left out.
-/

set_option autoImplicit false

namespace Xnestjs.Program.GetRedisConfig

open Xnestjs.Model

/-- The settings that hold plain values, under the names of the options. -/
inductive RedisSetting where
  | port
  | db
  | username
  | password
  | autoResubscribe
  | connectTimeout
  | socketTimeout
  | keepAlive
  | noDelay
  | connectionName
  | maxRetriesPerRequest
  | lazyConnect
  | tls
  | name
  deriving DecidableEq, Repr

/-- `reconnectOnError`: a function of the caller, or the one that returns a fixed value. -/
inductive ReconnectOnError where
  | given (id : ℕ)
  | always (answer : Value)
  deriving DecidableEq

/-- The options of one connection. A `host` of `none` is an absent one. -/
structure RedisOptions where
  host : Option String
  settings : RedisSetting → Value
  reconnectOnError : Option ReconnectOnError

/-- A node of a cluster: a text, a port of the local host, or a host with a port. -/
inductive ClusterNode where
  | text (s : String)
  | port (n : ℕ)
  | node (host : Value) (port : Value)
  deriving DecidableEq

/-- The argument and the result of `getRedisConfig`. `nodes` is an array or absent. -/
structure RedisConnectionOptions extends RedisOptions where
  nodes : Option (List ClusterNode)
  redisOptions : Option RedisOptions

/-- `{}` -/
def RedisOptions.empty : RedisOptions := ⟨none, fun _ => .undefined, none⟩

def RedisConnectionOptions.empty : RedisConnectionOptions := ⟨.empty, none, none⟩

/-- The conversions of variables, with the one that takes a default for an unset variable. -/
structure RedisVarHelpers extends VarHelpers where
  toIntDef : Value → Value → Value
  toIntDef_undefined : ∀ d, toIntDef .undefined d = d

/-- SOURCE: utils.ts:6-10 -/
def isClusterOptions (options : RedisConnectionOptions) : Bool := options.nodes.isSome

/-- SOURCE: utils.ts:12-16 -/
def isStandaloneOptions (options : RedisConnectionOptions) : Bool :=
  match options.host with
  | some host => host != ""
  | none => false

section

variable (h : RedisVarHelpers) (env : Env) (pre : String)

/-- SOURCE: get-redis-config.ts:29-32 -/
def linesBeforeReconnect : List (EnvLine RedisSetting) :=
  [⟨.username, .username, .text, "USERNAME"⟩,
    ⟨.password, .password, .text, "PASSWORD"⟩,
    ⟨.autoResubscribe, .autoResubscribe, .boolean, "AUTO_RESUBSCRIBE"⟩]

/-- SOURCE: get-redis-config.ts:40-49 -/
def linesAfterReconnect : List (EnvLine RedisSetting) :=
  [⟨.connectTimeout, .connectTimeout, .int, "CONNECT_TIMEOUT"⟩,
    ⟨.socketTimeout, .socketTimeout, .int, "SOCKET_TIMEOUT"⟩,
    ⟨.keepAlive, .keepAlive, .int, "KEEP_ALIVE"⟩,
    ⟨.noDelay, .noDelay, .boolean, "NO_DELAY"⟩,
    ⟨.connectionName, .connectionName, .text, "CONNECTION_NAME"⟩]

/-- `o.k = o.k ?? toIntDef(env[pre + name], d)` -/
def assignIntDef (k : RedisSetting) (name : String) (d : ℚ) (o : RedisSetting → Value) :
    RedisSetting → Value :=
  Function.update o k ((o k).coalesce (h.toIntDef (env.get (pre ++ name)) (.num d)))

/-- `null` is kept. SOURCE: get-redis-config.ts:50-54 -/
def assignMaxRetries (o : RedisSetting → Value) : RedisSetting → Value :=
  Function.update o .maxRetriesPerRequest
    (if o .maxRetriesPerRequest = .null then .null
      else (o .maxRetriesPerRequest).coalesce
        (h.toInt (env.get (pre ++ "MAX_RETRIES_PER_REQUEST"))))

/-- SOURCE: get-redis-config.ts:33-38 -/
def reconnectFromEnv : ReconnectOnError :=
  let n := env.get (pre ++ "RECONNECT_ON_ERROR")
  if n = .str "true" ∨ n = .str "false" then .always (h.toBoolean n) else .always (h.toInt n)

/-- The common settings, assigned on `redisOptions`. SOURCE: get-redis-config.ts:28-54 -/
def assignCommon (redisOptions : RedisOptions) : RedisOptions :=
  let settings := assignIntDef h env pre .db "DB" 0 redisOptions.settings
  let settings := runEnvLines h.toVarHelpers env pre linesBeforeReconnect settings
  let settings := runEnvLines h.toVarHelpers env pre linesAfterReconnect settings
  { redisOptions with
    settings := assignMaxRetries h env pre settings
    reconnectOnError := some (redisOptions.reconnectOnError.getD (reconnectFromEnv h env pre)) }

/-- The nodes that a variable names. SOURCE: get-redis-config.ts:22 -/
def nodesFromEnv : List ClusterNode :=
  let text := match env (pre ++ "NODES") with
    | some s => if s = "" then "localhost:6379" else s
    | none => "localhost:6379"
  (splitCommas text).map .text

/-- `out.lazyConnect = options?.lazyConnect ?? …` SOURCE: get-redis-config.ts:55-56 -/
def assignLazyConnect (given : Value) (o : RedisSetting → Value) : RedisSetting → Value :=
  Function.update o .lazyConnect (given.coalesce
    (h.toBoolean ((env.get (pre ++ "LAZY_CONNECT")).coalesce (.str "false"))))

/-- `getRedisConfig(options, prefix)`. SOURCE: get-redis-config.ts:11-58 -/
def getRedisConfig (options : Option RedisConnectionOptions) (pre : String := "REDIS_") :
    RedisConnectionOptions :=
  let out := options.getD .empty
  let given := out.settings .lazyConnect
  if isClusterOptions out then
    let redisOptions := out.redisOptions.getD .empty
    { out with
      redisOptions := some (assignCommon h env pre redisOptions)
      nodes := some (out.nodes.getD (nodesFromEnv env pre))
      settings := assignLazyConnect h env pre given out.settings }
  else
    let host := out.host.getD ((env (pre ++ "HOST")).getD "localhost")
    let settings := assignIntDef h env pre .port "PORT" 6379 out.settings
    let common :=
      assignCommon h env pre { out.toRedisOptions with host := host, settings := settings }
    { out with
      toRedisOptions :=
        { common with settings := assignLazyConnect h env pre given common.settings } }

end

end Xnestjs.Program.GetRedisConfig
