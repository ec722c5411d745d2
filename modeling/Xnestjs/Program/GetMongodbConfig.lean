import Xnestjs.Model.Assignments

/-!
# `getMongodbConfig`

The function copies the options of the caller and assigns one field after another on the
copy, each from an option or else from a variable of the environment. The flat settings are
the fields of one record, written as a function from the names of the fields; `url` and
`auth` are assigned in other ways. Options that the function neither reads nor writes are
left out.
-/

set_option autoImplicit false

namespace Xnestjs.Program.GetMongodbConfig

open Xnestjs.Model

/-- The flat settings, under the names of the options. -/
inductive MongodbSetting where
  | timeoutMS
  | replicaSet
  | tls
  | tlsCertificateKeyFile
  | tlsCertificateKeyFilePassword
  | tlsCAFile
  | tlsCRLFile
  | tlsAllowInvalidCertificates
  | tlsAllowInvalidHostnames
  | tlsInsecure
  | connectTimeoutMS
  | socketTimeoutMS
  | database
  | srvMaxHosts
  | maxPoolSize
  | minPoolSize
  | maxConnecting
  | maxIdleTimeMS
  | waitQueueTimeoutMS
  | maxStalenessSeconds
  | authSource
  | localThresholdMS
  | serverSelectionTimeoutMS
  | minHeartbeatFrequencyMS
  | appName
  | retryReads
  | retryWrites
  | directConnection
  | loadBalanced
  | noDelay
  | monitorCommands
  | proxyHost
  | proxyPort
  | proxyUsername
  | proxyPassword
  deriving DecidableEq, Repr

structure MongodbAuth where
  username : Value
  password : Value
  deriving DecidableEq

/-- The connection options; an `auth` of `none` is an absent one. -/
structure MongodbConnectionOptions where
  url : Value
  auth : Option MongodbAuth
  settings : MongodbSetting → Value

/-- The assignments before `auth`. SOURCE: get-mongodb-config.ts:14-49 -/
def linesBeforeAuth : List (EnvLine MongodbSetting) :=
  [⟨.timeoutMS, .timeoutMS, .int, "TIMEOUT"⟩,
    ⟨.replicaSet, .replicaSet, .text, "REPLICA_SET"⟩,
    ⟨.tls, .tls, .boolean, "TLS"⟩,
    ⟨.tlsCertificateKeyFile, .tlsCertificateKeyFile, .text, "TLS_CERT_FILE"⟩,
    ⟨.tlsCertificateKeyFilePassword, .tlsCertificateKeyFilePassword, .text,
      "TLS_CERT_FILE_PASS"⟩,
    ⟨.tlsCAFile, .tlsCAFile, .text, "TLS_CA_FILE"⟩,
    ⟨.tlsCRLFile, .tlsCRLFile, .text, "TLS_CRL_FILE"⟩,
    ⟨.tlsAllowInvalidCertificates, .tlsAllowInvalidCertificates, .boolean,
      "TLS_ALLOW_INVALID_CERTIFICATES"⟩,
    ⟨.tlsAllowInvalidCertificates, .tlsAllowInvalidHostnames, .boolean,
      "TLS_ALLOW_INVALID_HOSTNAMES"⟩,
    ⟨.tlsInsecure, .tlsInsecure, .boolean, "TLS_INSECURE"⟩,
    ⟨.connectTimeoutMS, .connectTimeoutMS, .int, "CONNECT_TIMEOUT"⟩,
    ⟨.socketTimeoutMS, .socketTimeoutMS, .int, "SOCKET_TIMEOUT"⟩,
    ⟨.database, .database, .text, "DATABASE"⟩,
    ⟨.srvMaxHosts, .srvMaxHosts, .int, "SRV_MAX_HOSTS"⟩,
    ⟨.maxPoolSize, .minPoolSize, .int, "MAX_POOL_SIZE"⟩,
    ⟨.minPoolSize, .maxPoolSize, .int, "MIN_POOL_SIZE"⟩,
    ⟨.maxConnecting, .maxConnecting, .int, "MAX_CONNECTING"⟩,
    ⟨.maxIdleTimeMS, .maxIdleTimeMS, .int, "MAX_IDLE_TIME"⟩,
    ⟨.waitQueueTimeoutMS, .waitQueueTimeoutMS, .int, "MAX_WAIT_QUEUE_TIMEOUT"⟩,
    ⟨.maxStalenessSeconds, .maxStalenessSeconds, .int, "MAX_STALENESS_SECONDS"⟩]

/-- The assignments after `auth`. SOURCE: get-mongodb-config.ts:55-80 -/
def linesAfterAuth : List (EnvLine MongodbSetting) :=
  [⟨.authSource, .authSource, .text, "AUTH_SOURCE"⟩,
    ⟨.localThresholdMS, .localThresholdMS, .int, "LOCAL_THRESHOLD"⟩,
    ⟨.serverSelectionTimeoutMS, .serverSelectionTimeoutMS, .int,
      "SERVER_SELECTION_TIMEOUT"⟩,
    ⟨.minHeartbeatFrequencyMS, .minHeartbeatFrequencyMS, .int, "HEARTBEAT_FREQUENCY"⟩,
    ⟨.appName, .appName, .text, "APP_NAME"⟩,
    ⟨.retryReads, .retryReads, .boolean, "RETRY_READS"⟩,
    ⟨.retryWrites, .retryWrites, .boolean, "RETRY_WRITES"⟩,
    ⟨.directConnection, .directConnection, .boolean, "DIRECT_CONNECTION"⟩,
    ⟨.loadBalanced, .loadBalanced, .boolean, "LOAD_BALANCED"⟩,
    ⟨.noDelay, .noDelay, .boolean, "NO_DELAY"⟩,
    ⟨.monitorCommands, .monitorCommands, .boolean, "MONITOR_COMMANDS"⟩,
    ⟨.proxyHost, .proxyHost, .text, "PROXY_HOST"⟩,
    ⟨.proxyPort, .proxyPort, .int, "PROXY_PORT"⟩,
    ⟨.proxyUsername, .proxyHost, .text, "PROXY_USERNAME"⟩,
    ⟨.proxyPassword, .proxyPassword, .text, "PROXY_PASSWORD"⟩]

/-- The `auth` block: without an own user name, name and password are filled in from the
environment, each for itself. SOURCE: get-mongodb-config.ts:50-54 -/
def authFromEnv (env : Env) (pre : String) (auth : Option MongodbAuth) : Option MongodbAuth :=
  if (match auth with | some a => a.username.truthy | none => false) then auth
  else
    let a := auth.getD ⟨.undefined, .undefined⟩
    some ⟨a.username.coalesce (env.get (pre ++ "USERNAME")),
      a.password.coalesce (env.get (pre ++ "PASSWORD"))⟩

/-- `getMongodbConfig(moduleOptions, prefix)`. SOURCE: get-mongodb-config.ts:6-82 -/
def getMongodbConfig (h : VarHelpers) (env : Env) (moduleOptions : MongodbConnectionOptions)
    (pre : String := "MONGODB_") : MongodbConnectionOptions :=
  let o := { moduleOptions with
    url := moduleOptions.url.orElse
      ((env.get (pre ++ "URL")).coalesce (.str "mongodb://localhost:27017")) }
  let o := { o with settings := runEnvLines h env pre linesBeforeAuth o.settings }
  let o := { o with auth := authFromEnv env pre o.auth }
  { o with settings := runEnvLines h env pre linesAfterAuth o.settings }

def settingLines : List (EnvLine MongodbSetting) := linesBeforeAuth ++ linesAfterAuth

/-- The settings are those of the lines; `auth` is apart from them. -/
theorem getMongodbConfig_settings (h : VarHelpers) (env : Env) (o : MongodbConnectionOptions)
    (pre : String) :
    (getMongodbConfig h env o pre).settings =
      runEnvLines h env pre settingLines o.settings :=
  (runEnvLines_append h env pre linesBeforeAuth linesAfterAuth o.settings).symm

end Xnestjs.Program.GetMongodbConfig
