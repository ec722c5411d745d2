import Xnestjs.Model.Assignments
import Mathlib.Logic.Function.Basic

/-!
# `getKafkaConfig`

The function copies the options of the caller and fills in what is missing from the
environment. Most settings are single fields with one variable each; `ssl`, `sasl` and `retry`
are groups that are built as a whole, from several variables, when the caller gives none.
Options that the function neither reads nor writes are left out.
-/

set_option autoImplicit false

namespace Xnestjs.Program.GetKafkaConfig

open Xnestjs.Model

/-- The single settings, under the names of the options. -/
inductive KafkaSetting where
  | clientId
  | connectionTimeout
  | authenticationTimeout
  | reauthenticationThreshold
  | requestTimeout
  | enforceRequestTimeout
  | lazyConnect
  deriving DecidableEq, Repr

/-- A list of brokers, or a function that finds them. -/
inductive Brokers where
  | list (l : List String)
  | find (id : ℕ)
  deriving DecidableEq

/-- A grouped option: as the caller gives it, or built from variables. -/
inductive SettingGroup (T : Type) where
  | given (v : Value)
  | built (t : T)

def SettingGroup.nullish {T : Type} : SettingGroup T → Bool
  | .given v => v.nullish
  | .built _ => false

/-- `checkServerIdentity` takes the host and the common name of the certificate, and may
return the text of an error. -/
structure SslOptions where
  ca : Option (List String)
  cert : Value
  key : Value
  passphrase : Value
  rejectUnauthorized : Value
  checkServerIdentity : String → String → Option String

inductive SaslOptions where
  | credentials (mechanism : String) (username password : Value)
  | aws (authorizationIdentity accessKeyId secretAccessKey sessionToken : Value)
  deriving DecidableEq

structure RetryOptions where
  maxRetryTime : Value
  initialRetryTime : Value
  retries : Value
  deriving DecidableEq

structure KafkaConsumer where
  groupId : Value

/-- The argument and the result of `getKafkaConfig`. `none` is an absent option. -/
structure KafkaConnectionOptions where
  brokers : Option Brokers
  settings : KafkaSetting → Value
  ssl : SettingGroup SslOptions
  sasl : SettingGroup SaslOptions
  retry : SettingGroup RetryOptions
  consumer : Option KafkaConsumer

/-- `{}` -/
def KafkaConnectionOptions.empty : KafkaConnectionOptions :=
  ⟨none, fun _ => .undefined, .given .undefined, .given .undefined, .given .undefined, none⟩

/-- SOURCE: get-kafka-config.ts:23-29 -/
def checkServerIdentity (host commonName : String) : Option String :=
  if commonName ≠ host then
    some ("Certificate CN (" ++ commonName ++ ") does not match host (" ++ host ++ ")")
  else none

section

variable (h : VarHelpers) (env : Env) (pre : String)

/-- SOURCE: get-kafka-config.ts:13-15 -/
def assignBrokers (brokers : Option Brokers) : Option Brokers :=
  some (brokers.getD (.list (splitCommas ((env (pre ++ "BROKERS")).getD "localhost"))))

/-- `env[prefix + name] || ''` -/
def orEmpty (name : String) : String := (env (pre ++ name)).getD ""

/-- SOURCE: get-kafka-config.ts:16-31 -/
def assignSsl (ssl : SettingGroup SslOptions) : SettingGroup SslOptions :=
  if ssl.nullish ∧ (h.toBoolean (env.get (pre ++ "SSL"))).truthy then
    .built {
      ca := some [orEmpty env pre "SSL_CA_CERT"]
      cert := env.get (pre ++ "SSL_CERT_FILE")
      key := env.get (pre ++ "SSL_KEY_FILE")
      passphrase := env.get (pre ++ "SSL_KEY_PASSPHRASE")
      rejectUnauthorized := h.toBoolean (env.get (pre ++ "SSL_REJECT_UNAUTHORIZED"))
      checkServerIdentity := checkServerIdentity }
  else ssl

/-- SOURCE: get-kafka-config.ts:32-53 -/
def assignSasl (given : SettingGroup SaslOptions) : SettingGroup SaslOptions :=
  match env (pre ++ "SASL") with
  | none => given
  | some sasl =>
    if given.nullish ∧ sasl ≠ "" then
      if sasl = "plain" ∨ sasl = "scram-sha-256" ∨ sasl = "scram-sha-512" then
        .built (.credentials sasl (.str (orEmpty env pre "SASL_USERNAME"))
          (.str (orEmpty env pre "SASL_PASSWORD")))
      else if sasl = "aws" then
        .built (.aws (.str (orEmpty env pre "AWS_AUTH_IDENTITY"))
          (.str (orEmpty env pre "AWS_ACCESS_KEY_ID"))
          (.str (orEmpty env pre "AWS_SECRET_ACCESS_KEY"))
          (env.get (pre ++ "AWS_SESSION_TOKEN")))
      else given
    else given

/-- SOURCE: get-kafka-config.ts:54-66 -/
def settingLines : List (EnvLine KafkaSetting) :=
  [⟨.clientId, .clientId, .text, "CLIENT_ID"⟩,
    ⟨.connectionTimeout, .connectionTimeout, .int, "CONNECT_TIMEOUT"⟩,
    ⟨.authenticationTimeout, .authenticationTimeout, .int, "AUTH_TIMEOUT"⟩,
    ⟨.reauthenticationThreshold, .reauthenticationThreshold, .int, "REAUTH_THRESHOLD"⟩,
    ⟨.requestTimeout, .requestTimeout, .int, "REQUEST_TIMEOUT"⟩,
    ⟨.enforceRequestTimeout, .enforceRequestTimeout, .boolean, "ENFORCE_REQUEST_TIMEOUT"⟩]

/-- SOURCE: get-kafka-config.ts:67-74 -/
def assignRetry (retry : SettingGroup RetryOptions) : SettingGroup RetryOptions :=
  let retries := h.toInt (env.get (pre ++ "RETRIES"))
  if retry.nullish ∧ retries.truthy then
    .built {
      maxRetryTime := h.toInt (env.get (pre ++ "RETRY_MAX_TIME"))
      initialRetryTime := h.toInt (env.get (pre ++ "RETRY_INITIAL_TIME"))
      retries := retries }
  else retry

/-- SOURCE: get-kafka-config.ts:75-78 -/
def assignConsumer (consumer : Option KafkaConsumer) : Option KafkaConsumer :=
  let consumer := consumer.getD ⟨.undefined⟩
  some ⟨consumer.groupId.coalesce
    ((env.get (pre ++ "CONSUMER_GROUP_ID")).orElse (.str "kafka_default_group"))⟩

/-- SOURCE: get-kafka-config.ts:79-81 -/
def assignLazyConnect (o : KafkaSetting → Value) : KafkaSetting → Value :=
  Function.update o .lazyConnect ((o .lazyConnect).coalesce
    (h.toBoolean ((env.get (pre ++ "LAZY_CONNECT")).coalesce (.str "false"))))

/-- `getKafkaConfig(moduleOptions, envPrefix)`. SOURCE: get-kafka-config.ts:7-83 -/
def getKafkaConfig (moduleOptions : KafkaConnectionOptions) (pre : String := "KAFKA_") :
    KafkaConnectionOptions where
  brokers := assignBrokers env pre moduleOptions.brokers
  ssl := assignSsl h env pre moduleOptions.ssl
  sasl := assignSasl env pre moduleOptions.sasl
  settings := assignLazyConnect h env pre
    (runEnvLines h env pre settingLines moduleOptions.settings)
  retry := assignRetry h env pre moduleOptions.retry
  consumer := assignConsumer env pre moduleOptions.consumer

end

end Xnestjs.Program.GetKafkaConfig
