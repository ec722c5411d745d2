import Xnestjs.Program.GetKafkaConfig

/-!
# The documented Kafka settings

A single setting is what is asked of it on every input, except that an empty
`CONSUMER_GROUP_ID` counts as unset. The groups are where variables get in each other's way: a
retry group needs `RETRIES` to be true, and an unset variable of `ssl` or `sasl` supplies an
empty text. Each of these has its own condition.
-/

set_option autoImplicit false

namespace Xnestjs.Analysis

open Xnestjs.Model Xnestjs.Program.GetKafkaConfig

/-- The single settings without a default. SOURCE: README.md:74,83-87 -/
def documentedKafkaSettings : List (Setting KafkaSetting) :=
  [⟨.clientId, .text, "CLIENT_ID"⟩,
    ⟨.connectionTimeout, .int, "CONNECT_TIMEOUT"⟩,
    ⟨.authenticationTimeout, .int, "AUTH_TIMEOUT"⟩,
    ⟨.reauthenticationThreshold, .int, "REAUTH_THRESHOLD"⟩,
    ⟨.requestTimeout, .int, "REQUEST_TIMEOUT"⟩,
    ⟨.enforceRequestTimeout, .boolean, "ENFORCE_REQUEST_TIMEOUT"⟩]

/-- The mechanisms with a user name and a password. SOURCE: README.md:93-100 -/
def credentialMechanisms : List String := ["plain", "scram-sha-256", "scram-sha-512"]

def SettingGroup.retryFields : SettingGroup RetryOptions → RetryOptions
  | .given _ => ⟨.undefined, .undefined, .undefined⟩
  | .built r => r

/-- `options.consumer?.groupId` -/
def givenGroupId (o : KafkaConnectionOptions) : Value :=
  match o.consumer with
  | some consumer => consumer.groupId
  | none => .undefined

section

variable (h : VarHelpers) (env : Env) (pre : String)

/-- What the variables ask of `ssl` when it is switched on: each of them its own field. -/
def documentedSsl : SslOptions where
  ca := (env (pre ++ "SSL_CA_CERT")).map fun cert => [cert]
  cert := env.get (pre ++ "SSL_CERT_FILE")
  key := env.get (pre ++ "SSL_KEY_FILE")
  passphrase := env.get (pre ++ "SSL_KEY_PASSPHRASE")
  rejectUnauthorized := h.toBoolean (env.get (pre ++ "SSL_REJECT_UNAUTHORIZED"))
  checkServerIdentity := checkServerIdentity

/-- What the variables ask of `sasl`, by the mechanism they select. -/
def documentedSasl : Option SaslOptions :=
  match env (pre ++ "SASL") with
  | none => none
  | some mechanism =>
    if mechanism ∈ credentialMechanisms then
      some (.credentials mechanism (env.get (pre ++ "SASL_USERNAME"))
        (env.get (pre ++ "SASL_PASSWORD")))
    else if mechanism = "aws" then
      some (.aws (env.get (pre ++ "AWS_AUTH_IDENTITY")) (env.get (pre ++ "AWS_ACCESS_KEY_ID"))
        (env.get (pre ++ "AWS_SECRET_ACCESS_KEY")) (env.get (pre ++ "AWS_SESSION_TOKEN")))
    else none

/-- What the variables ask of `retry`. -/
def documentedRetry : RetryOptions :=
  ⟨h.toInt (env.get (pre ++ "RETRY_MAX_TIME")), h.toInt (env.get (pre ++ "RETRY_INITIAL_TIME")),
    h.toInt (env.get (pre ++ "RETRIES"))⟩

/-- The configuration `c` has every documented setting as `o` and the environment ask for it:
what is given, as a whole for the groups, and otherwise what each variable that is set says. -/
structure AsDocumented (o c : KafkaConnectionOptions) : Prop where
  brokers : c.brokers = some (o.brokers.getD (.list (match env (pre ++ "BROKERS") with
    | some s => splitCommas s
    | none => ["localhost"])))
  settings : ∀ s ∈ documentedKafkaSettings, c.settings s.field = s.asked h env pre o.settings
  lazyConnect : c.settings .lazyConnect = (o.settings .lazyConnect).coalesce
    (match env (pre ++ "LAZY_CONNECT") with
      | some s => h.toBoolean (.str s)
      | none => h.toBoolean (.str "false"))
  groupId : c.consumer.map KafkaConsumer.groupId =
    some ((givenGroupId o).coalesce
      (match env (pre ++ "CONSUMER_GROUP_ID") with
        | some s => .str s
        | none => .str "kafka_default_group"))
  ssl : c.ssl = if o.ssl.nullish ∧ (h.toBoolean (env.get (pre ++ "SSL"))).truthy then
    .built (documentedSsl h env pre) else o.ssl
  sasl : c.sasl = if o.sasl.nullish then
    ((documentedSasl env pre).map SettingGroup.built).getD o.sasl else o.sasl
  retry : (o.retry.nullish = true → SettingGroup.retryFields c.retry = documentedRetry h env pre) ∧
    (o.retry.nullish = false → c.retry = o.retry)

/-- `ssl` is given or not switched on, or there is a certificate to trust. -/
def SslComplete (o : KafkaConnectionOptions) : Prop :=
  o.ssl.nullish = true → (h.toBoolean (env.get (pre ++ "SSL"))).truthy = true →
    (env (pre ++ "SSL_CA_CERT")).isSome

/-- `sasl` is given, or every variable that the selected mechanism needs is set. -/
def SaslComplete (o : KafkaConnectionOptions) : Prop :=
  o.sasl.nullish = true → ∀ mechanism, env (pre ++ "SASL") = some mechanism →
    (mechanism ∈ credentialMechanisms → (env (pre ++ "SASL_USERNAME")).isSome ∧
      (env (pre ++ "SASL_PASSWORD")).isSome) ∧
    (mechanism = "aws" → (env (pre ++ "AWS_AUTH_IDENTITY")).isSome ∧
      (env (pre ++ "AWS_ACCESS_KEY_ID")).isSome ∧ (env (pre ++ "AWS_SECRET_ACCESS_KEY")).isSome)

/-- `retry` is given, or the number of retries is not 0 or missing, or no variable of the group
has a value. -/
def RetryComplete (o : KafkaConnectionOptions) : Prop :=
  o.retry.nullish = true → (h.toInt (env.get (pre ++ "RETRIES"))).truthy = true ∨
    documentedRetry h env pre = ⟨.undefined, .undefined, .undefined⟩

/-- The consumer group is given, or its variable is not the empty text. -/
def GroupIdComplete (o : KafkaConnectionOptions) : Prop :=
  (givenGroupId o).nullish = true → env (pre ++ "CONSUMER_GROUP_ID") ≠ some ""

/-! ## The single settings -/

variable (o : KafkaConnectionOptions)

/-- INTERNAL: the brokers are those given, or those of the variable, or `localhost`.
SOURCE: get-kafka-config.ts:13-15 -/
theorem kafka_brokers : assignBrokers env pre o.brokers =
    some (o.brokers.getD (.list (match env (pre ++ "BROKERS") with
      | some s => splitCommas s
      | none => ["localhost"]))) := by
  have hdefault : splitCommas "localhost" = ["localhost"] := by decide
  unfold assignBrokers
  cases env (pre ++ "BROKERS") with
  | none => simp only [Option.getD_none, hdefault]
  | some s => rfl

/-- INTERNAL: a single setting is as asked. SOURCE: get-kafka-config.ts:54-66 -/
theorem kafka_setting (s : Setting KafkaSetting) (hs : s ∈ documentedKafkaSettings) :
    (getKafkaConfig h env o pre).settings s.field = s.asked h env pre o.settings := by
  have hline : settingLines.filter (fun l => l.target = s.field) =
      [⟨s.field, s.field, s.type, s.name⟩] ∧ s.field ≠ .lazyConnect := by
    revert s
    decide
  show assignLazyConnect h env pre (runEnvLines h env pre settingLines o.settings) s.field = _
  rw [assignLazyConnect, Function.update_of_ne hline.2,
    runEnvLines_own h env pre settingLines s hline.1]

/-- INTERNAL: `lazyConnect` has a default of its own. SOURCE: get-kafka-config.ts:79-81 -/
theorem kafka_lazyConnect : (getKafkaConfig h env o pre).settings .lazyConnect =
    (o.settings .lazyConnect).coalesce (match env (pre ++ "LAZY_CONNECT") with
      | some s => h.toBoolean (.str s)
      | none => h.toBoolean (.str "false")) := by
  have hkept : runEnvLines h env pre settingLines o.settings .lazyConnect =
      o.settings .lazyConnect := runEnvLines_untouched h env pre (by decide) o.settings
  show assignLazyConnect h env pre (runEnvLines h env pre settingLines o.settings)
    .lazyConnect = _
  rw [assignLazyConnect, Function.update_self, hkept]
  unfold Env.get
  cases env (pre ++ "LAZY_CONNECT") <;> rfl

/-- INTERNAL: the consumer group. SOURCE: get-kafka-config.ts:75-78 -/
theorem kafka_groupId_iff :
    (assignConsumer env pre o.consumer).map KafkaConsumer.groupId =
        some ((givenGroupId o).coalesce
          (match env (pre ++ "CONSUMER_GROUP_ID") with
            | some s => .str s
            | none => .str "kafka_default_group")) ↔
      GroupIdComplete env pre o := by
  have hgiven : (o.consumer.getD ⟨.undefined⟩).groupId = givenGroupId o := by
    unfold givenGroupId
    cases o.consumer <;> rfl
  unfold assignConsumer GroupIdComplete Env.get
  simp only [Option.map_some, hgiven, Option.some.injEq]
  by_cases hnull : (givenGroupId o).nullish = true
  · rw [Value.coalesce_of_nullish _ hnull, Value.coalesce_of_nullish _ hnull]
    cases env (pre ++ "CONSUMER_GROUP_ID") with
    | none => simp [Value.orElse]
    | some s =>
      by_cases hs : s = ""
      · simp [hs, hnull, Value.orElse]
      · simp [hs, Value.orElse]
  · rw [Bool.not_eq_true] at hnull
    rw [Value.coalesce_of_given _ hnull, Value.coalesce_of_given _ hnull]
    simp [hnull]

/-! ## The groups -/

/-- INTERNAL: an unset variable supplies the empty text. -/
theorem orEmpty_eq_get_iff (name : String) :
    Value.str (orEmpty env pre name) = env.get (pre ++ name) ↔ (env (pre ++ name)).isSome := by
  unfold orEmpty Env.get
  cases env (pre ++ name) with
  | none => simp
  | some s => simp

/-- INTERNAL: `ssl`. SOURCE: get-kafka-config.ts:16-31 -/
theorem kafka_ssl_iff :
    assignSsl h env pre o.ssl =
        (if o.ssl.nullish ∧ (h.toBoolean (env.get (pre ++ "SSL"))).truthy then
          .built (documentedSsl h env pre) else o.ssl) ↔
      SslComplete h env pre o := by
  unfold assignSsl SslComplete
  by_cases hon : o.ssl.nullish = true ∧ (h.toBoolean (env.get (pre ++ "SSL"))).truthy = true
  · simp only [hon, and_self, if_true, SettingGroup.built.injEq, documentedSsl, SslOptions.mk.injEq,
      and_true, orEmpty, forall_const]
    cases env (pre ++ "SSL_CA_CERT") with
    | none => simp
    | some cert => simp
  · rw [if_neg hon, if_neg hon]
    exact iff_of_true rfl fun hnull htrue => absurd ⟨hnull, htrue⟩ hon

/-- INTERNAL: `sasl` for a selected mechanism. SOURCE: get-kafka-config.ts:34-52 -/
theorem kafka_mechanism_iff (mechanism : String) (hvar : env (pre ++ "SASL") = some mechanism)
    (hnull : o.sasl.nullish = true) :
    assignSasl env pre o.sasl = ((documentedSasl env pre).map SettingGroup.built).getD o.sasl ↔
      (mechanism ∈ credentialMechanisms → (env (pre ++ "SASL_USERNAME")).isSome ∧
        (env (pre ++ "SASL_PASSWORD")).isSome) ∧
      (mechanism = "aws" → (env (pre ++ "AWS_AUTH_IDENTITY")).isSome ∧
        (env (pre ++ "AWS_ACCESS_KEY_ID")).isSome ∧
        (env (pre ++ "AWS_SECRET_ACCESS_KEY")).isSome) := by
  have hmem : mechanism ∈ credentialMechanisms ↔
      mechanism = "plain" ∨ mechanism = "scram-sha-256" ∨ mechanism = "scram-sha-512" := by
    simp [credentialMechanisms]
  unfold assignSasl documentedSasl
  simp only [hvar, hnull, true_and, ← hmem]
  by_cases hcredentials : mechanism ∈ credentialMechanisms
  · have hne : mechanism ≠ "" := by
      rintro rfl
      exact absurd hcredentials (by decide)
    have hother : mechanism ≠ "aws" := by
      rintro rfl
      exact absurd hcredentials (by decide)
    simp only [hne, ne_eq, not_false_eq_true, hcredentials, hother, if_true, Option.map_some,
      Option.getD_some, SettingGroup.built.injEq, SaslOptions.credentials.injEq, true_and,
      orEmpty_eq_get_iff, forall_const, false_implies, and_true]
  · by_cases haws : mechanism = "aws"
    · subst haws
      have hne : "aws" ≠ "" := by decide
      simp only [hne, ne_eq, not_false_eq_true, hcredentials, if_true, if_false,
        Option.map_some, Option.getD_some, SettingGroup.built.injEq, SaslOptions.aws.injEq,
        orEmpty_eq_get_iff, forall_const, false_implies, true_and, and_true]
    · simp [hcredentials, haws]

/-- INTERNAL: **`sasl`**. SOURCE: get-kafka-config.ts:32-53 -/
theorem kafka_sasl_iff :
    assignSasl env pre o.sasl =
        (if o.sasl.nullish then ((documentedSasl env pre).map SettingGroup.built).getD o.sasl
          else o.sasl) ↔
      SaslComplete env pre o := by
  unfold SaslComplete
  by_cases hnull : o.sasl.nullish = true
  · rw [if_pos hnull]
    cases hvar : env (pre ++ "SASL") with
    | none =>
      unfold assignSasl documentedSasl
      simp [hvar]
    | some mechanism =>
      rw [kafka_mechanism_iff env pre o mechanism hvar hnull]
      simp [hnull]
  · rw [if_neg hnull]
    have hkept : assignSasl env pre o.sasl = o.sasl := by
      unfold assignSasl
      cases env (pre ++ "SASL") with
      | none => rfl
      | some mechanism => exact if_neg fun hboth => hnull hboth.1
    exact iff_of_true hkept fun h => absurd h hnull

/-- INTERNAL: **`retry`**. SOURCE: get-kafka-config.ts:67-74 -/
theorem kafka_retry_iff :
    ((o.retry.nullish = true →
        SettingGroup.retryFields (assignRetry h env pre o.retry) = documentedRetry h env pre) ∧
      (o.retry.nullish = false → assignRetry h env pre o.retry = o.retry)) ↔
      RetryComplete h env pre o := by
  unfold assignRetry RetryComplete
  by_cases hnull : o.retry.nullish = true
  · by_cases hretries : (h.toInt (env.get (pre ++ "RETRIES"))).truthy = true
    · rw [if_pos ⟨hnull, hretries⟩]
      refine iff_of_true ⟨fun _ => rfl, fun hfalse => ?_⟩ fun _ => .inl hretries
      rw [hnull] at hfalse
      cases hfalse
    · have hempty : SettingGroup.retryFields o.retry = ⟨.undefined, .undefined, .undefined⟩ := by
        cases hgroup : o.retry with
        | given v => rfl
        | built r =>
          rw [hgroup] at hnull
          cases hnull
      rw [if_neg fun hboth => hretries hboth.2, hempty]
      constructor
      · intro hfields _
        exact .inr (hfields.1 hnull).symm
      · intro hcomplete
        refine ⟨fun _ => ((hcomplete hnull).resolve_left hretries).symm, fun _ => rfl⟩
  · simp [hnull]

/-! ## The configuration -/

/-- **The documented settings** come out as asked, all of them, exactly when no group lacks a
variable that it takes for granted and the consumer group is not the empty text.
SOURCE: get-kafka-config.ts:7-83, README.md:65-103 -/
theorem documented_kafka_settings_iff :
    AsDocumented h env pre o (getKafkaConfig h env o pre) ↔
      SslComplete h env pre o ∧ SaslComplete env pre o ∧ RetryComplete h env pre o ∧
        GroupIdComplete env pre o := by
  constructor
  · intro hdocumented
    refine ⟨?_, ?_, ?_, ?_⟩
    · exact (kafka_ssl_iff h env pre o).mp hdocumented.ssl
    · exact (kafka_sasl_iff env pre o).mp hdocumented.sasl
    · exact (kafka_retry_iff h env pre o).mp hdocumented.retry
    · exact (kafka_groupId_iff env pre o).mp hdocumented.groupId
  · rintro ⟨hssl, hsasl, hretry, hgroup⟩
    refine ⟨kafka_brokers env pre o, kafka_setting h env pre o, kafka_lazyConnect h env pre o,
      ?_, ?_, ?_, ?_⟩
    · exact (kafka_groupId_iff env pre o).mpr hgroup
    · exact (kafka_ssl_iff h env pre o).mpr hssl
    · exact (kafka_sasl_iff env pre o).mpr hsasl
    · exact (kafka_retry_iff h env pre o).mpr hretry

end

/-- `KAFKA_RETRIES=0` leaves the retries unset. -/
theorem retries_zero_ignored :
    let h : VarHelpers := ⟨fun v => if v = .str "0" then .num 0 else .undefined,
      fun v => if v = .str "true" then .bool true else .undefined, rfl, rfl⟩
    let env : Env := fun name => if name = "KAFKA_RETRIES" then some "0" else none
    (SettingGroup.retryFields (getKafkaConfig h env .empty).retry).retries = .undefined ∧
      (documentedRetry h env "KAFKA_").retries = .num 0 ∧
      ¬ AsDocumented h env "KAFKA_" .empty (getKafkaConfig h env .empty) := by
  intro h env
  refine ⟨by decide, by decide, fun hdocumented => ?_⟩
  have hretry := hdocumented.retry.1 rfl
  exact absurd (congrArg RetryOptions.retries hretry) (by decide)

end Xnestjs.Analysis
