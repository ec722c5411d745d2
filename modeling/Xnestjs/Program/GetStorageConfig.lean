import Xnestjs.Model.ThrowingLines

/-!
# `getStorageConfig` and the connection that is built from it

The function takes the provider from the options or from its variable, refuses any other than
`s3`, and fills in the settings of that one. The provider of the connection in
`StorageCoreModule` looks at the provider again. What the constructor of the client does with
the settings is a parameter. The conversion of a variable may throw (`Throwing.getStorageConfig`);
where nothing is said of that, conversions are total, and the function is the same then
(`getStorageConfig_total`).
-/

set_option autoImplicit false

namespace Xnestjs.Program.GetStorageConfig

open Xnestjs.Model

/-- The settings of `s3`, under the names of the options. -/
inductive S3Setting where
  | endPoint
  | accessKey
  | secretKey
  | useSSL
  | port
  | sessionToken
  | partSize
  | pathStyle
  | s3AccelerateEndpoint
  deriving DecidableEq, Repr

/-- The argument and the result of `getStorageConfig`. `none` is an absent option. -/
structure StorageOptions where
  provider : Option String
  s3 : Option (S3Setting → Value)

section

variable (h : VarHelpers) (env : Env) (pre : String)

/-- `provider || env[prefix + 'PROVIDER']`. SOURCE: get-storage-config.ts:12 -/
def assignProvider (provider : Option String) : Option String :=
  match provider with
  | some s => if s ≠ "" then some s else env (pre ++ "PROVIDER")
  | none => env (pre ++ "PROVIDER")

def missingProvider : String :=
  "You must provide a Storage provider or \"" ++ pre ++ "PROVIDER" ++ "\" env variable"

def unknownProvider (provider : String) : String :=
  "Unknown Storage provider (" ++ provider ++ ")"

/-- SOURCE: get-storage-config.ts:19-33 -/
def settingLines : List (EnvLine S3Setting) :=
  [⟨.endPoint, .endPoint, .text, "S3_ENDPOINT"⟩,
    ⟨.accessKey, .accessKey, .text, "S3_ACCESS_KEY"⟩,
    ⟨.secretKey, .secretKey, .text, "S3_SECRET_KEY"⟩,
    ⟨.useSSL, .useSSL, .boolean, "S3_SSL"⟩,
    ⟨.port, .port, .int, "S3_PORT"⟩,
    ⟨.sessionToken, .sessionToken, .text, "S3_SESSION_TOKEN"⟩,
    ⟨.partSize, .partSize, .int, "S3_PART_SIZE"⟩,
    ⟨.pathStyle, .pathStyle, .boolean, "S3_PATH_STYLE"⟩,
    ⟨.s3AccelerateEndpoint, .s3AccelerateEndpoint, .text, "S3_ACC_ENDPOINT"⟩]

/-- The settings of `s3` with what the variables say. -/
def assignS3 (s3 : Option (S3Setting → Value)) : S3Setting → Value :=
  runEnvLines h env pre settingLines (s3.getD fun _ => .undefined)

/-- `getStorageConfig(moduleOptions, prefix)`. SOURCE: get-storage-config.ts:6-36 -/
def getStorageConfig (moduleOptions : StorageOptions) (pre : String := "STORAGE_") :
    Except String StorageOptions :=
  match assignProvider env pre moduleOptions.provider with
  | none => .error (missingProvider pre)
  | some provider =>
    if provider = "" then .error (missingProvider pre)
    else if provider = "s3" then
      .ok ⟨some provider, some (assignS3 h env pre moduleOptions.s3)⟩
    else .error (unknownProvider provider)

end

namespace Throwing

variable (c : Conversions) (env : Env) (pre : String)

/-- The settings of `s3` with what the variables say, unless one of them is refused. -/
def assignS3 (s3 : Option (S3Setting → Value)) : Except String (S3Setting → Value) :=
  performEnvLines c env pre settingLines (s3.getD fun _ => .undefined)

/-- `getStorageConfig(moduleOptions, prefix)`. SOURCE: get-storage-config.ts:6-36 -/
def getStorageConfig (moduleOptions : StorageOptions) (pre : String := "STORAGE_") :
    Except String StorageOptions :=
  match assignProvider env pre moduleOptions.provider with
  | none => .error (missingProvider pre)
  | some provider =>
    if provider = "" then .error (missingProvider pre)
    else if provider = "s3" then do
      let s3 ← assignS3 c env pre moduleOptions.s3
      return ⟨some provider, some s3⟩
    else .error (unknownProvider provider)

end Throwing

/-- The two are the same when no conversion throws. -/
theorem getStorageConfig_total (h : VarHelpers) (env : Env) (moduleOptions : StorageOptions)
    (pre : String) :
    Throwing.getStorageConfig h.conversions env moduleOptions pre =
      getStorageConfig h env moduleOptions pre := by
  unfold Throwing.getStorageConfig getStorageConfig Throwing.assignS3 assignS3
  simp only [performEnvLines_total]
  rfl

/-- The provider of the connection, over the constructor `new S3StorageConnection(config)`,
which is given an absent config as `none`. SOURCE: storage-core.module.ts:67-80 -/
def createConnection {C : Type} (newConnection : Option (S3Setting → Value) → Except String C)
    (storageOptions : StorageOptions) : Except String C :=
  if storageOptions.provider = some "s3" then newConnection storageOptions.s3
  else .error (unknownProvider (storageOptions.provider.getD "undefined"))

end Xnestjs.Program.GetStorageConfig
