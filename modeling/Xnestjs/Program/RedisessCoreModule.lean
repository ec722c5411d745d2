import Xnestjs.Model.Assignments
import Mathlib.Logic.Function.Basic

/-!
# `getRedisessConfig`

Three settings are filled in from the environment, the last one with a default. The client of
the session manager comes with the options and is left as it is.
-/

set_option autoImplicit false

namespace Xnestjs.Program.RedisessCoreModule

open Xnestjs.Model

/-- The settings, under the names of the options; `ns` is `namespace`. -/
inductive RedisessSetting where
  | ns
  | ttl
  | wipeInterval
  deriving DecidableEq, Repr

/-- The session options with the client of the caller, known by its identity. -/
structure RedisessSessionOptions where
  client : Option ℕ
  settings : RedisessSetting → Value

section

variable (h : VarHelpers) (env : Env) (pre : String)

/-- SOURCE: get-redisess-config.ts:12-13 -/
def settingLines : List (EnvLine RedisessSetting) :=
  [⟨.ns, .ns, .text, "NAMESPACE"⟩,
    ⟨.ttl, .ttl, .int, "TTL"⟩]

/-- SOURCE: get-redisess-config.ts:14-15 -/
def assignWipeInterval (o : RedisessSetting → Value) : RedisessSetting → Value :=
  Function.update o .wipeInterval
    (((o .wipeInterval).coalesce (h.toInt (env.get (pre ++ "WIPE_INTERVAL")))).coalesce
      (.num 5000))

/-- `getRedisessConfig(moduleOptions, prefix)`. SOURCE: get-redisess-config.ts:6-17 -/
def getRedisessConfig (moduleOptions : RedisessSessionOptions) (pre : String := "SESSION_") :
    RedisessSessionOptions :=
  { moduleOptions with
    settings := assignWipeInterval h env pre
      (runEnvLines h env pre settingLines moduleOptions.settings) }

end

end Xnestjs.Program.RedisessCoreModule
