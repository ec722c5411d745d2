import Xnestjs.Model.Assignments
import Mathlib.Logic.Function.Basic

/-!
# `getRabbitmqConfig`

The function takes the hosts from an array, copies an options object, or splits a text, which
comes from the caller, from the variable `HOSTS` or from the default. Then it assigns the
other settings, each from the option or else from a variable, and drops the nullish ones. The
options `tls` and `socket`, which it only copies, are left out.
-/

set_option autoImplicit false

namespace Xnestjs.Program.GetRabbitmqConfig

open Xnestjs.Model

/-- The settings, under the names of the options. -/
inductive RabbitmqSetting where
  | hosts
  | vhost
  | username
  | password
  | acquireTimeout
  | connectionName
  | connectionTimeout
  | frameMax
  | heartbeat
  | maxChannels
  | retryHigh
  | retryLow
  | noDelay
  | lazyConnect
  deriving DecidableEq, Repr

/-- The argument `init`: absent, a text, an array of hosts, or an options object. -/
inductive RabbitmqInit where
  | absent
  | text (s : String)
  | hosts (l : List String)
  | options (o : RabbitmqSetting → Value)

def onlyHosts (hosts : Value) : RabbitmqSetting → Value :=
  Function.update (fun _ => .undefined) .hosts hosts

/-- The argument as a value, where the text branch reads it. -/
def RabbitmqInit.textValue : RabbitmqInit → Value
  | .text s => .str s
  | _ => .undefined

/-- The options before the settings are assigned. SOURCE: get-rabbitmq-config.ts:11-18 -/
def initialOptions (env : Env) (pre : String) (init : RabbitmqInit) :
    RabbitmqSetting → Value :=
  match init with
  | .hosts l => onlyHosts (.strs l)
  | .options o => o
  | init => onlyHosts ((init.textValue.orElse (env.get (pre ++ "HOSTS"))).orElse
      (.str "localhost:5672")).splitList

/-- The assignments. SOURCE: get-rabbitmq-config.ts:19-34 -/
def settingLines : List (EnvLine RabbitmqSetting) :=
  [⟨.vhost, .vhost, .text, "VHOST"⟩,
    ⟨.username, .username, .text, "USERNAME"⟩,
    ⟨.password, .password, .text, "PASSWORD"⟩,
    ⟨.acquireTimeout, .acquireTimeout, .int, "ACQUIRE_TIMEOUT"⟩,
    ⟨.connectionTimeout, .connectionTimeout, .int, "CONNECTION_TIMEOUT"⟩,
    ⟨.frameMax, .frameMax, .int, "FRAME_MAX"⟩,
    ⟨.heartbeat, .heartbeat, .int, "HEARTBEAT_INTERVAL"⟩,
    ⟨.maxChannels, .maxChannels, .int, "MAX_CHANNELS"⟩,
    ⟨.retryHigh, .retryHigh, .int, "RETRY_HIGH"⟩,
    ⟨.retryLow, .retryLow, .int, "NO_DELAY"⟩,
    ⟨.lazyConnect, .lazyConnect, .boolean, "LAZY_CONNECT"⟩]

/-- `getRabbitmqConfig(init, prefix)`. SOURCE: get-rabbitmq-config.ts:6-36 -/
def getRabbitmqConfig (h : VarHelpers) (env : Env) (init : RabbitmqInit)
    (pre : String := "RMQ_") : RabbitmqSetting → Value :=
  let options := initialOptions env pre init
  let options := runEnvLines h env pre settingLines options
  fun f => (options f).omitNullish

end Xnestjs.Program.GetRabbitmqConfig
