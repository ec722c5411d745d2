import Xnestjs.Program.GetRedisConfig
import Xnestjs.Model.Url
import Xnestjs.Model.TimedAttempt
import Mathlib.Data.List.Infix
import Mathlib.Tactic.SplitIfs

/-!
# `RedisCoreModule`

The client is built from the resolved options: a `Cluster` over the nodes, or a `Redis` whose
host may be a URL that overrides other options. What `new URL` makes of a text is a parameter
here; `Xnestjs.Model.Url` is the reading of the URL standard. At bootstrap the module reads the
resolved options again, connects the client and writes to the logger how it goes.
-/

set_option autoImplicit false

namespace Xnestjs.Program.RedisCoreModule

open Xnestjs.Model Xnestjs.Program.GetRedisConfig

/-- The constructor call that makes the client of the `RedisClient`, with its arguments. -/
inductive CreatedClient where
  | cluster (startupNodes : List ClusterNode) (opts : RedisConnectionOptions)
  | standalone (opts : RedisConnectionOptions)

/-- `new URL` of a text that it does not accept, and the error of `_createClient` itself. -/
inductive CreateError where
  | invalidUrl
  | invalidConnectionOptions
  deriving DecidableEq, Repr

/-- `host.includes("://")` -/
def includesScheme (host : String) : Bool := decide ("://".toList <:+: host.toList)

/-- `if (c) o.k = v` -/
def setWhen (c : Prop) [Decidable c] (k : RedisSetting) (v : Value) (o : RedisSetting → Value) :
    RedisSetting → Value :=
  if c then Function.update o k v else o

/-- `if (c) o[k] = v`, at the key. -/
theorem setWhen_self (c : Prop) [Decidable c] (k : RedisSetting) (v : Value)
    (o : RedisSetting → Value) : setWhen c k v o k = if c then v else o k := by
  unfold setWhen
  split_ifs
  · exact Function.update_self k v o
  · rfl

/-- No other key is touched. -/
theorem setWhen_other (c : Prop) [Decidable c] {k k' : RedisSetting} (hk : k' ≠ k) (v : Value)
    (o : RedisSetting → Value) : setWhen c k v o k' = o k' := by
  unfold setWhen
  split_ifs
  · exact Function.update_of_ne hk v o
  · rfl

/-- The options with what the URL says. SOURCE: redis-core.module.ts:119-129 -/
def overrideByUrl (url : Url) (opts : RedisConnectionOptions) : RedisConnectionOptions :=
  let o := opts.settings
  let o := setWhen (url.port ≠ "") .port (parseInt url.port.toList) o
  let o := setWhen (url.username ≠ "") .username (.str url.username) o
  let o := setWhen (url.password ≠ "") .password (.str url.password) o
  let o := setWhen (url.protocol = "rediss:") .tls (.bool true) o
  let db := parseInt (url.pathname.toList.drop 1)
  let o := setWhen db.positive .db db o
  { opts with host := url.hostname, settings := o }

/-- `_createClient(options)`. SOURCE: redis-core.module.ts:107-138 -/
def createClient (newURL : String → Option Url) (options : RedisConnectionOptions) :
    Except CreateError CreatedClient :=
  if isClusterOptions options then
    let o := Function.update options.settings .name .undefined
    let o := Function.update o .lazyConnect (.bool true)
    .ok (.cluster (options.nodes.getD []) { options with settings := o, nodes := none })
  else if isStandaloneOptions options then do
    let host := options.host.getD ""
    let opts ←
      if includesScheme host then
        match newURL host with
        | some url => pure (overrideByUrl url options)
        | none => throw .invalidUrl
      else pure options
    return .standalone
      { opts with settings := Function.update opts.settings .lazyConnect (.bool true) }
  else .error .invalidConnectionOptions

/-! ## Bootstrap -/

/-- A host or a port in a concatenation of texts: a text, a whole number, or absent. -/
def concatText : Value → String
  | .str s => s
  | .num x => toString x.num
  | .infinity negative => if negative then "-Infinity" else "Infinity"
  | .nan => "NaN"
  | .null => "null"
  | _ => "undefined"

/-- One node in the text of a cluster. SOURCE: redis-core.module.ts:160-164 -/
def nodeText : ClusterNode → String
  | .node host port => concatText host ++ ":" ++ concatText port
  | .port n => "localhost:" ++ toString n
  | .text s => s

/-- `hosts`, the empty text when there is none. SOURCE: redis-core.module.ts:156-167 -/
def hostsText (opts : RedisConnectionOptions) : String :=
  if isClusterOptions opts then ", ".intercalate ((opts.nodes.getD []).map nodeText)
  else opts.host.getD ""

section

variable (blue : String → String)

/-- The messages of the connection attempt. SOURCE: redis-core.module.ts:171-185 -/
def connectionAttempt (opts : RedisConnectionOptions) : TimedAttempt LogMessage where
  waiting := ⟨.verbose, "Waiting to connect to redis at " ++ blue (hostsText opts)⟩
  established := ⟨.log, "Redis connection established"⟩
  failed message := ⟨.error, "Redis connection failed: " ++ message⟩

/-- Where the attempt begins: the first message is written and the timer is set, and `ping()`
is to settle, after `connect()` when the client waits for it; or not at all.
SOURCE: redis-core.module.ts:153-179 -/
def bootstrapState (opts : RedisConnectionOptions) (status : String) :
    AttemptState LogMessage :=
  if (opts.settings .lazyConnect).truthy then .idle
  else if hostsText opts = "" then .idle
  else ⟨if status = "wait" then 2 else 1, true,
    [⟨.log, "Connecting to redis at " ++ blue (hostsText opts)⟩]⟩

/-- What `onApplicationBootstrap()` sends to the logger when the timer and the calls come in a
given order. SOURCE: redis-core.module.ts:153-188 -/
def onApplicationBootstrap (opts : RedisConnectionOptions) (status : String)
    (es : List AttemptEvent) : Option (List LogMessage) :=
  (connectionAttempt blue opts).messages (bootstrapState blue opts status) es

end

end Xnestjs.Program.RedisCoreModule
