import Xnestjs.Model.GuardedAttempt
import Xnestjs.Program.ElasticsearchCoreModule
import Xnestjs.Program.GetRabbitmqConfig
import Xnestjs.Program.KafkaCoreModule
import Xnestjs.Program.MongodbCoreModule
import Xnestjs.Program.RedisCoreModule

/-!
# The bootstrap of five modules

The core modules of Redis, MongoDB, Elasticsearch, RabbitMQ and Kafka connect their clients in
`onApplicationBootstrap` unless the options say otherwise, and write to the logger how it goes. The
messages and the first state are given here for the last three, and all five together as attempts
of one kind: the calls that the hook awaits settle as the drivers make them settle. Only the hook
of Kafka has a `finally`, in which its admin client is disconnected.
-/

set_option autoImplicit false

namespace Xnestjs.Program

open Xnestjs.Model

/-- `String(v)`; a number is a whole one, and an object has no text of its own. -/
def stringOf : Value → String
  | .undefined => "undefined"
  | .null => "null"
  | .bool b => toString b
  | .num x => toString x.num
  | .infinity negative => if negative then "-Infinity" else "Infinity"
  | .nan => "NaN"
  | .str s => s
  | .strs l => ",".intercalate l
  | .obj _ => "[object Object]"

namespace ElasticsearchCoreModule

open Xnestjs.Program.GetElasticsearchConfig

/-- The connection options with the one that only the module reads. -/
structure ModuleConnectionOptions extends ElasticsearchConnectionOptions where
  lazyConnect : Value

section

variable (blue : String → String)

/-- SOURCE: elasticsearch-core.module.ts:150-168 -/
def connectionAttempt (options : ModuleConnectionOptions) : TimedAttempt LogMessage where
  waiting := ⟨.verbose, "Waiting to connect to ElasticSearch [" ++
    blue (stringOf (options.node.orElse options.nodes)) ++ "]"⟩
  established := ⟨.log, "ElasticSearch connection established"⟩
  failed message := ⟨.error, "ElasticSearch connection failed: " ++ message⟩

/-- `ping()` is to settle. SOURCE: elasticsearch-core.module.ts:147-158 -/
def bootstrapState (options : ModuleConnectionOptions) : AttemptState LogMessage :=
  if options.lazyConnect.truthy then .idle else ⟨1, true, []⟩

end

end ElasticsearchCoreModule

namespace RabbitmqCoreModule

open Xnestjs.Program.GetRabbitmqConfig

/-- `options.hosts?.length`, as a condition. -/
def hasLength : Value → Bool
  | .str s => s != ""
  | .strs l => !l.isEmpty
  | _ => false

section

variable (blue : String → String)

/-- SOURCE: rabbitmq-core.module.ts:129-146 -/
def connectionAttempt (options : RabbitmqSetting → Value) : TimedAttempt LogMessage where
  waiting := ⟨.verbose, "Waiting to connect to RabbitMQ [" ++
    blue (stringOf (options .hosts)) ++ "]"⟩
  established := ⟨.log, "RabbitMQ connection established"⟩
  failed message := ⟨.error, "RabbitMQ connection failed: " ++ message⟩

/-- `onConnect()` is to settle. SOURCE: rabbitmq-core.module.ts:126-136 -/
def bootstrapState (options : RabbitmqSetting → Value) : AttemptState LogMessage :=
  if (options .lazyConnect).truthy ∨ hasLength (options .hosts) = false then .idle
  else ⟨1, true, []⟩

end

end RabbitmqCoreModule

namespace KafkaCoreModule

/-- The names of the brokers, the empty text when a function finds them.
SOURCE: kafka-core.module.ts:150-152 -/
def brokersText (blue : String → String) : Value → String
  | .strs l => blue (",".intercalate l)
  | _ => ""

section

variable (blue : String → String)

/-- The text of the brokers is coloured twice. SOURCE: kafka-core.module.ts:153-167 -/
def connectionAttempt (options : BootstrapOptions) : TimedAttempt LogMessage where
  waiting := ⟨.verbose, "Waiting to connect to Kafka brokers [" ++
    blue (brokersText blue options.brokers) ++ "]"⟩
  established := ⟨.log, "Kafka connection established"⟩
  failed message := ⟨.error, "Kafka connection failed: " ++ message⟩

/-- `connect()` and `fetchTopicMetadata()` of the admin are to settle.
SOURCE: kafka-core.module.ts:149-163 -/
def bootstrapState (options : BootstrapOptions) : AttemptState LogMessage :=
  if options.lazyConnect.truthy ∨ options.brokers.truthy = false then .idle else ⟨2, true, []⟩

end

end KafkaCoreModule

/-! ## All of them -/

/-- A module with a client to connect, and what its hook reads. -/
inductive ConnectingModule where
  | redis (opts : GetRedisConfig.RedisConnectionOptions) (status : String)
  | mongodb (options : MongodbCoreModule.ModuleConnectionOptions)
  | elasticsearch (options : ElasticsearchCoreModule.ModuleConnectionOptions)
  | rabbitmq (options : GetRabbitmqConfig.RabbitmqSetting → Value)
  | kafka (options : KafkaCoreModule.BootstrapOptions)

namespace ConnectingModule

variable (blue : String → String)

def attempt : ConnectingModule → GuardedAttempt LogMessage
  | redis opts _ => ⟨RedisCoreModule.connectionAttempt blue opts, false⟩
  | mongodb options => ⟨MongodbCoreModule.connectionAttempt blue options, false⟩
  | elasticsearch options => ⟨ElasticsearchCoreModule.connectionAttempt blue options, false⟩
  | rabbitmq options => ⟨RabbitmqCoreModule.connectionAttempt blue options, false⟩
  | kafka options => ⟨KafkaCoreModule.connectionAttempt blue options, true⟩

def bootstrapState : ConnectingModule → AttemptState LogMessage
  | redis opts status => RedisCoreModule.bootstrapState blue opts status
  | mongodb options => MongodbCoreModule.bootstrapState options
  | elasticsearch options => ElasticsearchCoreModule.bootstrapState options
  | rabbitmq options => RabbitmqCoreModule.bootstrapState options
  | kafka options => KafkaCoreModule.bootstrapState options

/-- `onApplicationBootstrap()`, when the timer and the calls come in a given order. -/
def onApplicationBootstrap (m : ConnectingModule) (es : List AttemptEvent) :
    Option (GuardedState LogMessage) :=
  runFrom (m.attempt blue).step (m.bootstrapState blue).guarded es

/-- INTERNAL: the messages of the Redis hook are those of the attempt. -/
theorem redis_messages_eq (opts : GetRedisConfig.RedisConnectionOptions) (status : String)
    (es : List AttemptEvent) :
    RedisCoreModule.onApplicationBootstrap blue opts status es =
      ((redis opts status).onApplicationBootstrap blue es).map GuardedState.written :=
  (redis opts status |>.attempt blue).messages_of_no_cleanup rfl _ es

/-- INTERNAL: and those of the MongoDB hook. -/
theorem mongodb_messages_eq (options : MongodbCoreModule.ModuleConnectionOptions)
    (es : List AttemptEvent) :
    MongodbCoreModule.onApplicationBootstrap blue options es =
      ((mongodb options).onApplicationBootstrap blue es).map GuardedState.written :=
  (mongodb options |>.attempt blue).messages_of_no_cleanup rfl _ es

end ConnectingModule

end Xnestjs.Program
