import Xnestjs.Program.Bootstraps

/-!
# From the options to the bootstrap

What `forRoot` is given goes through the loader of the package, and the resolved configuration
through the factory of the client, before the hook of the core module reads it at bootstrap. The
constructors that the factories call are not part of the program: each may throw on what it is
given, and that of Redis gives a client with a status.
-/

set_option autoImplicit false

namespace Xnestjs.Program

open Xnestjs.Model

namespace RedisCoreModule

/-- The options that a client was created with. -/
def CreatedClient.opts : CreatedClient → GetRedisConfig.RedisConnectionOptions
  | .cluster _ opts => opts
  | .standalone opts => opts

end RedisCoreModule

namespace ElasticsearchCoreModule

/-- The value of `ELASTICSEARCH_CONNECTION_OPTIONS`. `getElasticsearchConfig` neither reads nor
writes `lazyConnect`. SOURCE: elasticsearch-core.module.ts:36-49 -/
def connectionOptions (h : VarHelpers) (env : Env) (useValue : ModuleConnectionOptions)
    (envPrefix : String := "ELASTIC_") : ModuleConnectionOptions where
  toElasticsearchConnectionOptions := GetElasticsearchConfig.getElasticsearchConfig h env
    useValue.toElasticsearchConnectionOptions envPrefix
  lazyConnect := useValue.lazyConnect

end ElasticsearchCoreModule

namespace KafkaCoreModule

open Xnestjs.Program.GetKafkaConfig

/-- `options.brokers` as a value. -/
def brokersValue : Option Brokers → Value
  | some (.list l) => .strs l
  | some (.find id) => .obj id
  | none => .undefined

/-- What the hook reads of the configuration. SOURCE: kafka-core.module.ts:127, 148-150 -/
def bootstrapOptions (options : KafkaConnectionOptions) : BootstrapOptions :=
  ⟨options.settings .lazyConnect, brokersValue options.brokers⟩

end KafkaCoreModule

/-- The constructors of the clients and of a database: what they are given, and whether they throw.
What is seen of a Redis client is its status. -/
structure ClientConstructors where
  redis : RedisCoreModule.CreatedClient → Except String String
  mongodb : MongodbCoreModule.MongoClientArgs → Except String Unit
  db : Value → Except String Unit
  elasticsearch : ElasticsearchCoreModule.ModuleConnectionOptions → Except String Unit
  rabbitmq : (GetRabbitmqConfig.RabbitmqSetting → Value) → Except String Unit
  kafka : GetKafkaConfig.KafkaConnectionOptions → Except String Unit

/-- How a module fails to start: its options are refused, or a constructor throws. -/
inductive StartError where
  | refused (e : RedisCoreModule.CreateError)
  | thrown (message : String)
  deriving DecidableEq, Repr

/-- A module with what `forRoot` is given. -/
inductive RegisteredModule where
  | redis (options : Option GetRedisConfig.RedisConnectionOptions)
  | mongodb (options : MongodbCoreModule.ModuleConnectionOptions)
  | elasticsearch (options : ElasticsearchCoreModule.ModuleConnectionOptions)
  | rabbitmq (init : GetRabbitmqConfig.RabbitmqInit)
  | kafka (options : GetKafkaConfig.KafkaConnectionOptions)

variable (new : ClientConstructors)

/-- The factory of the database. SOURCE: mongodb-core.module.ts:90-100 -/
def MongodbCoreModule.createDb (options : MongodbCoreModule.ModuleConnectionOptions) :
    Except String Unit :=
  if (options.settings .database).truthy then new.db (options.settings .database) else .ok ()

/-- The start of a module, up to its hook. SOURCE: `forRoot` and `_createDynamicModule` of the five
packages, redis-core.module.ts:107-138 -/
def RegisteredModule.start (newURL : String → Option Url) (h : GetRedisConfig.RedisVarHelpers)
    (env : Env) (pre : String) : RegisteredModule → Except StartError ConnectingModule
  | redis options => do
    let opts := GetRedisConfig.getRedisConfig h env options pre
    let client ← (RedisCoreModule.createClient newURL opts).mapError .refused
    let status ← (new.redis client).mapError .thrown
    return .redis opts status
  | mongodb options => do
    let opts := MongodbCoreModule.connectionOptions h.toVarHelpers env options pre
    (new.mongodb (MongodbCoreModule.createClient opts)).mapError .thrown
    (MongodbCoreModule.createDb new opts).mapError .thrown
    return .mongodb opts
  | elasticsearch options => do
    let opts := ElasticsearchCoreModule.connectionOptions h.toVarHelpers env options pre
    (new.elasticsearch opts).mapError .thrown
    return .elasticsearch opts
  | rabbitmq init => do
    let opts := GetRabbitmqConfig.getRabbitmqConfig h.toVarHelpers env init pre
    (new.rabbitmq opts).mapError .thrown
    return .rabbitmq opts
  | kafka options => do
    let opts := GetKafkaConfig.getKafkaConfig h.toVarHelpers env options pre
    (new.kafka opts).mapError .thrown
    return .kafka (KafkaCoreModule.bootstrapOptions opts)

end Xnestjs.Program
