import Xnestjs.Model.ModuleGraph

/-!
# The dynamic modules of the packages

Each package has a module class with `forRoot` and `forRootAsync`, which wraps the dynamic
module that its core module builds in `_createDynamicModule`. The seven core modules build
the same kind of thing from the same parts, each with its own lists; they are kept apart
here, list by list. What providers produce is left out: only their tokens and the tokens they
are made from decide what can be resolved.
-/

set_option autoImplicit false

namespace Xnestjs.Program.ModuleRegistration

open Xnestjs.Model

inductive Package where
  | ioredis
  | kafka
  | elasticsearch
  | mongodb
  | rabbitmq
  | redisess
  | storage
  deriving DecidableEq, Repr

/-- Injection tokens: the symbol of the connection options, the client class, the symbols
`CLIENT_TOKEN` and of the module id of each package, `Db` of mongodb, `Logger`, and the tokens
of the application and of other packages. -/
inductive Token where
  | options (p : Package)
  | client (p : Package)
  | clientToken (p : Package)
  | moduleId (p : Package)
  | db
  | logger
  | other (name : String)
  deriving DecidableEq, Repr

/-- Module classes. `nestElasticsearch` is the `ElasticsearchModule` of `@nestjs/elasticsearch`. -/
inductive ModuleClass where
  | wrapper (p : Package)
  | core (p : Package)
  | innerProviders
  | nestElasticsearch
  | other (name : String)
  deriving DecidableEq, Repr

abbrev Dynamic (U : Type) := DynamicModule ModuleClass Token U

abbrev Fields (U : Type) := ModuleFields ModuleClass Token (Dynamic U)

/-- The options that both ways of registration share. `dbToken` is an option of mongodb only;
`none` is an absent option. -/
structure ModuleOptions where
  token : Option Token
  dbToken : Option Token
  global : Option Bool
  deriving DecidableEq, Repr

/-- `forRoot(options)`, or `forRootAsync(options)` with a factory, the modules it imports,
which the application names, and the tokens it is given. -/
inductive Registration (U : Type) where
  | forRoot (options : ModuleOptions)
  | forRootAsync (options : ModuleOptions) (imports : List U) (inject : List Token)

variable {U : Type}

namespace Registration

def options : Registration U → ModuleOptions
  | .forRoot options => options
  | .forRootAsync options _ _ => options

/-- `opts.imports` -/
def imports : Registration U → List U
  | .forRoot _ => []
  | .forRootAsync _ imports _ => imports

/-- The provider of the connection options: a value, or what the factory makes. -/
def optionsProvider (p : Package) : Registration U → Provider Token
  | .forRoot _ => ⟨.options p, []⟩
  | .forRootAsync _ _ inject => ⟨.options p, inject⟩

/-- `opts.token ?? …` -/
def token (p : Package) (r : Registration U) : Token := r.options.token.getD (.client p)

end Registration

/-- The `metadata` that `forRoot` and `forRootAsync` hand on. `global` is `none` where they do
not name it; none of them names `imports` or `exports`. -/
structure Metadata where
  global : Option (Option Bool)
  providers : List (Provider Token)

def metadataWithGlobal (p : Package) (r : Registration U) : Metadata :=
  ⟨some r.options.global, [r.optionsProvider p]⟩

def metadataWithoutGlobal (p : Package) (r : Registration U) : Metadata :=
  ⟨none, [r.optionsProvider p]⟩

/-- The field `global` of `{ global: given, ...metadata }`, as a condition. -/
def spreadGlobal (given : Option Bool) (metadata : Metadata) : Bool :=
  (metadata.global.getD given).getD false

/-- `ElasticsearchModule.registerAsync` of `@nestjs/elasticsearch`, as far as it is used: it
imports what it is given, is not global, and provides and exports the service. -/
structure NestElasticsearch (U : Type) where
  registerAsync : List (Dynamic U) → List Token → Fields U
  moduleClass : ∀ imports inject,
    (registerAsync imports inject).moduleClass = .nestElasticsearch
  global : ∀ imports inject, (registerAsync imports inject).global = false
  imports : ∀ imports inject, (registerAsync imports inject).imports = imports
  provides_service : ∀ imports inject,
    ∃ p ∈ (registerAsync imports inject).providers, p.token = .client .elasticsearch
  exports_service : ∀ imports inject,
    .token (.client .elasticsearch) ∈ (registerAsync imports inject).exports
  own_providers : ∀ imports inject, ∀ p ∈ (registerAsync imports inject).providers,
    p.token ≠ .options .elasticsearch

/-- What `ElasticsearchModule` of `@nestjs/elasticsearch` is documented to be: the service and
its options. -/
def documentedElasticsearch : NestElasticsearch U where
  registerAsync imports inject :=
    { moduleClass := .nestElasticsearch
      global := false
      imports := imports
      providers := [⟨.client .elasticsearch, [.other "ELASTICSEARCH_MODULE_OPTIONS"]⟩,
        ⟨.other "ELASTICSEARCH_MODULE_OPTIONS", inject⟩]
      exports := [.token (.client .elasticsearch)] }
  moduleClass _ _ := rfl
  global _ _ := rfl
  imports _ _ := rfl
  provides_service _ _ := ⟨_, List.mem_cons_self, rfl⟩
  exports_service _ _ := List.mem_cons_self
  own_providers _ _ := by simp

/-! ## `_createDynamicModule` of each package -/

/-- SOURCE: ioredis/redis-core.module.ts:63-105 -/
def Ioredis.createDynamicModule (r : Registration U) (metadata : Metadata) : Fields U :=
  let token := r.token .ioredis
  { global := spreadGlobal r.options.global metadata
    moduleClass := .core .ioredis
    imports := r.imports.map .named
    providers := metadata.providers ++
      [⟨token, [.options .ioredis]⟩, ⟨.clientToken .ioredis, [token]⟩, ⟨.logger, []⟩] ++
      [⟨.moduleId .ioredis, []⟩]
    exports := [.token (.options .ioredis), .token token] }

/-- The token is not exported. SOURCE: kafka/kafka-core.module.ts:66-106 -/
def Kafka.createDynamicModule (r : Registration U) (metadata : Metadata) : Fields U :=
  let token := r.token .kafka
  { global := spreadGlobal r.options.global metadata
    moduleClass := .core .kafka
    imports := r.imports.map .named
    providers := metadata.providers ++
      [⟨.logger, []⟩, ⟨.clientToken .kafka, [token]⟩, ⟨.moduleId .kafka, []⟩,
        ⟨token, [.options .kafka]⟩]
    exports := [.token (.options .kafka)] }

/-- The module inside, with the providers of the metadata.
SOURCE: elasticsearch/elasticsearch-core.module.ts:105-120 -/
def Elasticsearch.innerProviders (metadata : Metadata) : Fields U where
  global := false
  moduleClass := .innerProviders
  imports := []
  providers := metadata.providers
  exports := metadata.providers.map fun p => .token p.token

/-- The module around the service that the core module imports.
SOURCE: elasticsearch/elasticsearch-core.module.ts:113-127 -/
def aroundService (nest : NestElasticsearch U) (metadata : Metadata) : Fields U :=
  nest.registerAsync [.dynamic (Elasticsearch.innerProviders metadata)] [.options .elasticsearch]

/-- `opts.imports` is not used. SOURCE: elasticsearch/elasticsearch-core.module.ts:71-131 -/
def Elasticsearch.createDynamicModule (nest : NestElasticsearch U) (r : Registration U)
    (metadata : Metadata) : Fields U :=
  let service := Token.client .elasticsearch
  let token := r.token .elasticsearch
  let exports := [.token (.options .elasticsearch)]
  let providers := metadata.providers ++
    [⟨.logger, []⟩, ⟨.clientToken .elasticsearch, [service]⟩, ⟨.moduleId .elasticsearch, []⟩]
  let (exports, providers) :=
    if token ≠ service then (exports ++ [.token token], providers ++ [⟨token, [service]⟩])
    else (exports ++ [.moduleOf .nestElasticsearch], providers)
  { global := r.options.global.getD false
    moduleClass := .core .elasticsearch
    imports := [.dynamic (aroundService nest metadata)]
    providers := providers
    exports := exports }

/-- `opts.imports` is not used. SOURCE: mongodb/mongodb-core.module.ts:66-129 -/
def Mongodb.createDynamicModule (r : Registration U) (metadata : Metadata) : Fields U :=
  let token := r.token .mongodb
  let dbToken := r.options.dbToken.getD .db
  { global := spreadGlobal none metadata
    moduleClass := .core .mongodb
    imports := []
    providers := metadata.providers ++
      [⟨token, [.options .mongodb]⟩, ⟨dbToken, [token, .options .mongodb]⟩,
        ⟨.clientToken .mongodb, [token]⟩, ⟨.logger, []⟩, ⟨.moduleId .mongodb, []⟩]
    exports := [.token (.options .mongodb), .token token, .token dbToken] }

/-- SOURCE: rabbitmq/rabbitmq-core.module.ts:65-111 -/
def Rabbitmq.createDynamicModule (r : Registration U) (metadata : Metadata) : Fields U :=
  let token := r.token .rabbitmq
  { global := r.options.global.getD false
    moduleClass := .core .rabbitmq
    imports := r.imports.map .named
    providers := metadata.providers ++
      [⟨.logger, []⟩, ⟨.clientToken .rabbitmq, [token]⟩, ⟨.moduleId .rabbitmq, []⟩,
        ⟨token, [.options .rabbitmq]⟩]
    exports := [.token (.options .rabbitmq), .token token] }

/-- `opts.imports` is not used. SOURCE: redisess/redisess-core.module.ts:62-104 -/
def Redisess.createDynamicModule (r : Registration U) (metadata : Metadata) : Fields U :=
  let token := r.token .redisess
  { global := spreadGlobal r.options.global metadata
    moduleClass := .core .redisess
    imports := []
    providers := metadata.providers ++
      [⟨token, [.options .redisess]⟩, ⟨.clientToken .redisess, [token]⟩, ⟨.logger, []⟩,
        ⟨.moduleId .redisess, []⟩]
    exports := [.token (.options .redisess), .token token] }

/-- SOURCE: storage/storage-core.module.ts:57-105 -/
def Storage.createDynamicModule (r : Registration U) (metadata : Metadata) : Fields U :=
  let token := r.token .storage
  { global := spreadGlobal r.options.global metadata
    moduleClass := .core .storage
    imports := r.imports.map .named
    providers := metadata.providers ++
      [⟨token, [.options .storage]⟩, ⟨.clientToken .storage, [token]⟩, ⟨.logger, []⟩,
        ⟨.moduleId .storage, []⟩]
    exports := [.token (.options .storage), .token token] }

/-! ## Registration -/

/-- `forRoot` and `forRootAsync` of the core module of a package. -/
def coreModule (nest : NestElasticsearch U) (r : Registration U) : Package → Fields U
  | .ioredis => Ioredis.createDynamicModule r (metadataWithoutGlobal .ioredis r)
  | .kafka => Kafka.createDynamicModule r (metadataWithGlobal .kafka r)
  | .elasticsearch =>
    Elasticsearch.createDynamicModule nest r (metadataWithoutGlobal .elasticsearch r)
  | .mongodb => Mongodb.createDynamicModule r (metadataWithGlobal .mongodb r)
  | .rabbitmq => Rabbitmq.createDynamicModule r (metadataWithGlobal .rabbitmq r)
  | .redisess => Redisess.createDynamicModule r (metadataWithGlobal .redisess r)
  | .storage => Storage.createDynamicModule r (metadataWithGlobal .storage r)

/-- `XModule.forRoot` and `XModule.forRootAsync`: a module around the core module, without
exports of its own. SOURCE: redis.module.ts:7-19, and its like in each package -/
def wrapperModule (nest : NestElasticsearch U) (p : Package) (r : Registration U) : Fields U where
  global := false
  moduleClass := .wrapper p
  imports := [.dynamic (coreModule nest r p)]
  providers := []
  exports := []

def register (nest : NestElasticsearch U) (p : Package) (r : Registration U) : Dynamic U :=
  .dynamic (wrapperModule nest p r)

/-- The packages whose core module imports what `opts.imports` names. -/
def keepsImports : Package → Bool
  | .mongodb | .redisess | .elasticsearch => false
  | .ioredis | .kafka | .rabbitmq | .storage => true

/-- What is injected into the constructor of each core module; that of storage has none.
SOURCE: redis-core.module.ts:144-151, kafka-core.module.ts:116-124,
elasticsearch-core.module.ts:137-145, mongodb-core.module.ts:135-143,
rabbitmq-core.module.ts:117-125, redisess-core.module.ts:110-113 -/
def constructorTokens : Package → List Token
  | .redisess => [.clientToken .redisess]
  | .storage => []
  | .elasticsearch => [.clientToken .elasticsearch, .logger, .options .elasticsearch]
  | p => [.clientToken p, .options p, .logger]

/-! ## What the core modules have in common -/

section

variable (nest : NestElasticsearch U) (r : Registration U) (p : Package)

/-- INTERNAL: each core module is global when `global` is true.
SOURCE: `_createDynamicModule` of the seven packages -/
theorem coreModule_global : (coreModule nest r p).global = r.options.global.getD false := by
  cases p with
  | elasticsearch =>
    show (Elasticsearch.createDynamicModule nest r _).global = _
    unfold Elasticsearch.createDynamicModule
    rfl
  | _ => rfl

/-- INTERNAL: the exports of the elasticsearch core module.
SOURCE: elasticsearch/elasticsearch-core.module.ts:78-103 -/
theorem elasticsearch_exports (metadata : Metadata) :
    (Elasticsearch.createDynamicModule nest r metadata).exports =
      [.token (.options .elasticsearch),
        if r.token .elasticsearch ≠ .client .elasticsearch then
          .token (r.token .elasticsearch)
        else .moduleOf .nestElasticsearch] := by
  unfold Elasticsearch.createDynamicModule
  by_cases h : r.token .elasticsearch = .client .elasticsearch
  · simp [h]
  · simp [h]

/-- INTERNAL: the providers of the elasticsearch core module.
SOURCE: elasticsearch/elasticsearch-core.module.ts:82-103 -/
theorem elasticsearch_providers (metadata : Metadata) :
    (Elasticsearch.createDynamicModule nest r metadata).providers =
      metadata.providers ++ [⟨.logger, []⟩,
        ⟨.clientToken .elasticsearch, [.client .elasticsearch]⟩,
        ⟨.moduleId .elasticsearch, []⟩] ++
      if r.token .elasticsearch ≠ .client .elasticsearch then
        [⟨r.token .elasticsearch, [.client .elasticsearch]⟩]
      else [] := by
  unfold Elasticsearch.createDynamicModule
  by_cases h : r.token .elasticsearch = .client .elasticsearch
  · simp [h]
  · simp [h]

/-- INTERNAL: each core module has the provider of the connection options.
SOURCE: `forRoot` and `forRootAsync` of the seven packages -/
theorem optionsProvider_mem : r.optionsProvider p ∈ (coreModule nest r p).providers := by
  cases p with
  | elasticsearch =>
    show _ ∈ (Elasticsearch.createDynamicModule nest r _).providers
    rw [elasticsearch_providers]
    exact List.mem_cons_self
  | _ => exact List.mem_cons_self

/-- INTERNAL: four core modules import what the application names. -/
theorem coreModule_imports_of_keeps (hp : keepsImports p = true) :
    (coreModule nest r p).imports = r.imports.map .named := by
  cases p with
  | elasticsearch => cases hp
  | mongodb => cases hp
  | redisess => cases hp
  | _ => rfl

/-- INTERNAL: no core module imports a description, except that of elasticsearch. -/
theorem coreModule_imports_named (hp : p ≠ .elasticsearch) :
    ∀ d ∈ (coreModule nest r p).imports, ∃ u, d = .named u := by
  intro d hd
  by_cases hkeeps : keepsImports p = true
  · rw [coreModule_imports_of_keeps nest r p hkeeps] at hd
    obtain ⟨u, -, hu⟩ := List.mem_map.mp hd
    exact ⟨u, hu.symm⟩
  · cases p with
    | elasticsearch => exact absurd rfl hp
    | mongodb => cases hd
    | redisess => cases hd
    | _ => exact absurd rfl hkeeps

/-- INTERNAL: the module around the elasticsearch service imports the module inside, which has
the providers of the metadata.
SOURCE: elasticsearch/elasticsearch-core.module.ts:113-121 -/
theorem aroundService_imports (metadata : Metadata) :
    (aroundService nest metadata).imports = [.dynamic (Elasticsearch.innerProviders metadata)] :=
  nest.imports _ _

/-- INTERNAL: each core module has the provider of the client, made from the options. That of
elasticsearch has an alias of the service instead.
SOURCE: `_createDynamicModule` of the other six packages -/
theorem clientProvider_mem (hp : p ≠ .elasticsearch) :
    ⟨r.token p, [.options p]⟩ ∈ (coreModule nest r p).providers := by
  cases p with
  | elasticsearch => exact absurd rfl hp
  | ioredis =>
    apply List.mem_append_left
    apply List.mem_append_right
    exact List.mem_cons_self
  | _ =>
    apply List.mem_append_right
    simp

/-- INTERNAL: each core module exports the token of the client. That of elasticsearch may
export the module of the service instead, and that of kafka does not export it.
SOURCE: `exports` in `_createDynamicModule` of the other five packages -/
theorem token_mem_exports (hp : p ≠ .elasticsearch) (hkafka : p ≠ .kafka) :
    .token (r.token p) ∈ (coreModule nest r p).exports := by
  cases p with
  | elasticsearch => exact absurd rfl hp
  | kafka => exact absurd rfl hkafka
  | _ => exact List.mem_cons_of_mem _ List.mem_cons_self

/-- INTERNAL: the provider of the connection options has their symbol. -/
theorem optionsProvider_token : (r.optionsProvider p).token = .options p := by
  cases r <;> rfl

/-- INTERNAL: the wrapper has the core module as its one import.
SOURCE: redis.module.ts:7-19, and its like in each package -/
theorem core_of_register {ι : Type} {G : ι → ModuleFields ModuleClass Token ι} {place : U → ι}
    {x : ι} (hx : Realizes G place x (register nest p r)) :
    ∃ y, (G x).imports = [y] ∧ Realizes G place y (.dynamic (coreModule nest r p)) :=
  hx.only_import rfl

/-- INTERNAL: the parts of a registration of elasticsearch: the wrapper, the core module, the
module around the service, and the module inside.
SOURCE: elasticsearch/elasticsearch-core.module.ts:105-128 -/
theorem elasticsearch_partOf_iff {ι : Type} {G : ι → ModuleFields ModuleClass Token ι}
    {x y n z : ι} (hxy : (G x).imports = [y]) (hyn : (G y).imports = [n])
    (hnz : (G n).imports = [z]) (w : ι) (g : Fields U) :
    PartOf G x (register nest .elasticsearch r) w g ↔
      (w = x ∧ g = wrapperModule nest .elasticsearch r) ∨
      (w = y ∧ g = coreModule nest r .elasticsearch) ∨
      (w = n ∧ g = aroundService nest (metadataWithoutGlobal .elasticsearch r)) ∨
      (w = z ∧ g = Elasticsearch.innerProviders (metadataWithoutGlobal .elasticsearch r)) := by
  rw [register, partOf_iff_of_only_import hxy rfl, partOf_iff_of_only_import hyn rfl,
    partOf_iff_of_only_import hnz (aroundService_imports nest _),
    partOf_iff_of_named (fun d hd => by cases hd)]

end

end Xnestjs.Program.ModuleRegistration
