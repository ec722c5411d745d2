import Xnestjs.Program.ModuleRegistration
import Xnestjs.Model.ProviderBindings

/-!
# What the providers of the core modules give

The lists of `_createDynamicModule` again, with what each provider gives: the connection options,
the client that is built from them, the database of mongodb, the logger, the id of the module, or
what another token gives. Without that they are the lists of providers
(`coreBindings_providers`). The service of elasticsearch is bound in a module that the core module
imports, where it is built from the connection options.
-/

set_option autoImplicit false

namespace Xnestjs.Program.ModuleRegistration

open Xnestjs.Model

/-- What providers of a registration give. -/
inductive Given where
  | options
  | client
  | database
  | logger
  | moduleId
  deriving DecidableEq, Repr

abbrev TokenBinding := Binding Token Given

variable {U : Type}

namespace Registration

/-- The tokens whose values the factory of the application is called with. -/
def inject : Registration U → List Token
  | .forRoot _ => []
  | .forRootAsync _ _ inject => inject

/-- The binding of the connection options: to the resolved value, or to the factory around the one
of the application. SOURCE: `forRoot` and `forRootAsync` of the seven packages -/
def optionsBinding (p : Package) : Registration U → TokenBinding
  | .forRoot _ => ⟨.options p, .useValue .options⟩
  | .forRootAsync _ _ inject => ⟨.options p, .useFactory .options inject⟩

/-- `opts.dbToken ?? Db` of mongodb. -/
def dbToken (r : Registration U) : Token := r.options.dbToken.getD .db

end Registration

section

variable (p : Package) (r : Registration U)

/-- `{ provide: token, inject: [options], useFactory: … new Client(options) }` -/
def clientBinding : TokenBinding := ⟨r.token p, .useFactory .client [.options p]⟩

/-- `{ provide: CLIENT_TOKEN, useExisting: token }` -/
def clientTokenBinding : TokenBinding := ⟨.clientToken p, .useExisting (r.token p)⟩

/-- `{ provide: Logger, useValue: logger }` -/
def loggerBinding : TokenBinding := ⟨.logger, .useValue .logger⟩

/-- `{ provide: X_MODULE_ID, useValue: crypto.randomUUID() }` -/
def moduleIdBinding : TokenBinding := ⟨.moduleId p, .useValue .moduleId⟩

/-- The providers of a core module, in their order. SOURCE: redis-core.module.ts:67-102,
kafka-core.module.ts:73-99, elasticsearch-core.module.ts:82-103, mongodb-core.module.ts:72-117,
rabbitmq-core.module.ts:72-103, redisess-core.module.ts:67-96, storage-core.module.ts:62-95 -/
def coreBindings : List TokenBinding :=
  match p with
  | .ioredis =>
    [r.optionsBinding p, clientBinding p r, clientTokenBinding p r, loggerBinding,
      moduleIdBinding p]
  | .kafka | .rabbitmq =>
    [r.optionsBinding p, loggerBinding, clientTokenBinding p r, moduleIdBinding p,
      clientBinding p r]
  | .elasticsearch =>
    [r.optionsBinding p, loggerBinding, ⟨.clientToken p, .useExisting (.client p)⟩,
      moduleIdBinding p] ++
      if r.token p ≠ .client p then [⟨r.token p, .useExisting (.client p)⟩] else []
  | .mongodb =>
    [r.optionsBinding p, clientBinding p r,
      ⟨r.dbToken, .useFactory .database [r.token p, .options p]⟩, clientTokenBinding p r,
      loggerBinding, moduleIdBinding p]
  | .redisess | .storage =>
    [r.optionsBinding p, clientBinding p r, clientTokenBinding p r, loggerBinding,
      moduleIdBinding p]

/-- The bindings that are to be had in a core module: its own, and before them the service of
elasticsearch, which is built from the connection options in the module around it.
SOURCE: elasticsearch-core.module.ts:111-128 -/
def bindings : List TokenBinding :=
  match p with
  | .elasticsearch => ⟨.client p, .useFactory .client [.options p]⟩ :: coreBindings p r
  | _ => coreBindings p r

/-- INTERNAL: the provider of the connection options. -/
theorem optionsBinding_provider : (r.optionsBinding p).provider = r.optionsProvider p := by
  cases r <;> rfl

/-- **The bindings of a core module** are those of its providers.
SOURCE: `_createDynamicModule` of the seven packages -/
theorem coreBindings_providers (nest : NestElasticsearch U) :
    (coreBindings p r).map Binding.provider = (coreModule nest r p).providers := by
  have hoptions := optionsBinding_provider p r
  cases p with
  | elasticsearch =>
    show _ = (Elasticsearch.createDynamicModule nest r _).providers
    rw [elasticsearch_providers]
    simp only [metadataWithoutGlobal, ← hoptions]
    by_cases htoken : r.token .elasticsearch = .client .elasticsearch
    · simp only [coreBindings, htoken, ne_eq, not_true_eq_false, if_false, List.append_nil]
      rfl
    · simp only [coreBindings, htoken, ne_eq, not_false_eq_true, if_true]
      rfl
  | _ =>
    simp only [coreBindings, List.map_cons, hoptions]
    rfl

end

end Xnestjs.Program.ModuleRegistration
